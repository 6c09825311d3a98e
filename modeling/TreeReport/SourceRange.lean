import TreeReport.Decimal
import TreeReport.Value

/-! The text of a source range, `line:column-line:column`, followed by the two
offsets when both points have one. A field counts when it is a finite number;
a range without any such field has no text. -/
namespace TreeReport.SourceRange

def usable? : Value → Option Int
  | .int n => some n
  | .float x => x.truncate?
  | _ => none

def field? (point : Option Value) (name : Text) : Option Int :=
  match point with
  | some (.mapping _ entries) => (Entries.get? name entries).bind usable?
  | _ => none

def hasData (point : Option Value) : Bool :=
  (field? point "line").isSome || (field? point "column").isSome || (field? point "offset").isSome

/-- A coordinate that is missing or zero shows as one. -/
def coordinate (found : Option Int) : Int :=
  match found with
  | some n => if n = 0 then 1 else n
  | none => 1

def lineColumn (point : Option Value) : Text :=
  Decimal.integer (coordinate (field? point "line")) ++ (":" : Text) ++
    Decimal.integer (coordinate (field? point "column"))

def offsets (first last : Option Value) : Text :=
  match field? first "offset", field? last "offset" with
  | some a, some b => (", " : Text) ++ Decimal.integer a ++ ("-" : Text) ++ Decimal.integer b
  | _, _ => []

def text : Value → Text
  | .mapping _ entries =>
      let first := Entries.get? "start" entries
      let last := Entries.get? "end" entries
      if hasData first || hasData last then
        lineColumn first ++ ("-" : Text) ++ lineColumn last ++ offsets first last
      else []
  | _ => []

def written : Value → List Int
  | .mapping _ entries =>
      let first := Entries.get? "start" entries
      let last := Entries.get? "end" entries
      if hasData first || hasData last then
        [coordinate (field? first "line"), coordinate (field? first "column"),
          coordinate (field? last "line"), coordinate (field? last "column")] ++
        match field? first "offset", field? last "offset" with
        | some a, some b => [a, b]
        | _, _ => []
      else []
  | _ => []

/-- The text, unless a number in it is too long to be written. -/
def stringify (position : Value) : Except Decimal.Overflow Text :=
  Decimal.write (written position) (text position)

end TreeReport.SourceRange
