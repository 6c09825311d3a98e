import TreeReport.Value
import TreeReport.Decimal
import TreeReport.Binary64.Shortest
import TreeReport.Text.Quoted

/-! Values as text. The literal form quotes strings and shows the structure; the
plain form differs from it only for a string, which it gives unquoted. Either form
fails on an integer that is too long to be written. -/
namespace TreeReport.Value

def commas (items : List Text) : Text := Text.joinWith ", " items

def tupleText : List Text → Text
  | [only] => ("(" : Text) ++ only ++ (",)" : Text)
  | items => ("(" : Text) ++ commas items ++ (")" : Text)

def bracketed (opening : Text) (items : List Text) (closing : Text) : Text :=
  opening ++ commas items ++ closing

/-- Braces around nothing mean an empty mapping, so an empty set has none. -/
def setText (form : SetForm) (items : List Text) : Text :=
  match form, items with
  | .growing, [] => "set()"
  | .growing, items => bracketed "\x7b" items "\x7d"
  | .frozen, [] => "frozenset()"
  | .frozen, items => bracketed "frozenset(\x7b" items "\x7d)"

def mappingText (form : MappingForm) (entries : List Text) : Text :=
  match form with
  | .dictionary => bracketed "\x7b" entries "\x7d"
  | .view => bracketed "mappingproxy(\x7b" entries "\x7d)"

mutual

def literal : Value → Text
  | .null => "None"
  | .bool b => if b then "True" else "False"
  | .int n => Decimal.integer n
  | .float x => x.text
  | .str text => text.quoted
  | .bytes content => Text.quotedBytes content
  | .sequence .list items => bracketed "[" (literals items) "]"
  | .sequence .tuple items => tupleText (literals items)
  | .set form items => setText form (literals items)
  | .mapping form entries => mappingText form (literalEntries entries)
  | .object label => label
  | .options showPositions colors =>
      ("InspectOptions(show_positions=" : Text) ++ literal showPositions ++ (", colors=" : Text) ++
        literal colors ++ (")" : Text)
termination_by structural value => value

def literals : List Value → List Text
  | [] => []
  | item :: rest => literal item :: literals rest
termination_by structural items => items

def literalEntries : List (Value × Value) → List Text
  | [] => []
  | (key, value) :: rest => (literal key ++ (": " : Text) ++ literal value) :: literalEntries rest
termination_by structural entries => entries

end

theorem literals_map (items : List Value) : literals items = items.map literal := by
  induction items with
  | nil => rfl
  | cons item rest ih => rw [literals, ih, List.map_cons]

theorem literalEntries_map (entries : List (Value × Value)) :
    literalEntries entries =
      entries.map fun entry => literal entry.1 ++ (": " : Text) ++ literal entry.2 := by
  induction entries with
  | nil => rfl
  | cons entry rest ih => rw [literalEntries, ih, List.map_cons]

def plain : Value → Text
  | .str text => text
  | value => literal value

mutual

def spelled : Value → List Int
  | .int n => [n]
  | .sequence _ items => spelledItems items
  | .set _ items => spelledItems items
  | .mapping _ entries => spelledEntries entries
  | .options showPositions colors => spelled showPositions ++ spelled colors
  | _ => []
termination_by structural value => value

def spelledItems : List Value → List Int
  | [] => []
  | item :: rest => spelled item ++ spelledItems rest
termination_by structural items => items

def spelledEntries : List (Value × Value) → List Int
  | [] => []
  | (key, value) :: rest => spelled key ++ spelled value ++ spelledEntries rest
termination_by structural entries => entries

end

/-- The plain form, unless an integer in it is too long to be written. -/
def spell (value : Value) : Except Decimal.Overflow Text := Decimal.write value.spelled value.plain

end TreeReport.Value
