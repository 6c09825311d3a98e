import TreeReport.Binary64.Rounded
import TreeReport.Logging.Origin
import TreeReport.Logging.Record
import TreeReport.Logging.Timestamp.Pattern
import TreeReport.Text.Capital
import TreeReport.Text.Class
import TreeReport.Text.Word
import TreeReport.Value.Display
import TreeReport.Value.Equality

/-! Record formats: text with directives such as `%(levelname)-8s`, and with two
percent signs for one. A format is valid when it holds at least one named
directive. The first directive may lack a name, which stands for all parts of the
record. Filling in a directive fails when the name is unknown or its value does
not suit the conversion, and then the record has no text at all. -/
namespace TreeReport.Logging.Format

section Validity

def flagSymbols : Text := "#0+ -"

def conversionSymbols : Text := "diouxefgcrsaDIOUXEFGCRSA%ıİſ"

def isFlag (symbol : Symbol) : Bool := flagSymbols.contains symbol

def isDigit (symbol : Symbol) : Bool := (Text.digitValue? symbol).isSome

def skipAmount : Text → Text
  | .char '*' :: rest => rest
  | text => text.dropWhile isDigit

def beginsConversion (text : Text) : Bool :=
  let body := skipAmount (text.dropWhile isFlag)
  let body := match body with
    | .char '.' :: rest =>
        let after := skipAmount rest
        if after.length < rest.length then after else body
    | _ => body
  match body with
  | symbol :: _ => conversionSymbols.contains symbol
  | [] => false

def beginsNamed : Text → Bool
  | .char '%' :: .char '(' :: body =>
      let name := body.takeWhile Text.isWordSymbol
      match body.drop name.length with
      | .char ')' :: rest => !name.isEmpty && beginsConversion rest
      | _ => false
  | _ => false

def isValid : Text → Bool
  | [] => false
  | symbol :: rest => beginsNamed (symbol :: rest) || isValid rest

end Validity

structure Directive where
  left : Bool := false
  plus : Bool := false
  space : Bool := false
  zero : Bool := false
  alternate : Bool := false
  width : Nat := 0
  precision : Option Nat := none
  deriving DecidableEq, Repr

inductive Phase where
  | flags
  | width
  | precision
  | conversion
  deriving DecidableEq, Repr

section Refinement

def isModifier (symbol : Symbol) : Bool :=
  symbol = .char 'h' || symbol = .char 'l' || symbol = .char 'L'

def widthLimit : Nat := 0x7FFFFFFFFFFFFFFF

def precisionLimit : Nat := 0x7FFFFFFF

def Directive.setFlag (directive : Directive) : Symbol → Directive
  | .char '-' => { directive with left := true }
  | .char '+' => { directive with plus := true }
  | .char ' ' => { directive with space := true }
  | .char '0' => { directive with zero := true }
  | _ => { directive with alternate := true }

def Directive.widen? (directive : Directive) (digit : Nat) : Option Directive :=
  let width := 10 * directive.width + digit
  if width ≤ widthLimit then some { directive with width } else none

def Directive.sharpen? (directive : Directive) (digit : Nat) : Option Directive :=
  let precision := 10 * directive.precision.getD 0 + digit
  if precision ≤ precisionLimit then some { directive with precision } else none

/-- The directive after one more symbol, unless the symbol is its conversion. A
width or precision beyond its limit has no continuation. -/
def refine? (directive : Directive) (phase : Phase) (symbol : Symbol) :
    Option (Directive × Phase) :=
  if phase = .flags ∧ isFlag symbol then some (directive.setFlag symbol, .flags)
  else match Text.asciiDigit? symbol, phase with
    | some digit, .flags => (directive.widen? digit).map (·, .width)
    | some digit, .width => (directive.widen? digit).map (·, .width)
    | some digit, .precision => (directive.sharpen? digit).map (·, .precision)
    | _, _ =>
        if symbol = .char '.' ∧ (phase = .flags ∨ phase = .width) then
          some ({ directive with precision := some 0 }, .precision)
        else if isModifier symbol ∧ phase ≠ .conversion then some (directive, .conversion)
        else none

end Refinement

section Conversion

def fill (directive : Directive) (text : Text) : Text :=
  if directive.left then Text.padRight directive.width text
  else Text.spaces (directive.width - text.length) ++ text

def fillText (directive : Directive) (text : Text) : Text :=
  fill directive (match directive.precision with
    | some most => text.take most
    | none => text)

/-- Zeros go between the sign and the digits; a mark of the base belongs to the
sign. -/
def fillNumber (directive : Directive) (negative : Bool) (mark digits : Text) : Text :=
  let sign : Text := if negative then "-" else if directive.plus then "+"
    else if directive.space then " " else []
  let lead := sign ++ mark
  let digits := if directive.zero && !directive.left then
      List.replicate (directive.width - lead.length - digits.length) (.char '0') ++ digits
    else digits
  fill directive (lead ++ digits)

def asciiOnly (text : Text) : Text :=
  text.flatMap fun symbol => if symbol.code < 0x80 then [symbol] else Text.escapedCode symbol.code

def integerText (directive : Directive) (base : Nat) (mark : Text) (n : Int) : Text :=
  let digits := (Nat.toDigits base n.natAbs).map Symbol.char
  fillNumber directive (n < 0) (if directive.alternate then mark else [])
    (List.replicate (directive.precision.getD 1 - digits.length) (.char '0') ++ digits)

inductive FloatForm where
  | fixed
  | scientific
  | general
  deriving DecidableEq, Repr

/-- Six digits unless the precision says otherwise. They are counted from the
point on, but from the first one in the general form, which also drops zeros. -/
def FloatForm.text (form : FloatForm) (directive : Directive) (size : Nat) : Text :=
  let precision := directive.precision.getD 6
  let whole : Binary64.Ending := ⟨directive.alternate, false⟩
  match form with
  | .fixed => Binary64.fixedText whole precision size
  | .scientific => Binary64.scientificText whole precision size
  | .general =>
      Binary64.generalText ⟨directive.alternate, !directive.alternate⟩ (precision - 1) size

def floatText (directive : Directive) (form : FloatForm) : Binary64 → Text
  | .nan => fillNumber directive false [] "nan"
  | .infinite negative => fillNumber directive negative [] "inf"
  | .finite negative exponent fraction =>
      fillNumber directive negative []
        (form.text directive (Binary64.magnitude exponent fraction))

def whole? : Value → Option Int
  | .float x => x.truncate?
  | value => value.asInteger?

def real? : Value → Option Binary64
  | .float x => some x
  | value => do
      let x := Binary64.ofInteger (← value.asInteger?)
      if x.isFinite then some x else none

def single? : Value → Option Symbol
  | .str [symbol] => some symbol
  | value => value.asInteger?.bind fun n => match n with
    | .ofNat code => Symbol.ofCode? code
    | .negSucc _ => none

def inBase? (directive : Directive) (base : Nat) (mark : Text) (value : Value) : Option Text :=
  value.asInteger?.map (integerText directive base mark)

def inDecimal? (directive : Directive) (value : Value) : Option Text :=
  (whole? value).map (integerText directive 10 [])

def inForm? (directive : Directive) (form : FloatForm) (value : Value) : Option Text :=
  (real? value).map (floatText directive form)

/-- The text of a value, if it suits the conversion. Capital letters ask for the
same text in capitals. -/
def convert? (directive : Directive) (conversion : Symbol) (value : Value) : Option Text :=
  match conversion with
  | .char 's' => some (fillText directive value.plain)
  | .char 'r' => some (fillText directive value.literal)
  | .char 'a' => some (fillText directive (asciiOnly value.literal))
  | .char 'c' => (single? value).map fun symbol => fill directive [symbol]
  | .char 'd' => inDecimal? directive value
  | .char 'i' => inDecimal? directive value
  | .char 'u' => inDecimal? directive value
  | .char 'o' => inBase? directive 8 "0o" value
  | .char 'x' => inBase? directive 16 "0x" value
  | .char 'X' => (inBase? directive 16 "0x" value).map Text.upper
  | .char 'f' => inForm? directive .fixed value
  | .char 'F' => (inForm? directive .fixed value).map Text.upper
  | .char 'e' => inForm? directive .scientific value
  | .char 'E' => (inForm? directive .scientific value).map Text.upper
  | .char 'g' => inForm? directive .general value
  | .char 'G' => (inForm? directive .general value).map Text.upper
  | _ => none

end Conversion

section Filling

inductive Position where
  | literal
  | opened
  | key (depth : Nat) (name : Text)
  | within (value : Value) (directive : Directive) (phase : Phase)

/-- A reader of a format. It is fresh until it meets its first directive. -/
structure Reader where
  position : Position := .literal
  fresh : Bool := true

def Reader.convert? (value : Value) (directive : Directive) (phase : Phase) (symbol : Symbol) :
    Option (Text × Reader) :=
  match refine? directive phase symbol with
  | some (directive, phase) => some ([], ⟨.within value directive phase, false⟩)
  | none => (Format.convert? directive symbol value).map fun text => (text, ⟨.literal, false⟩)

/-- The text that one symbol gives, and where the reader stands then. A directive
without a name shows all parts at once, and only as the first directive. -/
def Reader.step? (parts : Entries) (reader : Reader) (symbol : Symbol) :
    Option (Text × Reader) :=
  match reader.position with
  | .literal =>
      if symbol = .char '%' then some ([], { reader with position := .opened })
      else some ([symbol], reader)
  | .opened =>
      if symbol = .char '(' then some ([], { reader with position := .key 0 [] })
      else if symbol = .char '%' then some ([symbol], { reader with position := .literal })
      else if reader.fresh then Reader.convert? (.mapping .dictionary parts) {} .flags symbol
      else none
  | .key depth name =>
      if symbol = .char ')' ∧ depth = 0 then
        (parts.get? name).map fun value => ([], ⟨.within value {} .flags, false⟩)
      else
        let deeper := if symbol = .char '(' then depth + 1
          else if symbol = .char ')' then depth - 1
          else depth
        some ([], { reader with position := .key deeper (name ++ [symbol]) })
  | .within value directive phase => Reader.convert? value directive phase symbol

def Reader.fill? (parts : Entries) (reader : Reader) : Text → Option Text
  | [] =>
      match reader.position with
      | .literal => some []
      | _ => none
  | symbol :: rest => do
      let (text, next) ← reader.step? parts symbol
      (next.fill? parts rest).map (text ++ ·)

end Filling

def usesTime (format : Text) : Bool :=
  match format with
  | [] => false
  | symbol :: rest => Text.startsWith "%(asctime)" (symbol :: rest) || usesTime rest

/-- The time as a record shows it. A pattern of no use leaves the milliseconds
in; what is no text, or holds a null character, cannot be applied. -/
def timeText? (pattern : Value) (time : Timestamp) : Option Text :=
  match pattern with
  | .str text =>
      if text.isEmpty then some time.fullText
      else if text.contains (.char '\x00') then none
      else some (time.text text)
  | _ => if pattern.truth then none else some time.fullText

def parts (record : Record) (origin : Origin) (time : Option Text) : Entries :=
  let named : List (Text × Value) := [
    ("name", .str record.logger), ("msg", .str record.message), ("args", .null),
    ("levelname", .str record.level.name), ("levelno", .int record.level.rank),
    ("pathname", .str origin.path), ("filename", .str origin.file),
    ("module", .str origin.module), ("exc_info", .null), ("exc_text", .null),
    ("stack_info", .null), ("lineno", .int origin.line), ("funcName", .str origin.function),
    ("created", .float (Binary64.ofRatio false origin.created.elapsed 1000)),
    ("msecs", .float (Binary64.ofInteger origin.created.millisecond)),
    ("relativeCreated", .float (Binary64.ofInteger origin.sinceStart)),
    ("thread", .int origin.thread), ("threadName", .str "MainThread"),
    ("processName", .str "MainProcess"), ("process", .int origin.process),
    ("message", .str record.message)]
  let timed : List (Text × Value) := match time with
    | some text => [("asctime", .str text)]
    | none => []
  (named ++ timed).map fun (name, value) => (.str name, value)

def recordText? (format : Text) (pattern : Value) (record : Record) (origin : Origin) :
    Option Text := do
  let time ← if usesTime format then
      (timeText? pattern origin.created).map some
    else some none
  Reader.fill? (parts record origin time) {} format

end TreeReport.Logging.Format
