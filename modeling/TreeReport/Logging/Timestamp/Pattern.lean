import TreeReport.Logging.Timestamp
import TreeReport.Text.Capital
import TreeReport.Text.Class

/-! Time patterns: text with directives such as `%H` or `%-5d`. Between the
percent sign and the letter may stand flags, a width and one modifier. What is no
directive is shown as it was written, though its flags and its width still
count. Names are English, and the zone is universal time. -/
namespace TreeReport.Logging.Timestamp

inductive Padding where
  | usual
  | spaces
  | zeros
  | bare
  deriving DecidableEq, Repr

inductive Modifier where
  | era
  | digits
  deriving DecidableEq, Repr

structure Directive where
  written : Text := "%"
  padding : Padding := .usual
  capitals : Bool := false
  swapped : Bool := false
  width : Nat := 0
  modifier : Option Modifier := none
  deriving DecidableEq, Repr

inductive Phase where
  | flags
  | width
  | letter
  deriving DecidableEq, Repr

section Reading

def Directive.setFlag? (directive : Directive) : Symbol → Option Directive
  | .char '_' => some { directive with padding := .spaces }
  | .char '-' => some { directive with padding := .bare }
  | .char '0' => some { directive with padding := .zeros }
  | .char '^' => some { directive with capitals := true }
  | .char '#' => some { directive with swapped := true }
  | _ => none

def Modifier.ofLetter? : Symbol → Option Modifier
  | .char 'E' => some .era
  | .char 'O' => some .digits
  | _ => none

/-- The directive after one more symbol, unless the symbol is its letter. A width
counts only up to a limit. -/
def refine? (limit : Nat) (directive : Directive) (phase : Phase) (symbol : Symbol) :
    Option (Directive × Phase) :=
  let longer := { directive with written := directive.written ++ [symbol] }
  match phase, longer.setFlag? symbol, Text.asciiDigit? symbol, Modifier.ofLetter? symbol with
  | .flags, some flagged, _, _ => some (flagged, .flags)
  | .letter, _, _, _ => none
  | _, _, some digit, _ =>
      some ({ longer with width := min limit (10 * longer.width + digit) }, .width)
  | _, _, none, some modifier => some ({ longer with modifier := some modifier }, .letter)
  | _, _, none, none => none

end Reading

section Field

def Directive.fill (directive : Directive) (text : Text) : Text :=
  let filler : Symbol := if directive.padding = .zeros then .char '0' else .char ' '
  List.replicate (directive.width - text.length) filler ++ text

/-- A number of at least so many digits, with zeros in front unless the directive
wants spaces, or nothing beyond its width. -/
def Directive.number (directive : Directive) (least n : Nat) : Text :=
  let digits := Decimal.natural n
  let missing := max least directive.width - digits.length
  match directive.padding with
  | .bare => directive.fill digits
  | .spaces => Text.spaces missing ++ digits
  | _ => List.replicate missing (.char '0') ++ digits

def Directive.spacedNumber (directive : Directive) (least n : Nat) : Text :=
  let padding := if directive.padding = .usual then .spaces else directive.padding
  Directive.number { directive with padding } least n

def Directive.name (directive : Directive) (text : Text) : Text :=
  directive.fill (if directive.capitals || directive.swapped then Text.upper text else text)

/-- A short name in capitals, or in small letters where the case is swapped. -/
def Directive.abbreviation (directive : Directive) (text : Text) : Text :=
  directive.fill (if directive.swapped then Text.lower text else text)

def monthNames : List Text := [
  "January", "February", "March", "April", "May", "June", "July", "August", "September",
  "October", "November", "December"]

def dayNames : List Text := [
  "Sunday", "Monday", "Tuesday", "Wednesday", "Thursday", "Friday", "Saturday"]

def monthName (time : Timestamp) : Text := monthNames.getD (time.month - 1) []

def dayName (time : Timestamp) : Text := dayNames.getD (daysSinceSunday time.day) []

def halfName (time : Timestamp) : Text := if time.hour < 12 then "AM" else "PM"

def Modifier.barred : Modifier → Text
  | .era => "aAbBdDeFgGhHIjklmMSUVWw"
  | .digits => "aAcDFxXY"

def field? (time : Timestamp) (directive : Directive) : Symbol → Option Text
  | .char '%' => some (directive.fill "%")
  | .char 'n' => some (directive.fill "\n")
  | .char 't' => some (directive.fill "\t")
  | .char 'a' => some (directive.name ((dayName time).take 3))
  | .char 'A' => some (directive.name (dayName time))
  | .char 'b' => some (directive.name ((monthName time).take 3))
  | .char 'h' => some (directive.name ((monthName time).take 3))
  | .char 'B' => some (directive.name (monthName time))
  | .char 'p' => some (directive.abbreviation (halfName time))
  | .char 'P' => some (directive.fill (Text.lower (halfName time)))
  | .char 'Y' => some (directive.number 1 time.year)
  | .char 'C' => some (directive.number 1 (time.year / 100))
  | .char 'y' => some (directive.number 2 (time.year % 100))
  | .char 'G' => some (directive.number 1 time.weekYear)
  | .char 'g' => some (directive.number 2 (time.weekYear % 100))
  | .char 'm' => some (directive.number 2 time.month)
  | .char 'd' => some (directive.number 2 time.dayOfMonth)
  | .char 'e' => some (directive.spacedNumber 2 time.dayOfMonth)
  | .char 'j' => some (directive.number 3 (dayOfYear time.day + 1))
  | .char 'H' => some (directive.number 2 time.hour)
  | .char 'k' => some (directive.spacedNumber 2 time.hour)
  | .char 'I' => some (directive.number 2 time.clockHour)
  | .char 'l' => some (directive.spacedNumber 2 time.clockHour)
  | .char 'M' => some (directive.number 2 time.minute)
  | .char 'S' => some (directive.number 2 time.second)
  | .char 's' => some (directive.fill (Decimal.natural time.seconds))
  | .char 'u' => some (directive.number 1 (daysSinceMonday time.day + 1))
  | .char 'w' => some (directive.number 1 (daysSinceSunday time.day))
  | .char 'U' => some (directive.number 2 time.sundayWeek)
  | .char 'W' => some (directive.number 2 time.mondayWeek)
  | .char 'V' => some (directive.number 2 time.week)
  | .char 'Z' => some (directive.abbreviation "UTC")
  | .char 'z' => some (directive.fill "+" ++ directive.number 4 0)
  | _ => none

def composite? : Symbol → Option Text
  | .char 'c' => some "%a %b %e %H:%M:%S %Y"
  | .char 'x' => some "%m/%d/%y"
  | .char 'D' => some "%m/%d/%y"
  | .char 'F' => some "%Y-%m-%d"
  | .char 'X' => some "%H:%M:%S"
  | .char 'T' => some "%H:%M:%S"
  | .char 'r' => some "%I:%M:%S %p"
  | .char 'R' => some "%H:%M"
  | _ => none

end Field

section Pattern

inductive Position where
  | literal
  | within (directive : Directive) (phase : Phase)

def Directive.shown (directive : Directive) (text : Text) : Text :=
  directive.fill (if directive.capitals then Text.upper text else text)

/-- A directive without a meaning, as it was written. Swapping the case capitalizes
a short month name before its modifier is looked at. -/
def Directive.asWritten (directive : Directive) (letter : Symbol) : Text :=
  let isMonth := letter = .char 'b' || letter = .char 'h'
  let capitals := directive.capitals || directive.swapped && isMonth
  Directive.shown { directive with capitals } (directive.written ++ [letter])

/-- Shows a pattern, given what the letters show. A directive that is broken off
or has no meaning is shown as written. -/
def showWith (field : Directive → Symbol → Option Text) (limit : Nat) : Position → Text → Text
  | .literal, [] => []
  | .within directive _, [] => directive.shown directive.written
  | .literal, symbol :: rest =>
      if symbol = .char '%' then showWith field limit (.within {} .flags) rest
      else symbol :: showWith field limit .literal rest
  | .within directive phase, symbol :: rest =>
      match refine? limit directive phase symbol with
      | some (directive, phase) => showWith field limit (.within directive phase) rest
      | none =>
          (field directive symbol).getD (directive.asWritten symbol) ++
            showWith field limit .literal rest

/-- What a letter shows in a pattern. The patterns that letters stand for use no
letters of that kind themselves. -/
def letterText? (time : Timestamp) (directive : Directive) (letter : Symbol) : Option Text :=
  if directive.modifier.any fun modifier => modifier.barred.contains letter then none
  else match composite? letter with
    | some pattern => some (directive.shown (showWith time.field? 0 .literal pattern))
    | none => time.field? directive letter

/-- How long the text of a pattern may grow: to the next power of two from 256
times the length of the pattern, but at least to 1024. -/
def room (pattern : Text) : Nat := max 1024 (256 * pattern.length.nextPowerOfTwo)

/-- The text of a pattern; one that outgrows its room is not shown at all. -/
def text (time : Timestamp) (pattern : Text) : Text :=
  let shown := showWith time.letterText? (room pattern) .literal pattern
  if shown.length < room pattern then shown else []

end Pattern

def defaultPattern : Text := "%Y-%m-%d %H:%M:%S"

def fullText (time : Timestamp) : Text :=
  time.text defaultPattern ++ .char ',' :: ({} : Directive).number 3 time.millisecond

end TreeReport.Logging.Timestamp
