import TreeReport.Logging.Format
import TreeReport.Text.Class

/-! What logging is to do. The fields hold whatever the caller gave; each is read
when it is needed, so an unusable one is noticed only then. -/
namespace TreeReport.Logging

structure Configuration where
  level : Value := .str "WARNING"
  console : Value := .bool true
  logFile : Value := .null
  maxBytes : Value := .int (1024 * 1024)
  backupCount : Value := .int 2
  consoleFormat : Value := .str "%(levelname)s | %(message)s"
  fileFormat : Value := .str "%(asctime)s | %(levelname)s | %(name)s | %(message)s"
  dateFormat : Value := .str Timestamp.defaultPattern

inductive Fault where
  | unknownField (name : Text)
  | invalidFormat (format : Text)
  | formatNotText (typeName : Text)
  | formatOfBytes
  | notPath (typeName : Text)
  | badPath (path : Storage.BadPath)
  | overflow
  | invalidInteger (numeral : Text)
  | hugeInteger (digits : Nat)
  | notNumber (typeName : Text)
  | notANumber
  | infinite
  deriving DecidableEq, Repr

def Fault.message : Fault → Text
  | .unknownField name =>
      ("LoggingConfig.__init__() got an unexpected keyword argument '" : Text) ++ name ++
        ("'" : Text)
  | .invalidFormat format => ("Invalid format '" : Text) ++ format ++ ("' for '%' style" : Text)
  | .formatNotText typeName =>
      ("expected string or bytes-like object, got '" : Text) ++ typeName ++ ("'" : Text)
  | .formatOfBytes => "cannot use a string pattern on a bytes-like object"
  | .notPath typeName =>
      ("expected str, bytes or os.PathLike object, not " : Text) ++ typeName
  | .badPath path => path.message
  | .overflow => Decimal.overflowMessage
  | .invalidInteger numeral =>
      ("invalid literal for int() with base 10: " : Text) ++ numeral.take 200
  | .hugeInteger digits => Decimal.limitMessage digits
  | .notNumber typeName =>
      ("int() argument must be a string, a bytes-like object or a real number, not '" : Text) ++
        typeName ++ ("'" : Text)
  | .notANumber => "cannot convert float NaN to integer"
  | .infinite => "cannot convert float infinity to integer"

namespace Configuration

def setField (configuration : Configuration) (name : Text) (value : Value) :
    Except Fault Configuration :=
  if name = ("level" : Text) then .ok { configuration with level := value }
  else if name = ("console" : Text) then .ok { configuration with console := value }
  else if name = ("log_file" : Text) then .ok { configuration with logFile := value }
  else if name = ("max_bytes" : Text) then .ok { configuration with maxBytes := value }
  else if name = ("backup_count" : Text) then .ok { configuration with backupCount := value }
  else if name = ("console_fmt" : Text) then .ok { configuration with consoleFormat := value }
  else if name = ("file_fmt" : Text) then .ok { configuration with fileFormat := value }
  else if name = ("datefmt" : Text) then .ok { configuration with dateFormat := value }
  else .error (.unknownField name)

def ofFields (fields : List (Text × Value)) : Except Fault Configuration :=
  fields.foldlM (fun configuration field => configuration.setField field.1 field.2) {}

section Reading

/-- Level names in capitals; anything else means warnings. -/
def levelOf (value : Value) : Except Fault Level :=
  if !value.truth then .ok .warning
  else match value.spell with
    | .error _ => .error .overflow
    | .ok text =>
        let name := Text.upper (Text.trim text)
        .ok (if name = ("WARN" : Text) then .warning else (Level.ofName? name).getD .warning)

def messageFormat : Text := "%(message)s"

/-- A format of no use stands for the bare message. -/
def formatOf (value : Value) : Except Fault Text :=
  if !value.truth then .ok messageFormat
  else match value with
    | .str format => if Format.isValid format then .ok format else .error (.invalidFormat format)
    | .bytes _ => .error .formatOfBytes
    | _ => .error (.formatNotText value.typeName)

/-- Blanks around a numeral; the information separators do not count. -/
def isNumeralBlank (symbol : Symbol) : Bool :=
  Text.isBlank symbol && !(0x1C ≤ symbol.code && symbol.code ≤ 0x1F)

def trimNumeral (text : Text) : Text :=
  ((text.dropWhile isNumeralBlank).reverse.dropWhile isNumeralBlank).reverse

def digitValues? : Text → Option (List Nat)
  | [] => none
  | [symbol] => (Text.digitValue? symbol).map ([·])
  | symbol :: .char '_' :: rest => do
      let digit ← Text.digitValue? symbol
      (digitValues? rest).map (digit :: ·)
  | symbol :: rest => do
      let digit ← Text.digitValue? symbol
      (digitValues? rest).map (digit :: ·)

def splitSign : Text → Bool × Text
  | .char '-' :: rest => (true, rest)
  | .char '+' :: rest => (false, rest)
  | text => (false, text)

def readInteger (text shown : Text) : Except Fault Int :=
  let (negative, body) := splitSign (trimNumeral text)
  match digitValues? body with
  | none => .error (.invalidInteger shown)
  | some digits =>
      if Decimal.digitLimit < digits.length then .error (.hugeInteger digits.length)
      else
        let size : Nat := digits.foldl (fun total digit => 10 * total + digit) 0
        .ok (if negative then -Int.ofNat size else Int.ofNat size)

def integerOf (value : Value) : Except Fault Int :=
  match value with
  | .int n => .ok n
  | .bool b => .ok (if b then 1 else 0)
  | .float .nan => .error .notANumber
  | .float (.infinite _) => .error .infinite
  | .float x => .ok (x.truncate?.getD 0)
  | .str text => readInteger text text.quoted
  | .bytes content =>
      let shown := Text.quotedBytes content
      if content.all (· < 0x80) then
        readInteger (content.map fun byte => .char (Char.ofNat byte.toNat)) shown
      else .error (.invalidInteger shown)
  | _ => .error (.notNumber value.typeName)

end Reading

end Configuration

end TreeReport.Logging
