import TreeReport.Logging.Record
import TreeReport.Text.Class
import TreeReport.Value.Display
import TreeReport.Value.Equality

/-! Render options from whatever a caller hands over. Lenient validation reads
flags spelled as words or numbers, replaces what it cannot use and warns; strict
validation refuses all of that. A ready record of options passes unchanged. Either
validation fails on an unknown key that it cannot name. -/
namespace TreeReport

structure Options where
  showPositions : Value
  colors : Value

namespace Options

def default : Options := ⟨.bool true, .null⟩

inductive Fault where
  | notMapping (typeName : Text)
  | unknownKey (key : Text)
  | notBool (key typeName : Text)
  deriving DecidableEq, Repr

def Fault.message : Fault → Text
  | .notMapping typeName =>
      ("Invalid options type: expected mapping, received " : Text) ++ typeName ++ ("." : Text)
  | .unknownKey key => ("Unknown option '" : Text) ++ key ++ ("'." : Text)
  | .notBool key typeName =>
      ("Invalid option '" : Text) ++ key ++ ("': expected bool, received " : Text) ++ typeName ++
        ("." : Text)

/-- Why validation does not return: it refuses what it was given, or an integer in its
message is too long to be written. -/
inductive Refusal where
  | wrong (fault : Fault)
  | overflow
  deriving DecidableEq, Repr

def Refusal.message : Refusal → Text
  | .wrong fault => fault.message
  | .overflow => Decimal.overflowMessage

def Fault.remedy : Fault → Text
  | .notMapping _ => " Using defaults."
  | .unknownKey _ => " Ignored."
  | .notBool _ _ => " Using fallback."

inductive Warning where
  | tolerated (fault : Fault)
  | fromNumber (key number : Text)
  | fromWord (key word : Text) (meaning : Bool)
  deriving DecidableEq, Repr

def Warning.message : Warning → Text
  | .tolerated fault => fault.message ++ fault.remedy
  | .fromNumber key number =>
      ("Option '" : Text) ++ key ++ ("' converted from number " : Text) ++ number ++
        (" to bool." : Text)
  | .fromWord key word meaning =>
      ("Option '" : Text) ++ key ++ ("' converted from '" : Text) ++ word ++ ("' to " : Text) ++
        (if meaning then ("True" : Text) else "False") ++ ("." : Text)

inductive Field where
  | showPositions
  | colors
  deriving DecidableEq, Repr

def aliases : List (Text × Field) := [
  ("showPositions", .showPositions), ("show_positions", .showPositions), ("colors", .colors)]

def trueWords : List Text := ["true", "1", "yes", "y", "on"]

def falseWords : List Text := ["false", "0", "no", "n", "off"]

def autoWords : List Text := ["", "auto", "none", "null"]

def canonicalWord (text : Text) : Text := Text.lower (Text.trim text)

def wordMeaning? (text : Text) : Option Bool :=
  if trueWords.contains (canonicalWord text) then some true
  else if falseWords.contains (canonicalWord text) then some false
  else none

def isNumber : Value → Bool
  | .int _ => true
  | .float _ => true
  | _ => false

def looseFlag? (key : Text) (value : Value) : Option (Bool × Warning) :=
  match value with
  | .str text => (wordMeaning? text).map fun meaning => (meaning, .fromWord key text meaning)
  | _ =>
      if isNumber value && (value.same (.int 0) || value.same (.int 1)) then
        some (value.truth, .fromNumber key value.plain)
      else none

def flag (strict : Bool) (fallback : Value) (key : Text) (value : Value) :
    Except Fault (Value × List Warning) :=
  match value with
  | .bool b => .ok (.bool b, [])
  | .null => .ok (fallback, [])
  | _ =>
      let fault := Fault.notBool key value.typeName
      if strict then .error fault
      else match looseFlag? key value with
        | some (meaning, warning) => .ok (.bool meaning, [warning])
        | none => .ok (fallback, [.tolerated fault])

def isAutoWord : Value → Bool
  | .str text => autoWords.contains (canonicalWord text)
  | _ => false

def readField (strict : Bool) (field : Field) (key : Text) (value : Value) :
    Except Fault (Value × List Warning) :=
  match field with
  | .showPositions => flag strict default.showPositions key value
  | .colors => if !strict && isAutoWord value then .ok (.null, []) else flag strict .null key value

def set (options : Options) (field : Field) (value : Value) : Options :=
  match field with
  | .showPositions => { options with showPositions := value }
  | .colors => { options with colors := value }

def field? (key : Value) : Option (Text × Field) := aliases.find? fun entry => key.isText entry.1

/-- Reads the entries in order, so a later one overrides an earlier one. -/
def readEntries (strict : Bool) (options : Options) : Entries →
    Except Refusal (Options × List Warning)
  | [] => .ok (options, [])
  | (key, value) :: rest =>
      match field? key with
      | none =>
          match key.spell with
          | .error _ => .error .overflow
          | .ok name =>
              let fault := Fault.unknownKey name
              if strict then .error (.wrong fault)
              else (readEntries strict options rest).map fun (options, warnings) =>
                (options, .tolerated fault :: warnings)
      | some (name, field) =>
          match readField strict field name value with
          | .error fault => .error (.wrong fault)
          | .ok (found, raised) =>
              (readEntries strict (options.set field found) rest).map fun (options, warnings) =>
                (options, raised ++ warnings)

structure Validated where
  options : Options
  warnings : List Warning
  records : List Logging.Record

def loggerName : Text := "treeinspect.core.options"

/-- Only options of a wrong type are also logged. -/
def validate (strict : Bool) : Value → Except Refusal Validated
  | .null => .ok ⟨default, [], []⟩
  | .options showPositions colors => .ok ⟨⟨showPositions, colors⟩, [], []⟩
  | .mapping _ entries =>
      (readEntries strict default entries).map fun (options, warnings) =>
        ⟨options, warnings, []⟩
  | value =>
      let fault := Fault.notMapping value.typeName
      if strict then .error (.wrong fault)
      else .ok ⟨default, [.tolerated fault], [⟨.warning, loggerName, fault.message⟩]⟩

section Lenient

theorem flag_lenient_ok (fallback : Value) (key : Text) (value : Value) :
    ∃ found, flag false fallback key value = .ok found := by
  unfold flag
  split
  · exact ⟨_, rfl⟩
  · exact ⟨_, rfl⟩
  · simp only [Bool.false_eq_true, ↓reduceIte]
    split <;> exact ⟨_, rfl⟩

theorem readField_lenient_ok (field : Field) (key : Text) (value : Value) :
    ∃ found, readField false field key value = .ok found := by
  cases field with
  | showPositions => exact flag_lenient_ok _ _ _
  | colors =>
      simp only [readField]
      split
      · exact ⟨_, rfl⟩
      · exact flag_lenient_ok _ _ _

theorem readEntries_lenient (options : Options) (entries : Entries) (fault : Fault) :
    readEntries false options entries ≠ .error (.wrong fault) := by
  induction entries generalizing options with
  | nil => simp [readEntries]
  | cons entry rest ih =>
      -- The rest decides, since neither an unknown key nor a value is refused.
      have mapped : ∀ (options : Options)
          (change : Options × List Warning → Options × List Warning),
          (readEntries false options rest).map change ≠ .error (.wrong fault) := by
        intro options change
        have kept := ih options
        cases found : readEntries false options rest with
        | ok read => simp [Except.map]
        | error refusal => simpa [Except.map, found] using kept
      simp only [readEntries]
      split
      · split
        · simp
        · exact mapped _ _
      · next name field _ =>
          obtain ⟨found, read⟩ := readField_lenient_ok field name entry.2
          simp only [read]
          exact mapped _ _

theorem validate_lenient (value : Value) (fault : Fault) :
    validate false value ≠ .error (.wrong fault) := by
  cases value with
  | mapping form entries =>
      have kept := readEntries_lenient default entries fault
      simp only [validate]
      cases found : readEntries false default entries with
      | ok read => simp [Except.map]
      | error refusal => simpa [Except.map, found] using kept
  | _ => simp [validate]

def lenient (value : Value) : Except Decimal.Overflow Validated :=
  match h : validate false value with
  | .ok found => .ok found
  | .error .overflow => .error ⟨⟩
  | .error (.wrong fault) => absurd h (validate_lenient value fault)

theorem lenient_of_ok {value : Value} {found : Validated}
    (read : validate false value = .ok found) :
    lenient value = .ok found := by
  unfold lenient
  split <;> simp_all

theorem lenient_of_overflow {value : Value} (failed : validate false value = .error .overflow) :
    lenient value = .error ⟨⟩ := by
  unfold lenient
  split <;> simp_all

theorem lenient_record (showPositions colors : Value) :
    lenient (.options showPositions colors) = .ok ⟨⟨showPositions, colors⟩, [], []⟩ :=
  lenient_of_ok rfl

end Lenient

/-- What the caller passed besides the options; null leaves a setting open. -/
structure Overrides where
  showPositions : Value := .null
  colors : Value := .null

def constraintRecord (warning : Warning) : Logging.Record :=
  ⟨.debug, loggerName, ("Option constraint: " : Text) ++ warning.message⟩

/-- Overrides win over the options and a forced colour setting over both; it is
kept as it was given. Colours that nothing decides stay off. -/
def settle (base : Options) (overrides : Overrides) (forced : Value) : Options where
  showPositions :=
    if overrides.showPositions.isNull then base.showPositions
    else .bool overrides.showPositions.truth
  colors :=
    if !forced.isNull then forced
    else if !overrides.colors.isNull then .bool overrides.colors.truth
    else .bool base.colors.truth

def resolve (options : Value) (overrides : Overrides) (forced : Value) :
    Except Decimal.Overflow (Options × List Logging.Record) :=
  (lenient options).map fun base =>
    (settle base.options overrides forced, base.records ++ base.warnings.map constraintRecord)

end Options

end TreeReport
