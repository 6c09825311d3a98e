import TreeReport.CommandLine.Usage
import TreeReport.Inspection
import TreeReport.Json.Reader
import TreeReport.Logging.Session
import TreeReport.Value.Document

/-! A run of the command line, from its arguments, the files and the standard
input to everything it writes. Sources are shown together once all of them have
been read; the first that fails ends the run without any report. -/
namespace TreeReport.CommandLine

inductive Input where
  | bytes (content : List UInt8)
  | interrupted
  deriving DecidableEq, Repr

structure Surroundings where
  storage : Storage
  working : Path
  input : Input
  origin : Logging.Origin

/-- What keeps a run from ending with a code of its own. -/
inductive Crash where
  | logging (fault : Logging.Fault)
  | badPath (path : Storage.BadPath)
  | hugeInteger (digits : Nat)
  | overflow
  | unencodable (fault : Utf8.Unencodable)
  deriving DecidableEq, Repr

def Crash.message : Crash → Text
  | .logging fault => fault.message
  | .badPath path => path.message
  | .hugeInteger digits => Decimal.limitMessage digits
  | .overflow => Decimal.overflowMessage
  | .unencodable fault => fault.message

/-- The error stream has two writers: `stderr` is what the run itself puts there and
`console` what the listener does for it, each in its order. -/
structure Outcome where
  ending : Except Crash Nat
  stdout : Text := []
  stderr : Text := []
  console : Text := []
  storage : Storage

inductive Interleaved : Text → Text → Text → Prop where
  | nil : Interleaved [] [] []
  | left {first second whole : Text} (symbol : Symbol) (rest : Interleaved first second whole) :
      Interleaved (symbol :: first) second (symbol :: whole)
  | right {first second whole : Text} (symbol : Symbol) (rest : Interleaved first second whole) :
      Interleaved first (symbol :: second) (symbol :: whole)

/-- The error stream may read as any interleaving of what its writers put there. -/
def Outcome.MayRead (outcome : Outcome) (stream : Text) : Prop :=
  Interleaved outcome.stderr outcome.console stream

section Sources

inductive SourceFault where
  | unreadable (source : Text) (fault : Storage.Fault)
  | undecodable (source : Text) (fault : Utf8.Malformed)
  | malformed (source : Text) (cause : Json.Cause) (line : Nat)
  deriving DecidableEq, Repr

def SourceFault.message : SourceFault → Text
  | .unreadable source fault =>
      ("Cannot read '" : Text) ++ source ++ ("': " : Text) ++ fault.message
  | .undecodable source fault =>
      ("Cannot read '" : Text) ++ source ++ ("': " : Text) ++ fault.message
  | .malformed source cause line =>
      ("Invalid JSON in '" : Text) ++ source ++ ("': " : Text) ++ cause.message ++
        (" (line " : Text) ++ Decimal.natural line ++ (")" : Text)

inductive Trouble where
  | faulty (fault : SourceFault)
  | interrupted
  | crash (crash : Crash)
  deriving DecidableEq, Repr

def stdinMarker : Text := "-"

/-- The bytes of a source. Standard input is empty after it has been read. -/
def sourceBytes (storage : Storage) (working : Path) (input : Input) (source : Text) :
    Except Trouble (List UInt8) × Input :=
  if source = stdinMarker then
    match input with
    | .bytes content => (.ok content, .bytes [])
    | .interrupted => (.error .interrupted, .interrupted)
  else match Storage.badPath? source with
    | some bad => (.error (.crash (.badPath bad)), input)
    | none =>
        match storage.read working source with
        | .ok content => (.ok content, input)
        | .error fault => (.error (.faulty (.unreadable source fault)), input)

def treeOf (source : Text) (content : List UInt8) : Except Trouble Value :=
  match Utf8.decode content with
  | .error fault => .error (.faulty (.undecodable source fault))
  | .ok decoded =>
      let text := Utf8.universalNewlines decoded
      match Json.read text with
      | .ok document => .ok (Value.ofJson document)
      | .error (.malformed cause rest) =>
          .error (.faulty (.malformed source cause (Json.lineOf text rest)))
      | .error (.hugeInteger digits) => .error (.crash (.hugeInteger digits))

end Sources

section Reports

def reports (working : Path) (origin : Logging.Origin) (options : Value) (session : Logging.Session)
    (input : Input) : List Text → Except Trouble (List Text) × Logging.Session
  | [] => (.ok [], session)
  | source :: rest =>
      let (read, input) := sourceBytes session.storage working input source
      match read.bind (treeOf source) with
      | .error trouble => (.error trouble, session)
      | .ok tree =>
          let (report, records) := Inspection.inspect .asAsked tree options {}
          let session := session.logAll origin records
          match report with
          | .error _ => (.error (.crash .overflow), session)
          | .ok report =>
              let (others, session) := reports working origin options session input rest
              (others.map (report :: ·), session)

def loggerName : Text := "treeinspect.interface.cli.app"

def record (level : Logging.Level) (message : Text) : Logging.Record :=
  ⟨level, loggerName, message⟩

def sourcesRecord (sources : List Text) : Logging.Record :=
  record .debug (("Inspecting " : Text) ++ Decimal.natural sources.length ++
    (" source(s): " : Text) ++ (Value.sequence .list (sources.map .str)).literal)

def Outcome.of (session : Logging.Session) (ending : Except Crash Nat) (stdout stderr : Text) :
    Outcome :=
  ⟨ending, stdout, session.stderr ++ stderr, session.console, session.storage⟩

/-- Reports are parted by an empty line; text that has no encoding is not printed. -/
def printed (session : Logging.Session) (found : List Text) : Outcome :=
  let text := Text.joinWith [Text.newline, Text.newline] found
  match Utf8.unencodable? 0 text with
  | some fault => .of session (.error (.unencodable fault)) [] []
  | none => .of session (.ok 0) (text ++ [Text.newline]) []

def troubled (origin : Logging.Origin) (session : Logging.Session) : Trouble → Outcome
  | .faulty fault =>
      let message := fault.message
      .of (session.log origin (record .error message)) (.ok 2) []
        (("ERROR: " : Text) ++ message ++ [Text.newline])
  | .interrupted =>
      .of (session.log origin (record .warning "Interrupted by user.")) (.ok 130) [] []
  | .crash crash => .of session (.error crash) [] []

end Reports

/-- A dropped value is an empty list of values. -/
def LogTarget.value : LogTarget → Value
  | .absent => .null
  | .dropped => .sequence .list []
  | .file path => .str path

def configurationOf (arguments : Arguments) : Logging.Configuration :=
  { level := .str (if arguments.debug then "DEBUG" else "WARNING")
    logFile := arguments.logTarget.value }

def runWith (arguments : Arguments) (surroundings : Surroundings) : Outcome :=
  let working := surroundings.working
  let origin := surroundings.origin
  match ({ storage := surroundings.storage } : Logging.Session).configure working
      (configurationOf arguments) false with
  | (session, some fault) => .of session (.error (.logging fault)) [] []
  | (session, none) =>
      match Options.lenient (.mapping .dictionary arguments.options) with
      | .error _ => .of session (.error .overflow) [] []
      | .ok validated =>
          let options := Value.options validated.options.showPositions validated.options.colors
          let constraints := validated.warnings.map fun warning =>
            record .warning (("Option constraint: " : Text) ++ warning.message)
          let sources := if arguments.files.isEmpty then [stdinMarker] else arguments.files
          let session :=
            session.logAll origin (validated.records ++ constraints ++ [sourcesRecord sources])
          match reports working origin options session surroundings.input sources with
          | (.error trouble, session) => troubled origin session trouble
          | (.ok found, session) => printed session found

def Outcome.stopped (stop : Stop) (storage : Storage) : Outcome :=
  let ending := stop.ending
  ⟨.ok ending.code, ending.stdout, ending.stderr, [], storage⟩

def run (argv : List Text) (surroundings : Surroundings) : Outcome :=
  match parse argv with
  | .error stop => .stopped stop surroundings.storage
  | .ok arguments => runWith arguments surroundings

end TreeReport.CommandLine
