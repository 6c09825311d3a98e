import TreeReport.Text.Class
import TreeReport.Text.Quoted
import TreeReport.Value

/-! Command line arguments. Each argument is first classified on its own; the
tokens are then read in order. Long options may be abbreviated, an option that
takes a value takes the next plain argument or the text after an equals sign,
and the files have to stand side by side. A lone double dash never is a value:
where it is given for one, nothing is left of the value. -/
namespace TreeReport.CommandLine

inductive Flag where
  | help
  | noPositions
  | color
  | noColor
  | debug
  | logFile
  | version
  deriving DecidableEq, Repr

def spellings : List (Text × Flag) := [
  ("-h", .help), ("--help", .help), ("--no-positions", .noPositions), ("--color", .color),
  ("--no-color", .noColor), ("--debug", .debug), ("--log-file", .logFile), ("--version", .version)]

def Flag.display (flag : Flag) : Text :=
  Text.joinWith "/" ((spellings.filter fun spelling => spelling.2 = flag).map Prod.fst)

inductive Fault where
  | ambiguous (argument : Text) (candidates : List Text)
  | ignoredValue (flag : Flag) (value : Text)
  | missingValue (flag : Flag)
  | conflict (flag earlier : Flag)
  | unrecognized (arguments : List Text)
  deriving DecidableEq, Repr

def Fault.message : Fault → Text
  | .ambiguous argument candidates =>
      ("ambiguous option: " : Text) ++ argument ++ (" could match " : Text) ++
        Text.joinWith ", " candidates
  | .ignoredValue flag value =>
      ("argument " : Text) ++ flag.display ++ (": ignored explicit argument " : Text) ++
        value.quoted
  | .missingValue flag => ("argument " : Text) ++ flag.display ++ (": expected one argument" : Text)
  | .conflict flag earlier =>
      ("argument " : Text) ++ flag.display ++ (": not allowed with argument " : Text) ++
        earlier.display
  | .unrecognized arguments =>
      ("unrecognized arguments: " : Text) ++ Text.joinWith " " arguments

/-- A cluster is the short help option with letters behind it. -/
inductive Token where
  | plain (argument : Text)
  | divider
  | option (flag : Flag) (value : Option Text)
  | cluster (letters : Text)
  | unknown (argument : Text)
  deriving DecidableEq, Repr

section Classification

def spelled? (spelling : Text) : Option Flag :=
  (spellings.find? fun entry => entry.1 == spelling).map Prod.snd

def splitValue : Text → Text × Option Text
  | [] => ([], none)
  | symbol :: rest =>
      if symbol = .char '=' then ([], some rest)
      else
        let (name, value) := splitValue rest
        (symbol :: name, value)

def isDigits (text : Text) : Bool :=
  !text.isEmpty && text.all fun symbol => (Text.digitValue? symbol).isSome

def isNegativeNumber : Text → Bool
  | .char '-' :: rest =>
      let number := if rest.getLast? = some Text.newline then rest.dropLast else rest
      let whole := number.takeWhile fun symbol => (Text.digitValue? symbol).isSome
      match number.drop whole.length with
      | [] => !whole.isEmpty
      | .char '.' :: fraction => isDigits fraction
      | _ => false
  | _ => false

def unspelled (argument : Text) : Token :=
  if isNegativeNumber argument || argument.contains (.char ' ') then .plain argument
  else .unknown argument

def abbreviated (argument : Text) : Except Fault Token :=
  let (name, value) := splitValue argument
  match spellings.filter fun spelling => Text.startsWith name spelling.1 with
  | [] => .ok (unspelled argument)
  | [(_, flag)] => .ok (.option flag value)
  | candidates => .error (.ambiguous argument (candidates.map Prod.fst))

def classify (argument : Text) : Except Fault Token :=
  match argument with
  | .char '-' :: second :: rest =>
      let (name, value) := splitValue argument
      match spelled? argument, spelled? name with
      | some flag, _ => .ok (.option flag none)
      | none, some flag =>
          if second = .char '-' then .ok (.option flag value)
          else .ok (.cluster (value.getD []))
      | none, none =>
          if second = .char '-' then abbreviated argument
          else if second = .char 'h' then .ok (.cluster rest)
          else .ok (unspelled argument)
  | _ => .ok (.plain argument)

def tokens : List Text → Except Fault (List Token)
  | [] => .ok []
  | argument :: rest =>
      if argument = ("--" : Text) then .ok (.divider :: rest.map .plain)
      else
        match classify argument with
        | .error fault => .error fault
        | .ok token => (tokens rest).map (token :: ·)

end Classification

/-- Where diagnostics also go. An option whose value was dropped is still given. -/
inductive LogTarget where
  | absent
  | dropped
  | file (path : Text)
  deriving DecidableEq, Repr

structure Arguments where
  files : List Text := []
  showPositions : Bool := true
  colors : Option Bool := none
  debug : Bool := false
  logTarget : LogTarget := .absent
  deriving DecidableEq, Repr

inductive FileBlock where
  | ahead
  | open
  | closed
  deriving DecidableEq, Repr

structure Progress where
  arguments : Arguments := {}
  block : FileBlock := .ahead
  extras : List Text := []
  deriving DecidableEq, Repr

inductive Stop where
  | help
  | version
  | usage (fault : Fault)
  deriving DecidableEq, Repr

section Reading

def Progress.leaveFiles (progress : Progress) : Progress :=
  match progress.block with
  | .open => { progress with block := .closed }
  | _ => progress

def Progress.addExtra (progress : Progress) (argument : Text) : Progress :=
  { progress with extras := progress.extras ++ [argument] }

def Progress.addPlain (progress : Progress) (argument : Text) : Progress :=
  match progress.block with
  | .closed => progress.addExtra argument
  | _ =>
      { progress with
        block := .open
        arguments := { progress.arguments with files := progress.arguments.files ++ [argument] } }

def Progress.addDivider (progress : Progress) : Progress :=
  match progress.block with
  | .closed => progress.addExtra "--"
  | _ => { progress with block := .open }

def Progress.setColors (progress : Progress) (colors : Bool) : Except Stop Progress :=
  if progress.arguments.colors = some !colors then
    .error (.usage (if colors then .conflict .color .noColor else .conflict .noColor .color))
  else .ok { progress with arguments := { progress.arguments with colors := some colors } }

def Progress.switch (progress : Progress) : Flag → Except Stop Progress
  | .help => .error .help
  | .version => .error .version
  | .noPositions =>
      .ok { progress with arguments := { progress.arguments with showPositions := false } }
  | .color => progress.setColors true
  | .noColor => progress.setColors false
  | .debug => .ok { progress with arguments := { progress.arguments with debug := true } }
  | .logFile => .error (.usage (.missingValue .logFile))

def LogTarget.ofValue (value : Text) : LogTarget :=
  if value = ("--" : Text) then .dropped else .file value

def Progress.setLogTarget (progress : Progress) (value : Text) : Progress :=
  { progress with arguments := { progress.arguments with logTarget := .ofValue value } }

/-- Letters behind the short help option ask for help once more; with any other
letter they are a value, which help does not take. No letters, behind an equals
sign, are a value too. -/
def clusterStop (letters : Text) : Stop :=
  match letters, letters.dropWhile (· = .char 'h') with
  | _ :: _, [] => .help
  | _, value => .usage (.ignoredValue .help value)

def advance (progress : Progress) : List Token → Except Stop Progress
  | [] => .ok progress
  | .plain argument :: rest => advance (progress.addPlain argument) rest
  | .divider :: rest => advance progress.addDivider rest
  | .unknown argument :: rest => advance (progress.leaveFiles.addExtra argument) rest
  | .cluster letters :: _ => .error (clusterStop letters)
  | .option .logFile (some value) :: rest =>
      advance (progress.leaveFiles.setLogTarget value) rest
  | .option .logFile none :: .plain value :: rest =>
      advance (progress.leaveFiles.setLogTarget value) rest
  | .option flag (some value) :: _ => .error (.usage (.ignoredValue flag value))
  | .option flag none :: rest =>
      match progress.leaveFiles.switch flag with
      | .error stop => .error stop
      | .ok next => advance next rest

def parse (argv : List Text) : Except Stop Arguments :=
  match tokens argv with
  | .error fault => .error (.usage fault)
  | .ok found =>
      match advance {} found with
      | .error stop => .error stop
      | .ok progress =>
          if progress.extras.isEmpty then .ok progress.arguments
          else .error (.usage (.unrecognized progress.extras))

end Reading

def Arguments.options (arguments : Arguments) : Entries :=
  (.str "showPositions", .bool arguments.showPositions) ::
    match arguments.colors with
    | some colors => [(.str "colors", .bool colors)]
    | none => []

end TreeReport.CommandLine
