import TreeReport.Logging.Configuration
import TreeReport.Logging.Rotation

/-! The logging session. The root holds handlers of others and at most one of
ours, which passes records to a listener; the listener writes to the console and
to a file. Configuring happens once unless it is forced, and what it did before
it failed stays done. -/
namespace TreeReport.Logging

inductive Sink where
  | console
  | file (file : RotatingFile)
  deriving DecidableEq, Repr

structure Handler where
  level : Level
  format : Text
  dateFormat : Value
  sink : Sink

/-- A handler on the root: our queue, or one of others, numbered as added. -/
inductive Attached where
  | queue
  | foreign (number : Nat)
  deriving DecidableEq, Repr

/-- `stderr` and `console` are what the callers and the listener write to the one error
stream of the process, each in its order. -/
structure Session where
  rootLevel : Level := .warning
  attached : List Attached := []
  configured : Bool := false
  listener : Option (List Handler) := none
  storage : Storage := []
  stderr : Text := []
  console : Text := []

def Attached.isForeign : Attached → Bool
  | .queue => false
  | .foreign _ => true

/-- What a handler says on the error stream for a record, and the files after it. A
record that it cannot write is complained about. -/
def Handler.handle (handler : Handler) (origin : Origin) (record : Record) (storage : Storage) :
    Text × Storage :=
  if handler.level.admits record.level then
    match Format.recordText? handler.format handler.dateFormat record origin with
    | none => (origin.complaint record (.format handler.format handler.dateFormat), storage)
    | some text =>
        let line := text ++ [Text.newline]
        match handler.sink with
        | .console => (line, storage)
        | .file file =>
            match file.deliver line storage with
            | (storage, none) => ([], storage)
            | (storage, some loss) => (origin.complaint record (.file loss), storage)
  else ([], storage)

namespace Session

section Opening

structure Location where
  path : Text
  form : NameForm
  quote : Text → Text

def locationOf (value : Value) : Except Fault Location :=
  match value with
  | .str path => .ok ⟨path, .text, Text.quoted⟩
  | .bytes content =>
      .ok ⟨Utf8.decodeName content, .bytes, fun path => Text.quotedBytes (Utf8.encodeName path)⟩
  | _ => .error (.notPath value.typeName)

def openWarning (logFile : Value) (location : Location) (fault : Storage.Fault) : Text :=
  ("WARNING: Cannot open log file '" : Text) ++ logFile.plain ++ ("': " : Text) ++
    fault.describe location.quote ++ ("\n" : Text)

def refuse (session : Session) (logFile : Value) (location : Location) (fault : Storage.Fault) :
    Session :=
  { session with stderr := session.stderr ++ openWarning logFile location fault }

/-- Makes the directories of the log file and opens it. A file that the system does not
open costs a warning and leaves logging without it; a path that it cannot even look at
is a fault. -/
def openFile (session : Session) (working : Path) (configuration : Configuration) :
    Session × Except Fault (Option RotatingFile) :=
  let logFile := configuration.logFile
  match locationOf logFile with
  | .error fault => (session, .error fault)
  | .ok location =>
      let path := Storage.absolute working location.path
      let (made, failed) := session.storage.makeDirectories path.dropLast.reverse
      let session := { session with storage := made }
      match failed with
      | some (.bad bad) => (session, .error (.badPath bad))
      | some (.refused fault) => (session.refuse logFile location fault, .ok none)
      | none =>
          match Configuration.integerOf configuration.maxBytes,
              Configuration.integerOf configuration.backupCount with
          | .error fault, _ => (session, .error fault)
          | .ok _, .error fault => (session, .error fault)
          | .ok maxBytes, .ok backupCount =>
              match session.storage.openForAppend path with
              | .error (.bad bad) => (session, .error (.badPath bad))
              | .error (.refused fault) => (session.refuse logFile location fault, .ok none)
              | .ok opened =>
                  ({ session with storage := opened },
                    .ok (some ⟨Storage.onDisk path, location.form, maxBytes, backupCount⟩))

end Opening

section Configuring

@[simp] def removeQueue (session : Session) : Session :=
  { session with attached := session.attached.filter Attached.isForeign }

@[simp] def stopListener (session : Session) : Session := { session with listener := none }

def detach (session : Session) : Session := session.removeQueue.stopListener

def attach (session : Session) (handlers : List Handler) : Session :=
  if handlers.isEmpty then session
  else
    { session with
      attached := session.attached ++ [.queue]
      listener := some handlers
      configured := true }

def consoleHandlers (configuration : Configuration) (level : Level) :
    Except Fault (List Handler) :=
  if configuration.console.truth then
    (Configuration.formatOf configuration.consoleFormat).map fun format =>
      [⟨level, format, .null, .console⟩]
  else .ok []

def fileHandlers (session : Session) (working : Path) (configuration : Configuration)
    (level : Level) : Session × Except Fault (List Handler) :=
  if configuration.logFile.truth then
    match Configuration.formatOf configuration.fileFormat with
    | .error fault => (session, .error fault)
    | .ok format =>
        let (session, opened) := session.openFile working configuration
        (session, opened.map fun file => match file with
          | some file => [⟨level, format, configuration.dateFormat, .file file⟩]
          | none => [])
  else (session, .ok [])

/-- The level is read before anything is taken down. -/
def install (session : Session) (working : Path) (configuration : Configuration) :
    Session × Option Fault :=
  match Configuration.levelOf configuration.level with
  | .error fault => (session, some fault)
  | .ok level =>
      let session := { session with rootLevel := level }.detach
      match consoleHandlers configuration level with
      | .error fault => (session, some fault)
      | .ok console =>
          match session.fileHandlers working configuration level with
          | (session, .error fault) => (session, some fault)
          | (session, .ok file) => (session.attach (console ++ file), none)

def configure (session : Session) (working : Path) (configuration : Configuration) (force : Bool) :
    Session × Option Fault :=
  if session.configured && !force then (session, none)
  else session.install working configuration

/-- Here the listener stops first, while our handler is still on the root. -/
def shutdown (session : Session) : Session :=
  { session.stopListener.removeQueue with configured := false }

end Configuring

section Delivery

def write (origin : Origin) (record : Record) (session : Session) (handler : Handler) :
    Session :=
  let (said, storage) := handler.handle origin record session.storage
  { session with console := session.console ++ said, storage }

/-- Whether the root lets records of a level pass. Those up to rank zero are disabled. -/
def passes (session : Session) (level : Level) : Bool :=
  0 < level.rank && session.rootLevel.admits level

/-- Without any handler a warning still reaches the error stream, bare. -/
def log (session : Session) (origin : Origin) (record : Record) : Session :=
  if session.passes record.level && record.level.Nameable then
    if session.attached.isEmpty then
      if Level.warning.admits record.level then
        { session with stderr := session.stderr ++ record.message ++ [Text.newline] }
      else session
    else if session.attached.contains .queue then
      (session.listener.getD []).foldl (write origin record) session
    else session
  else session

def logFault? (session : Session) (record : Record) : Option Fault :=
  if session.passes record.level && !decide record.level.Nameable then some .overflow else none

def logAll (session : Session) (origin : Origin) (records : List Record) : Session :=
  records.foldl (fun session record => session.log origin record) session

end Delivery

inductive Step where
  | configure (configuration : Configuration) (force : Bool)
  | shutdown
  | log (record : Record)
  | setRootLevel (level : Level)
  | addForeign

def foreignCount (session : Session) : Nat := (session.attached.filter Attached.isForeign).length

def step (working : Path) (origin : Origin) (session : Session) :
    Step → Session × Option Fault
  | .configure configuration force => session.configure working configuration force
  | .shutdown => (session.shutdown, none)
  | .log record => (session.log origin record, session.logFault? record)
  | .setRootLevel level => ({ session with rootLevel := level }, none)
  | .addForeign =>
      ({ session with attached := session.attached ++ [.foreign session.foreignCount] }, none)

end Session

end TreeReport.Logging
