import TreeReport.Logging.Session
import TreeReport.Proofs.LogFiles

/-!
What each step of a logging session can do. A record only adds text where text goes.
Configuring reads its level first. Only then does it take down what an earlier
configuration set up, and open the log file. At the end, when at least one handler is
ready, it puts the queue on the root, stores the listener and sets the flag.
-/
namespace TreeReport.Logging

/-- Where text goes: straight to the error stream, into the sink of a handler, or among
the complaints, which the listener writes to the error stream as well. -/
inductive Outlet where
  | stderr
  | sink (sink : Sink)
  | complaints
  deriving DecidableEq, Repr

namespace Handler

def line? (handler : Handler) (origin : Origin) (record : Record) : Option Text :=
  if handler.level.admits record.level then
    (Format.recordText? handler.format handler.dateFormat record origin).map
      (· ++ [Text.newline])
  else none

def failure? (handler : Handler) (origin : Origin) (record : Record) (storage : Storage) :
    Option Failure :=
  match handler.line? origin record, handler.sink with
  | none, _ =>
      if handler.level.admits record.level then
        some (.format handler.format handler.dateFormat)
      else none
  | some _, .console => none
  | some line, .file file => (file.deliver line storage).2.map .file

def pieces (handler : Handler) (origin : Origin) (record : Record) (storage : Storage) :
    List (Outlet × Text) :=
  ((handler.line? origin record).map (.sink handler.sink, ·)).toList ++
    ((handler.failure? origin record storage).map
      (.complaints, origin.complaint record ·)).toList

end Handler

namespace Session

section Records

variable {session : Session} {origin : Origin} {record : Record}

def emit (session : Session) : Outlet × Text → Session
  | (.stderr, text) => { session with stderr := session.stderr ++ text }
  | (.sink .console, text) => { session with console := session.console ++ text }
  | (.sink (.file file), text) =>
      { session with storage := (file.deliver text session.storage).1 }
  | (.complaints, text) => { session with console := session.console ++ text }

def handled (origin : Origin) (record : Record) : List Handler → Storage → List (Outlet × Text)
  | [], _ => []
  | handler :: rest, storage =>
      handler.pieces origin record storage ++
        handled origin record rest (handler.handle origin record storage).2

/-- Everything that one record makes a session write. -/
def emissions (session : Session) (origin : Origin) (record : Record) : List (Outlet × Text) :=
  if session.passes record.level && record.level.Nameable then
    if session.attached.isEmpty then
      if Level.warning.admits record.level then [(.stderr, record.message ++ [Text.newline])]
      else []
    else if session.attached.contains .queue then
      handled origin record (session.listener.getD []) session.storage
    else []
  else []

theorem emit_frame (session : Session) (pieces : List (Outlet × Text)) :
    ∃ storage stderr console,
      pieces.foldl emit session = { session with storage, stderr, console } := by
  induction pieces generalizing session with
  | nil => exact ⟨session.storage, session.stderr, session.console, rfl⟩
  | cons piece rest ih =>
      obtain ⟨storage, stderr, console, same⟩ := ih (session.emit piece)
      refine ⟨storage, stderr, console, ?_⟩
      rw [List.foldl_cons, same]
      rcases piece with ⟨_ | ⟨_ | file⟩ | _, text⟩ <;> rfl

theorem write_eq_emit (session : Session) (handler : Handler) :
    write origin record session handler =
      (handler.pieces origin record session.storage).foldl emit session := by
  unfold write Handler.handle Handler.pieces Handler.failure? Handler.line?
  by_cases wanted : handler.level.admits record.level
  · cases shown : Format.recordText? handler.format handler.dateFormat record origin with
    | none => simp [wanted, emit]
    | some text =>
        cases target : handler.sink with
        | console => simp [wanted, emit]
        | file file =>
            generalize came : file.deliver (text ++ [Text.newline]) session.storage = result
            obtain ⟨storage, loss⟩ := result
            cases loss <;> simp [wanted, emit, came]
  · simp [wanted]

theorem foldl_write (handlers : List Handler) (session : Session) :
    handlers.foldl (write origin record) session =
      (handled origin record handlers session.storage).foldl emit session := by
  induction handlers generalizing session with
  | nil => rfl
  | cons handler rest ih =>
      rw [List.foldl_cons, ih, handled, List.foldl_append, ← write_eq_emit]
      rfl

theorem log_eq_emit (session : Session) (origin : Origin) (record : Record) :
    session.log origin record = (session.emissions origin record).foldl emit session := by
  unfold log emissions
  split
  · split
    · split
      · simp [emit]
      · rfl
    · split
      · exact foldl_write _ session
      · rfl
  · rfl

theorem log_frame (session : Session) (origin : Origin) (record : Record) :
    ∃ storage stderr console,
      session.log origin record = { session with storage, stderr, console } := by
  rw [log_eq_emit]
  exact emit_frame session _

end Records

section Handlers

/-- The console handler that a configuration asks for. -/
def ConsoleFor (configuration : Configuration) (handler : Handler) : Prop :=
  configuration.console.truth = true ∧
    ∃ level format, Configuration.levelOf configuration.level = .ok level ∧
      Configuration.formatOf configuration.consoleFormat = .ok format ∧
      handler = ⟨level, format, .null, .console⟩

/-- The log file that a configuration names, seen from a working directory. -/
def Names (working : Path) (configuration : Configuration) (file : RotatingFile) : Prop :=
  ∃ location, locationOf configuration.logFile = .ok location ∧
    file.path = Storage.onDisk (Storage.absolute working location.path) ∧
    file.form = location.form ∧
    Configuration.integerOf configuration.maxBytes = .ok file.maxBytes ∧
    Configuration.integerOf configuration.backupCount = .ok file.backupCount

/-- The file handler that a configuration asks for. -/
def FileFor (working : Path) (configuration : Configuration) (handler : Handler) : Prop :=
  configuration.logFile.truth = true ∧
    ∃ level format file, Configuration.levelOf configuration.level = .ok level ∧
      Configuration.formatOf configuration.fileFormat = .ok format ∧
      Names working configuration file ∧
      handler = ⟨level, format, configuration.dateFormat, .file file⟩

/-- The handlers that a configuration can put behind a listener. Only a log file
that could not be opened may be missing. -/
inductive Lineup (working : Path) (configuration : Configuration) : List Handler → Prop where
  | console {handler : Handler} (console : ConsoleFor configuration handler) :
      Lineup working configuration [handler]
  | file {handler : Handler} (quiet : configuration.console.truth = false)
      (file : FileFor working configuration handler) : Lineup working configuration [handler]
  | both {first second : Handler} (console : ConsoleFor configuration first)
      (file : FileFor working configuration second) :
      Lineup working configuration [first, second]

theorem Lineup.ne_nil {working : Path} {configuration : Configuration}
    {handlers : List Handler} (lineup : Lineup working configuration handlers) :
    handlers ≠ [] := by
  cases lineup <;> simp

theorem ConsoleFor.sink {configuration : Configuration} {handler : Handler}
    (console : ConsoleFor configuration handler) : handler.sink = .console := by
  obtain ⟨-, level, format, -, -, rfl⟩ := console
  rfl

theorem FileFor.sink {working : Path} {configuration : Configuration} {handler : Handler}
    (file : FileFor working configuration handler) : ∃ target, handler.sink = .file target := by
  obtain ⟨-, level, format, target, -, -, -, rfl⟩ := file
  exact ⟨target, rfl⟩

theorem Lineup.sinks {working : Path} {configuration : Configuration}
    {handlers : List Handler} (lineup : Lineup working configuration handlers) :
    handlers.map Handler.sink = [.console] ∨
      ∃ file, handlers.map Handler.sink = [.file file] ∨
        handlers.map Handler.sink = [.console, .file file] := by
  cases lineup with
  | console console => exact .inl (by simp [console.sink])
  | file quiet file =>
      obtain ⟨target, same⟩ := file.sink
      exact .inr ⟨target, .inl (by simp [same])⟩
  | both console file =>
      obtain ⟨target, same⟩ := file.sink
      exact .inr ⟨target, .inr (by simp [console.sink, same])⟩

end Handlers

section Opening

variable {α : Type} {session : Session} {working : Path} {configuration : Configuration}
  {level : Level}

def disturbed (session : Session) (storage : Storage) (warnings : Text) : Session :=
  { session with storage := storage, stderr := session.stderr ++ warnings }

def Yields (session : Session) (allowed : α → Prop) (result : Session × Except Fault α) : Prop :=
  ∃ storage warnings, session.storage.Rearranged storage ∧
    result.1 = session.disturbed storage warnings ∧ ∀ value, result.2 = .ok value → allowed value

theorem Yields.fault {allowed : α → Prop} (fault : Fault) :
    session.Yields allowed (session, .error fault) :=
  ⟨session.storage, [], .refl _, by simp [disturbed], by simp⟩

theorem Yields.refused {allowed : Option RotatingFile → Prop} (without : allowed none)
    (logFile : Value) (location : Location) (fault : Storage.Fault) :
    session.Yields allowed (session.refuse logFile location fault, .ok none) :=
  ⟨session.storage, openWarning logFile location fault, .refl _, rfl, by simpa using without⟩

theorem Yields.stored {allowed : α → Prop} {storage : Storage} {result : Session × Except Fault α}
    (moved : session.storage.Rearranged storage)
    (rest : { session with storage := storage }.Yields allowed result) :
    session.Yields allowed result := by
  obtain ⟨last, warnings, further, same, sound⟩ := rest
  exact ⟨last, warnings, moved.trans further, same, sound⟩

theorem Yields.map {β : Type} {allowed : α → Prop} {wanted : β → Prop} {change : α → β}
    {result : Session × Except Fault α} (opened : session.Yields allowed result)
    (sound : ∀ value, allowed value → wanted (change value)) :
    session.Yields wanted (result.1, result.2.map change) := by
  obtain ⟨storage, warnings, moved, same, good⟩ := opened
  refine ⟨storage, warnings, moved, same, ?_⟩
  intro value changed
  cases came : result.2 with
  | error fault => simp [came, Except.map] at changed
  | ok old =>
      simp only [came, Except.map, Except.ok.injEq] at changed
      rw [← changed]
      exact sound old (good old came)

theorem openFile_yields (session : Session) (working : Path) (configuration : Configuration) :
    session.Yields (fun opened => ∀ file ∈ opened, Names working configuration file)
      (session.openFile working configuration) := by
  simp only [openFile]
  cases place : locationOf configuration.logFile with
  | error fault => exact .fault fault
  | ok location =>
      dsimp only
      have above := Storage.Rearranged.makeDirectories session.storage
        (Storage.absolute working location.path).dropLast.reverse
      -- Directories made before a later failure stay, so the rest starts from them.
      apply Yields.stored above
      generalize session.storage.makeDirectories
        (Storage.absolute working location.path).dropLast.reverse = reached
      obtain ⟨made, failed⟩ := reached
      cases failed with
      | some obstacle =>
          cases obstacle with
          | refused fault => exact .refused (by simp) _ _ fault
          | bad path => exact .fault _
      | none =>
          dsimp only
          cases most : Configuration.integerOf configuration.maxBytes with
          | error fault => exact .fault fault
          | ok maxBytes =>
              cases count : Configuration.integerOf configuration.backupCount with
              | error fault => exact .fault fault
              | ok backupCount =>
                  dsimp only
                  cases last : made.openForAppend (Storage.absolute working location.path) with
                  | error obstacle =>
                      cases obstacle with
                      | refused fault => exact .refused (by simp) _ _ fault
                      | bad path => exact .fault _
                  | ok opened =>
                      refine ⟨opened, [], .openForAppend last, by simp [disturbed], ?_⟩
                      rintro value ⟨⟩ file ⟨⟩
                      exact ⟨location, place, rfl, rfl, most, count⟩

theorem fileHandlers_yields (read : Configuration.levelOf configuration.level = .ok level)
    (session : Session) (working : Path) :
    session.Yields (fun handlers => ∀ handler ∈ handlers, handlers = [handler] ∧
        FileFor working configuration handler)
      (session.fileHandlers working configuration level) := by
  unfold fileHandlers
  by_cases wanted : configuration.logFile.truth
  · cases format : Configuration.formatOf configuration.fileFormat with
    | error fault =>
        simp only [wanted, if_true]
        exact .fault fault
    | ok shown =>
        simp only [wanted, if_true]
        apply (openFile_yields session working configuration).map
        intro opened named
        cases opened with
        | none => simp
        | some file => simpa using ⟨wanted, level, shown, file, read, format, named file rfl, rfl⟩
  · simp only [wanted]
    exact ⟨session.storage, [], .refl _, by simp [disturbed], by simp⟩

theorem consoleHandlers_ok {handlers : List Handler}
    (read : Configuration.levelOf configuration.level = .ok level)
    (made : consoleHandlers configuration level = .ok handlers) :
    configuration.console.truth = false ∧ handlers = [] ∨
      ∃ handler, handlers = [handler] ∧ ConsoleFor configuration handler := by
  unfold consoleHandlers at made
  split at made
  · next wanted =>
      cases format : Configuration.formatOf configuration.consoleFormat with
      | error fault => simp [format, Except.map] at made
      | ok shown =>
          simp only [format, Except.map, Except.ok.injEq] at made
          exact .inr ⟨_, made.symm, wanted, level, shown, read, format, rfl⟩
  · next quiet =>
      cases made
      exact .inl ⟨by simpa using quiet, rfl⟩

end Opening

section Configuring

variable {session : Session} {working : Path} {configuration : Configuration} {level : Level}

def cleared (session : Session) (level : Level) : Session :=
  { session with rootLevel := level }.detach

theorem install_unread {fault : Fault}
    (unread : Configuration.levelOf configuration.level = .error fault) (session : Session)
    (working : Path) : session.install working configuration = (session, some fault) := by
  rw [install, unread]

theorem install_eq (read : Configuration.levelOf configuration.level = .ok level)
    (session : Session) (working : Path) :
    session.install working configuration =
      match consoleHandlers configuration level with
      | .error fault => (session.cleared level, some fault)
      | .ok console =>
          match (session.cleared level).fileHandlers working configuration level with
          | (session, .error fault) => (session, some fault)
          | (session, .ok file) => (session.attach (console ++ file), none) := by
  rw [install, read]
  rfl

theorem lineup_of_handlers {console file : List Handler}
    (first : configuration.console.truth = false ∧ console = [] ∨
      ∃ handler, console = [handler] ∧ ConsoleFor configuration handler)
    (second : ∀ handler ∈ file, file = [handler] ∧ FileFor working configuration handler) :
    console ++ file = [] ∨ Lineup working configuration (console ++ file) := by
  -- Whether there is a file handler comes first: without one a quiet console leaves nothing.
  cases file with
  | nil =>
      rcases first with ⟨-, rfl⟩ | ⟨handler, rfl, made⟩
      · exact .inl rfl
      · exact .inr (.console made)
  | cons opened rest =>
      obtain ⟨alone, named⟩ := second opened List.mem_cons_self
      rw [alone]
      rcases first with ⟨quiet, rfl⟩ | ⟨handler, rfl, made⟩
      · exact .inr (.file quiet named)
      · exact .inr (.both made named)

/-- Once its level has been read, configuring ends with nothing installed, be it for a
fault or for want of handlers, or with a lineup installed and no fault. -/
def Configures (session : Session) (working : Path) (configuration : Configuration)
    (result : Session × Option Fault) : Prop :=
  ∃ level storage warnings, Configuration.levelOf configuration.level = .ok level ∧
    session.storage.Rearranged storage ∧
    (result.1 = (session.cleared level).disturbed storage warnings ∨
      ∃ handlers, Lineup working configuration handlers ∧
        result = (((session.cleared level).disturbed storage warnings).attach handlers, none))

theorem install_configures (read : Configuration.levelOf configuration.level = .ok level)
    (session : Session) (working : Path) :
    session.Configures working configuration (session.install working configuration) := by
  have files := fileHandlers_yields read (session.cleared level) working
  rw [install_eq read]
  cases first : consoleHandlers configuration level with
  | error fault =>
      exact ⟨level, session.storage, [], read, .refl _,
        .inl (by simp [cleared, disturbed, detach])⟩
  | ok console =>
      dsimp only
      revert files
      generalize (session.cleared level).fileHandlers working configuration level = opened
      rintro ⟨storage, warnings, moved, same, named⟩
      obtain ⟨later, came⟩ := opened
      cases same
      refine ⟨level, storage, warnings, read, moved, ?_⟩
      cases came with
      | error fault => exact .inl rfl
      | ok file =>
          rcases lineup_of_handlers (consoleHandlers_ok read first) (named file rfl) with
            empty | lineup
          · exact .inl (by simp [empty, attach, disturbed])
          · exact .inr ⟨console ++ file, lineup, rfl⟩

/-- Whether a call gets as far as taking down what was set up: it is not passed over for
the flag, and its level can be read. -/
def carriesOut (session : Session) (configuration : Configuration) (force : Bool) : Bool :=
  !(session.configured && !force) && (Configuration.levelOf configuration.level).isOk

theorem configure_cases (session : Session) (working : Path) (configuration : Configuration)
    (force : Bool) :
    session.carriesOut configuration force = false ∧
        (session.configure working configuration force).1 = session ∨
      session.carriesOut configuration force = true ∧
        session.Configures working configuration
          (session.configure working configuration force) := by
  unfold configure carriesOut
  cases held : session.configured && !force with
  | true => exact .inl ⟨rfl, rfl⟩
  | false =>
      cases read : Configuration.levelOf configuration.level with
      | error fault => exact .inl ⟨rfl, by simp [install_unread read]⟩
      | ok level => exact .inr ⟨rfl, install_configures read session working⟩

end Configuring

section Success

variable {session : Session} {working : Path} {configuration : Configuration}

/-- Fields of the log file that can be read, with a path that can be looked up. -/
structure UsableFile (working : Path) (configuration : Configuration) : Prop where
  format : ∃ format, Configuration.formatOf configuration.fileFormat = .ok format
  place : ∃ location, locationOf configuration.logFile = .ok location ∧
    Storage.badPath? (Storage.pathText (Storage.absolute working location.path)) = none
  maxBytes : ∃ maxBytes, Configuration.integerOf configuration.maxBytes = .ok maxBytes
  backupCount : ∃ backupCount, Configuration.integerOf configuration.backupCount = .ok backupCount

/-- Fields that can be read, as far as they are needed. -/
structure Usable (working : Path) (configuration : Configuration) : Prop where
  level : ∃ level, Configuration.levelOf configuration.level = .ok level
  console : configuration.console.truth = true →
    ∃ format, Configuration.formatOf configuration.consoleFormat = .ok format
  file : configuration.logFile.truth = true → UsableFile working configuration

theorem openFile_ok (usable : UsableFile working configuration) (session : Session) :
    ∃ opened, (session.openFile working configuration).2 = .ok opened := by
  obtain ⟨-, ⟨location, place, clean⟩, ⟨maxBytes, most⟩, ⟨backupCount, count⟩⟩ := usable
  have above := Storage.makeDirectories_lookup (Storage.badPath?_dropLast clean) session.storage
  simp only [openFile, place, most, count]
  generalize session.storage.makeDirectories
    (Storage.absolute working location.path).dropLast.reverse = result at above
  obtain ⟨made, failed⟩ := result
  cases failed with
  | some obstacle =>
      cases obstacle with
      | refused fault => exact ⟨none, rfl⟩
      | bad path => exact absurd rfl (above path)
  | none =>
      dsimp only
      cases last : made.openForAppend (Storage.absolute working location.path) with
      | ok opened => exact ⟨_, rfl⟩
      | error obstacle =>
          cases obstacle with
          | refused fault => exact ⟨none, rfl⟩
          | bad path => exact absurd last (Storage.openForAppend_lookup clean made path)

theorem fileHandlers_ok (usable : Usable working configuration) (session : Session)
    (level : Level) :
    ∃ handlers, (session.fileHandlers working configuration level).2 = .ok handlers := by
  unfold fileHandlers
  split
  · next wanted =>
      have readable := usable.file wanted
      obtain ⟨format, valid⟩ := readable.format
      obtain ⟨opened, came⟩ := openFile_ok readable session
      simp only [valid, came, Except.map]
      exact ⟨_, rfl⟩
  · exact ⟨[], rfl⟩

/-- With usable fields and the console asked for, configuring always installs. -/
theorem install_installs (console : configuration.console.truth = true)
    (usable : Usable working configuration) (session : Session) :
    (session.install working configuration).2 = none ∧
      ∃ before handlers, handlers ≠ [] ∧
        (session.install working configuration).1 = attach before handlers := by
  obtain ⟨level, read⟩ := usable.level
  obtain ⟨format, valid⟩ := usable.console console
  obtain ⟨file, came⟩ := fileHandlers_ok usable (session.cleared level) level
  simp only [install_eq read, consoleHandlers, console, if_true, valid, Except.map]
  generalize (session.cleared level).fileHandlers working configuration _ = opened at came ⊢
  obtain ⟨later, found⟩ := opened
  cases came
  exact ⟨rfl, later, _, List.cons_ne_nil _ file, rfl⟩

end Success

end Session

end TreeReport.Logging
