import TreeReport.Proofs.FileBackups
import TreeReport.Proofs.RecordDelivery

/-!
Records in a rotating log file, from the call that opens it on. Until the listener is
replaced, every record that reaches the file handler is delivered to its one file, and
nothing else touches the file or a backup of it. So what a fresh file and its backups hold
are the last of the lines that could be written, and rotation forgets the oldest.
-/
namespace TreeReport

namespace Storage

section Opening

variable {storage made : Storage} {path other : Path}

theorem length_onDisk (path : Path) : (onDisk path).length = path.length := List.length_map _

theorem get?_makeDirectories {names : List Text} (deeper : names.length < other.length)
    (storage : Storage) : (storage.makeDirectories names).1.get? other = storage.get? other := by
  induction names with
  | nil => rfl
  | cons name parents ih =>
      have above : (if storage.holds (onDisk parents.reverse) then (storage, none)
          else storage.makeDirectories parents).1.get? other = storage.get? other := by
        split
        · rfl
        · exact ih (Nat.lt_of_succ_lt deeper)
      have apart : other ≠ onDisk (parents.reverse ++ [name]) := by
        rintro rfl
        simp [length_onDisk] at deeper
      unfold makeDirectories
      revert above
      generalize (if storage.holds (onDisk parents.reverse) then (storage, none)
        else storage.makeDirectories parents) = reached
      obtain ⟨made, failed⟩ := reached
      intro above
      cases failed with
      | some obstacle => exact above
      | none =>
          cases last : makeDirectory made (parents.reverse ++ [name]) with
          | ok further =>
              simpa only [last, makeDirectory_ok last, get?_put_of_ne apart] using above
          | error obstacle => cases obstacle <;> simpa only [last] using above

end Opening

end Storage

namespace Logging.Session

open Storage
open RotatingFile (backup)

section Opening

variable {session reached : Session} {working : Path} {configuration : Configuration}
  {file : RotatingFile}

/-- The sinks behind the listener. -/
def sinks (session : Session) : List Sink := (session.listener.getD []).map Handler.sink

/-- The log file is there, with what it held, and nothing else that lies as deep has
changed. -/
structure Opens (file : RotatingFile) (before after : Storage) : Prop where
  below : file.path ≠ []
  made : after.get? file.path = some (.file (before.content file.path))
  others : ∀ other : Path, other.length = file.path.length → other ≠ file.path →
    after.get? other = before.get? other

theorem openFile_some
    (came : session.openFile working configuration = (reached, .ok (some file))) :
    ∃ path made, file.path = onDisk path ∧
      session.storage.makeDirectories path.dropLast.reverse = (made, none) ∧
      made.openForAppend path = .ok reached.storage := by
  simp only [openFile] at came
  cases place : locationOf configuration.logFile with
  | error fault => simp [place] at came
  | ok location =>
      simp only [place] at came
      generalize above : session.storage.makeDirectories
        (Storage.absolute working location.path).dropLast.reverse = result at came
      obtain ⟨made, failed⟩ := result
      cases failed with
      | some obstacle => cases obstacle <;> cases came
      | none =>
          cases most : Configuration.integerOf configuration.maxBytes with
          | error fault => simp [most] at came
          | ok maxBytes =>
              cases count : Configuration.integerOf configuration.backupCount with
              | error fault => simp [most, count] at came
              | ok backupCount =>
                  simp only [most, count] at came
                  cases last : made.openForAppend (Storage.absolute working location.path) with
                  | error obstacle =>
                      rw [last] at came
                      cases obstacle <;> cases came
                  | ok opened =>
                      rw [last] at came
                      cases came
                      exact ⟨_, made, rfl, above, last⟩

theorem openFile_opens
    (came : session.openFile working configuration = (reached, .ok (some file))) :
    Opens file session.storage reached.storage := by
  obtain ⟨path, made, named, above, last⟩ := openFile_some came
  obtain ⟨below, same⟩ := openForAppend_ok last
  rw [← named] at same
  have depth : file.path.length = path.length := by rw [named, length_onDisk]
  have untouched : ∀ other : Path, other.length = file.path.length →
      made.get? other = session.storage.get? other := by
    intro other deep
    have positive := List.length_pos_iff.mpr below
    have deeper : path.dropLast.reverse.length < other.length := by simp; omega
    have kept := get?_makeDirectories deeper session.storage
    rwa [above] at kept
  rw [same]
  refine ⟨?_, ?_, ?_⟩
  · rw [← List.length_pos_iff, depth]
    exact List.length_pos_iff.mpr below
  · rw [get?_append_self, List.append_nil, content, content, untouched file.path rfl]
  · intro other deep apart
    rw [get?_append_of_ne apart, untouched other deep]

theorem fileHandlers_opens {level : Level} {handlers : List Handler} {handler : Handler}
    (came : session.fileHandlers working configuration level = (reached, .ok handlers))
    (behind : handler ∈ handlers) (target : handler.sink = .file file) :
    Opens file session.storage reached.storage := by
  unfold fileHandlers at came
  split at came
  · cases format : Configuration.formatOf configuration.fileFormat with
    | error fault => simp [format] at came
    | ok shown =>
        simp only [format] at came
        generalize opening : session.openFile working configuration = result at came
        obtain ⟨after, opened⟩ := result
        cases opened with
        | error fault => cases came
        | ok file? =>
            cases file? with
            | none =>
                cases came
                cases behind
            | some found =>
                cases came
                obtain rfl := List.mem_singleton.mp behind
                cases target
                exact openFile_opens opening
  · cases came
    cases behind

theorem sinks_attach (bare : session.sinks = []) (handlers : List Handler) :
    (session.attach handlers).sinks = handlers.map Handler.sink := by
  cases handlers with
  | nil => exact bare
  | cons handler rest => rfl

theorem storage_attach (session : Session) (handlers : List Handler) :
    (session.attach handlers).storage = session.storage := by
  cases handlers <;> rfl

/-- Whatever file is written to, its handler is not the console's. -/
theorem file_among {level : Level} {console files : List Handler}
    (read : Configuration.levelOf configuration.level = .ok level)
    (first : consoleHandlers configuration level = .ok console)
    (named : ∀ handler ∈ files, files = [handler] ∧ FileFor working configuration handler)
    ⦃other : RotatingFile⦄ (member : .file other ∈ (console ++ files).map Handler.sink) :
    ∃ handler, files = [handler] ∧ FileFor working configuration handler ∧
      handler.sink = .file other := by
  obtain ⟨handler, inside, sink⟩ := List.mem_map.mp member
  rcases List.mem_append.mp inside with shown | filed
  · rcases consoleHandlers_ok read first with ⟨-, rfl⟩ | ⟨only, rfl, made⟩
    · cases shown
    · obtain rfl := List.mem_singleton.mp shown
      rw [made.sink] at sink
      cases sink
  · obtain ⟨alone, made⟩ := named handler filed
    exact ⟨handler, alone, made, sink⟩

/-- After an installation with a log file behind the listener, the file is the one named,
it has been opened, and there is no other. -/
theorem install_opens {level : Level}
    (read : Configuration.levelOf configuration.level = .ok level)
    (target : .file file ∈ (session.install working configuration).1.sinks) :
    Names working configuration file ∧
      Opens file session.storage (session.install working configuration).1.storage ∧
      ∀ other, .file other ∈ (session.install working configuration).1.sinks → other = file := by
  obtain ⟨storage, warnings, -, disturbed, named⟩ :=
    fileHandlers_yields read (session.cleared level) working
  rw [install_eq read] at target ⊢
  cases first : consoleHandlers configuration level with
  | error fault => simp [first, sinks, cleared, detach] at target
  | ok console =>
      simp only [first] at target ⊢
      generalize opening : (session.cleared level).fileHandlers working configuration level =
        result at target disturbed named ⊢
      obtain ⟨reached, came⟩ := result
      have bare : reached.sinks = [] := by
        rw [show reached = _ from disturbed]
        rfl
      cases came with
      | error fault =>
          rw [bare] at target
          cases target
      | ok files =>
          simp only [sinks_attach bare, storage_attach] at target ⊢
          have opened := file_among read first (named files rfl)
          obtain ⟨handler, alone, made, sink⟩ := opened target
          have opens := fileHandlers_opens opening (by rw [alone]; exact List.mem_cons_self) sink
          obtain ⟨-, level, format, found, -, -, names, rfl⟩ := made
          cases sink
          refine ⟨names, opens, ?_⟩
          intro other member
          obtain ⟨handler, same, -, sink⟩ := opened member
          rw [alone] at same
          cases same
          cases sink
          rfl

end Opening

section Keeping

variable {session : Session} {file : RotatingFile}

/-- Steps that put other handlers behind the listener, or none. -/
def Step.replaces : Step → Bool
  | .configure _ force => force
  | .shutdown => true
  | _ => false

/-- A configured session with one log file at most. -/
structure LogsTo (file : RotatingFile) (session : Session) : Prop where
  only : ∀ other, .file other ∈ session.sinks → other = file
  configured : session.configured = true

theorem handled_sinks {origin : Origin} {record : Record} {handlers : List Handler}
    {storage : Storage} {piece : Outlet × Text}
    (member : piece ∈ handled origin record handlers storage) :
    piece.1 = .complaints ∨ ∃ handler ∈ handlers, piece.1 = .sink handler.sink := by
  induction handlers generalizing storage with
  | nil => cases member
  | cons handler rest ih =>
      rcases List.mem_append.mp member with here | later
      · rcases List.mem_append.mp here with line | complaint
        · obtain ⟨line, -, rfl⟩ := Option.map_eq_some_iff.mp (Option.mem_toList.mp line)
          exact .inr ⟨handler, List.mem_cons_self, rfl⟩
        · obtain ⟨failure, -, rfl⟩ := Option.map_eq_some_iff.mp (Option.mem_toList.mp complaint)
          exact .inl rfl
      · rcases ih later with complaint | ⟨asked, inside, sunk⟩
        · exact .inl complaint
        · exact .inr ⟨asked, List.mem_cons_of_mem handler inside, sunk⟩

theorem emissions_file {origin : Origin} {record : Record} {piece : Outlet × Text}
    (member : piece ∈ session.emissions origin record) {other : RotatingFile}
    (filed : piece.1 = .sink (.file other)) : .file other ∈ session.sinks := by
  unfold emissions at member
  split at member
  · split at member
    · split at member
      · rw [List.mem_singleton.mp member] at filed
        cases filed
      · cases member
    · split at member
      · rcases handled_sinks member with complaint | ⟨handler, asked, sunk⟩
        · rw [filed] at complaint
          cases complaint
        · rw [filed] at sunk
          exact List.mem_map.mpr ⟨handler, asked, (Outlet.sink.inj sunk).symm⟩
      · cases member
  · cases member

theorem foldl_emit_storage {pieces : List (Outlet × Text)}
    (only : ∀ piece ∈ pieces, ∀ other, piece.1 = .sink (.file other) → other = file)
    (session : Session) :
    (pieces.foldl emit session).storage =
      (textsTo Outlet.isFile pieces).foldl (fun storage line => (file.deliver line storage).1)
        session.storage := by
  induction pieces generalizing session with
  | nil => rfl
  | cons piece rest ih =>
      rw [List.foldl_cons, ih fun later member => only later (List.mem_cons_of_mem _ member)]
      obtain ⟨_ | (_ | other) | _, text⟩ := piece
      · rfl
      · rfl
      · obtain rfl := only (.sink (.file other), text) List.mem_cons_self other rfl
        rfl
      · rfl

theorem LogsTo.after (logs : session.LogsTo file) {move : Move}
    (keeps : move.step.replaces = false) :
    (session.after move).LogsTo file ∧
      (session.after move).storage =
        (textsTo Outlet.isFile (session.moveEmissions move)).foldl
          (fun storage line => (file.deliver line storage).1) session.storage := by
  obtain ⟨only, configured⟩ := logs
  obtain ⟨working, origin, step⟩ := move
  cases step with
  | configure configuration force =>
      have same : session.configure working configuration force = (session, none) := by
        rw [show force = false from keeps]
        simp [configure, configured]
      rw [after_configure, same]
      exact ⟨⟨only, configured⟩, rfl⟩
  | shutdown => cases keeps
  | log record =>
      obtain ⟨storage, stderr, console, same⟩ := session.log_frame origin record
      constructor
      · rw [after_log, same]
        exact ⟨only, configured⟩
      · rw [after_log, log_eq_emit]
        refine foldl_emit_storage ?_ session
        intro piece member other filed
        exact only other (emissions_file member filed)
  | setRootLevel level => exact ⟨⟨only, configured⟩, rfl⟩
  | addForeign => exact ⟨⟨only, configured⟩, rfl⟩

theorem LogsTo.run (logs : session.LogsTo file) {moves : List Move}
    (keep : ∀ move ∈ moves, move.step.replaces = false) :
    (session.run moves).storage =
      (textsTo Outlet.isFile (session.history moves)).foldl
        (fun storage line => (file.deliver line storage).1) session.storage := by
  induction moves generalizing session with
  | nil => rfl
  | cons move rest ih =>
      obtain ⟨kept, here⟩ := logs.after (keep move List.mem_cons_self)
      have later := ih kept fun other member => keep other (List.mem_cons_of_mem _ member)
      rw [history, textsTo_append, List.foldl_append, ← here, ← later]
      rfl

end Keeping

section Fresh

variable {before : Session} {working : Path} {configuration : Configuration} {force : Bool}
  {file : RotatingFile}

theorem configure_carried (before : Session) (working : Path)
    (carried : before.carriesOut configuration force = true) :
    before.configure working configuration force = before.install working configuration ∧
      ∃ level, Configuration.levelOf configuration.level = .ok level := by
  simp only [carriesOut, Bool.and_eq_true, Bool.not_eq_true'] at carried
  constructor
  · rw [configure, carried.1]
    rfl
  · cases read : Configuration.levelOf configuration.level with
    | ok level => exact ⟨level, rfl⟩
    | error fault =>
        rw [read] at carried
        cases carried.2

theorem configured_of_sink {level : Level} {sink : Sink}
    (read : Configuration.levelOf configuration.level = .ok level)
    (behind : sink ∈ (before.install working configuration).1.sinks) :
    (before.install working configuration).1.configured = true := by
  obtain ⟨level, storage, warnings, -, -, same | ⟨handlers, lineup, same⟩⟩ :=
    install_configures read before working
  · rw [same] at behind
    cases behind
  · rw [same, attach_of_ne_nil lineup.ne_nil]

theorem backup_length {path : Path} (below : path ≠ []) (number : Nat) :
    (backup path number).length = path.length := by
  have positive := List.length_pos_iff.mpr below
  simp only [backup, List.length_append, List.length_dropLast, List.length_singleton]
  omega

theorem Opens.stores {storage after : Storage} (opens : Opens file storage after)
    (absent : storage.get? file.path = none)
    (fresh : ∀ number, 0 < number → storage.get? (backup file.path number) = none) :
    RotatingFile.Stores file [] [] after := by
  constructor
  · exact opens.below
  · rw [opens.made, content_of_missing absent]
    rfl
  · intro number
    rw [opens.others _ (backup_length opens.below _)
      (RotatingFile.backup_ne file.path (number + 1)).symm, fresh _ (Nat.succ_pos number)]
    rfl

end Fresh

/-- From the call on that opens a log file which, like its backups, was not there before,
and until the listener is replaced: if the file rotates, no backup beyond the count ever
exists, and the backups and the file together, from the oldest on, hold the last of the
lines that were taken, cut off between two lines, with the latest of them in the file.
Otherwise the file alone holds all of them. Every line delivered is taken, unless it has
no encoding or the file that has to roll over cannot. -/
theorem rotation_forgets_oldest {before : Session} {working : Path}
    {configuration : Configuration} {force : Bool} {file : RotatingFile}
    (carried : before.carriesOut configuration force = true)
    (target : .file file ∈ (before.configure working configuration force).1.sinks)
    (absent : before.storage.get? file.path = none)
    (fresh : ∀ number, 0 < number → before.storage.get? (backup file.path number) = none)
    {moves : List Move} (keep : ∀ move ∈ moves, move.step.replaces = false) :
    let opened := (before.configure working configuration force).1
    let lines := textsTo Outlet.isFile (opened.history moves)
    let taken := file.taken lines opened.storage
    let storage := (opened.run moves).storage
    Names working configuration file ∧
      (0 < file.maxBytes → 0 < file.backupCount →
        (∀ number : Nat, file.backupCount < number →
          storage.get? (backup file.path number) = none) ∧
        ∃ lost backed current, taken = lost ++ (backed ++ current) ∧
          file.chain storage = Utf8.encode (backed ++ current).flatten ∧
          storage.content file.path = Utf8.encode current.flatten ∧
          (taken = lines → lines ≠ [] → current ≠ [])) ∧
      (file.maxBytes ≤ 0 ∨ file.backupCount ≤ 0 →
        storage.get? file.path = some (.file (Utf8.encode taken.flatten)) ∧
        ∀ number, 0 < number → storage.get? (backup file.path number) = none) ∧
      taken.Sublist lines ∧
      (file.maxBytes ≤ 0 ∨ file.backupCount ≤ 0 ∨ file.Rolls →
        (∀ line ∈ lines, Utf8.unencodable? 0 line = none) → taken = lines) := by
  intro opened lines taken storage
  obtain ⟨installs, level, read⟩ := before.configure_carried working carried
  have installed : opened = (before.install working configuration).1 := congrArg Prod.fst installs
  rw [show (before.configure working configuration force).1 = _ from installed] at target
  obtain ⟨names, opens, only⟩ := install_opens read target
  have logs : opened.LogsTo file := installed ▸ ⟨only, configured_of_sink read target⟩
  rw [← installed] at opens
  have begun := (opens.stores absent fresh).retains
  obtain ⟨lost, backups, current, retained⟩ := begun.deliverAll lines
  rw [List.nil_append, List.nil_append, ← logs.run keep] at retained
  obtain ⟨stores, few, order, parts, latest, whole⟩ := retained
  refine ⟨names, ?_, ?_, order, fun rolls encodable => begun.taken_all rolls encodable⟩
  · intro limited keeps
    refine ⟨?_, lost, backups.reverse.flatten, current, parts, stores.chain few,
      content_of_get? stores.current, latest⟩
    intro number beyond
    obtain ⟨number, rfl⟩ : ∃ last, number = last + 1 := ⟨number - 1, by omega⟩
    rw [stores.backups, List.getElem?_eq_none (by omega)]
    rfl
  · intro bare
    obtain ⟨rfl, rfl⟩ := whole bare
    have all : taken = current := by simpa using parts
    rw [all]
    refine ⟨stores.current, ?_⟩
    intro number positive
    obtain ⟨number, rfl⟩ : ∃ last, number = last + 1 := ⟨number - 1, by omega⟩
    rw [stores.backups]
    rfl

/-- With room for one record and one backup, each of three records rolls the file over,
the first of them while it is still empty. -/
theorem rotation_forgets_oldest_of_three :
    let origin : Origin := ⟨⟨0⟩, ⟨0⟩, [], 0, [], 0, 0, fun _ _ => []⟩
    let configuration : Configuration :=
      { console := .bool false, logFile := .str "log", fileFormat := .str "%(message)s",
        maxBytes := .int 2, backupCount := .int 1 }
    let file : RotatingFile := ⟨[("log" : Text)], .text, 2, 1⟩
    let moves : List Move :=
      [⟨[], origin, .log ⟨.error, [], "a"⟩⟩, ⟨[], origin, .log ⟨.error, [], "b"⟩⟩,
        ⟨[], origin, .log ⟨.error, [], "c"⟩⟩]
    let opened := ((start .warning []).configure [] configuration false).1
    let lines : List Text := ["a\n", "b\n", "c\n"]
    let storage := (opened.run moves).storage
    (start .warning []).carriesOut configuration false = true ∧
      .file file ∈ opened.sinks ∧ (∀ move ∈ moves, move.step.replaces = false) ∧
      textsTo Outlet.isFile (opened.history moves) = lines ∧
      file.taken lines opened.storage = lines ∧
      (∀ number : Nat, 1 < (number : Int) → storage.get? (backup file.path number) = none) ∧
      ∃ lost backed current, lines = lost ++ (backed ++ current) ∧
        file.chain storage = Utf8.encode (backed ++ current).flatten ∧
        storage.content file.path = Utf8.encode current.flatten ∧ current ≠ [] := by
  intro origin configuration file moves opened lines storage
  have carried : (start .warning []).carriesOut configuration false = true := by decide +kernel
  have target : .file file ∈ opened.sinks := by decide +kernel
  have keep : ∀ move ∈ moves, move.step.replaces = false := by decide +kernel
  have written : textsTo Outlet.isFile (opened.history moves) = lines := by decide +kernel
  have rolls : file.Rolls := ⟨rfl, by decide +kernel, by decide +kernel⟩
  obtain ⟨-, rotates, -, -, all⟩ :=
    rotation_forgets_oldest carried target rfl (fun _ _ => rfl) keep
  rw [written] at rotates all
  have taken := all (.inr (.inr rolls)) (by decide +kernel)
  obtain ⟨bounded, lost, backed, current, parts, chain, content, latest⟩ :=
    rotates (by decide) (by decide)
  refine ⟨carried, target, keep, written, taken, bounded, lost, backed, current, ?_, chain, content,
    latest taken (List.cons_ne_nil _ _)⟩
  exact taken.symm.trans parts

end Logging.Session

end TreeReport
