import TreeReport.Proofs.SessionRuns
import TreeReport.Proofs.WrittenIntegers

/-!
Configuring by force and starting over. Nothing that an installation does depends on the
flag, and nothing of an earlier setup is left once it is taken down, in whatever order. So
a forced call and a shutdown with an unforced call behind it differ in no more than the
flag, and that only where nothing was installed. But the level is read before anything is
taken down, so with a level that has no text a forced call leaves everything in place.
-/
namespace TreeReport.Logging

namespace Configuration

variable {value : Value}

theorem levelOf_ok (spoken : value.truth = true → ∀ n ∈ value.spelled, Decimal.Short n) :
    ∃ level, levelOf value = .ok level := by
  unfold levelOf
  split
  · exact ⟨_, rfl⟩
  · next given =>
      have spelled : value.spell = .ok value.plain :=
        Decimal.write_ok (spoken (by simpa using given))
      rw [spelled]
      exact ⟨_, rfl⟩

theorem levelOf_error
    (unspoken : ¬ (value.truth = true → ∀ n ∈ value.spelled, Decimal.Short n)) :
    levelOf value = .error .overflow := by
  rw [Classical.not_imp] at unspoken
  obtain ⟨given, long⟩ := unspoken
  have failed : value.spell = .error ⟨⟩ := if_neg long
  simp [levelOf, given, failed]

end Configuration

namespace Session

section Flag

variable (session : Session) (flag : Bool) (working : Path) (configuration : Configuration)

def flagged : Session := { session with configured := flag }

theorem openFile_flagged :
    (session.flagged flag).openFile working configuration =
      ((session.openFile working configuration).1.flagged flag,
        (session.openFile working configuration).2) := by
  simp only [openFile]
  cases locationOf configuration.logFile with
  | error fault => rfl
  | ok location =>
      dsimp only [flagged]
      generalize session.storage.makeDirectories
        (Storage.absolute working location.path).dropLast.reverse = reached
      obtain ⟨made, failed⟩ := reached
      cases failed with
      | some obstacle => cases obstacle <;> rfl
      | none =>
          cases Configuration.integerOf configuration.maxBytes with
          | error fault => rfl
          | ok maxBytes =>
              cases Configuration.integerOf configuration.backupCount with
              | error fault => rfl
              | ok backupCount =>
                  dsimp only
                  cases made.openForAppend (Storage.absolute working location.path) with
                  | ok opened => rfl
                  | error obstacle => cases obstacle <;> rfl

theorem fileHandlers_flagged (level : Level) :
    (session.flagged flag).fileHandlers working configuration level =
      ((session.fileHandlers working configuration level).1.flagged flag,
        (session.fileHandlers working configuration level).2) := by
  simp only [fileHandlers]
  split
  · cases Configuration.formatOf configuration.fileFormat with
    | error fault => rfl
    | ok format => simp only [openFile_flagged]
  · rfl

theorem attach_flagged (handlers : List Handler) :
    (session.flagged flag).attach handlers =
      (session.attach handlers).flagged (flag || !handlers.isEmpty) := by
  cases handlers with
  | nil => simp [attach, flagged]
  | cons handler rest => simp [attach, flagged]

theorem listener_attach (handlers : List Handler) (none : session.listener = none) :
    (session.attach handlers).listener.isSome = !handlers.isEmpty := by
  cases handlers with
  | nil => simp [attach, none]
  | cons handler rest => simp [attach]

variable {configuration} {level : Level}

/-- An installation does the same under either flag. It sets the flag where it stores a
listener, and leaves it elsewhere. -/
theorem install_flagged (read : Configuration.levelOf configuration.level = .ok level) :
    (session.flagged flag).install working configuration =
      ((session.install working configuration).1.flagged
          (flag || (session.install working configuration).1.listener.isSome),
        (session.install working configuration).2) := by
  obtain ⟨storage, warnings, -, opened, -⟩ :=
    fileHandlers_yields read (session.cleared level) working
  have bare : ((session.cleared level).fileHandlers working configuration level).1.listener =
      none := by
    rw [opened]
    rfl
  have cleared : (session.flagged flag).cleared level = (session.cleared level).flagged flag := rfl
  simp only [install_eq read, cleared, fileHandlers_flagged]
  cases consoleHandlers configuration level with
  | error fault => simp [Session.cleared, detach]
  | ok console =>
      revert bare
      generalize (session.cleared level).fileHandlers working configuration level = result
      obtain ⟨reached, came⟩ := result
      intro bare
      cases came with
      | error fault => simp [show reached.listener = none from bare]
      | ok file => simp only [attach_flagged, listener_attach reached _ bare]

theorem install_configured (read : Configuration.levelOf configuration.level = .ok level) :
    (session.install working configuration).1.configured =
      (session.configured || (session.install working configuration).1.listener.isSome) := by
  have same := session.install_flagged session.configured working read
  exact congrArg (fun result => result.1.configured) same

/-- What was set up before does not matter to an installation. -/
theorem install_detach (read : Configuration.levelOf configuration.level = .ok level) :
    session.detach.install working configuration = session.install working configuration := by
  have same : session.detach.cleared level = session.cleared level := by
    simp [cleared, detach]
  simp only [install_eq read, same]

end Flag

section Shutdown

variable (session : Session) (working : Path) {configuration : Configuration} {level : Level}

/-- The handler and the listener can go in either order. -/
theorem shutdown_eq : session.shutdown = session.detach.flagged false := rfl

theorem shutdown_shutdown : session.shutdown.shutdown = session.shutdown := by
  simp [shutdown]

theorem configure_forced (configuration : Configuration) :
    session.configure working configuration true = session.install working configuration := by
  simp [configure]

theorem configure_fresh (configuration : Configuration) :
    session.shutdown.configure working configuration false =
      session.shutdown.install working configuration := by
  simp [configure, shutdown]

theorem configure_shutdown (read : Configuration.levelOf configuration.level = .ok level) :
    session.shutdown.configure working configuration false =
      ((session.configure working configuration true).1.flagged
          (session.configure working configuration true).1.listener.isSome,
        (session.configure working configuration true).2) := by
  rw [configure_forced, configure_fresh, shutdown_eq, install_flagged _ _ _ read,
    install_detach _ _ read, Bool.false_or]

end Shutdown

/-- Two sessions with the same root, handlers, listener, files and texts; the flag is
left open. -/
structure SameButFlag (first second : Session) : Prop where
  rootLevel : first.rootLevel = second.rootLevel
  attached : first.attached = second.attached
  listener : first.listener = second.listener
  storage : first.storage = second.storage
  stderr : first.stderr = second.stderr
  console : first.console = second.console

/-- In every state that can be reached, with a level that has a text, a forced call and a
shutdown with an unforced call behind it leave the same root level, handlers, listener,
files and texts and raise the same fault. The flag is then the same too if handlers were
installed; otherwise the forced call leaves it as it was and the shutdown clears it. With
a level that has no text both calls raise and change nothing, so only the shutdown shows.
A shutdown takes away our queue, the listener and the flag, leaves all else as it is,
and a second one changes nothing. -/
theorem forced_configuration_restarts (level : Level) (storage : Storage) (moves : List Move)
    (working : Path) (configuration : Configuration) :
    let session := (start level storage).run moves
    let forced := session.configure working configuration true
    let fresh := session.shutdown.configure working configuration false
    let spoken := configuration.level.truth = true →
      ∀ n ∈ configuration.level.spelled, Decimal.Short n
    (spoken → SameButFlag forced.1 fresh.1 ∧ forced.2 = fresh.2 ∧
      (forced.1.listener.isSome = true → forced = fresh) ∧
      (forced.1.listener = none →
        forced.1.configured = session.configured ∧ fresh.1.configured = false)) ∧
    (¬ spoken → forced = (session, some .overflow) ∧ fresh = (session.shutdown, some .overflow)) ∧
    .queue ∉ session.shutdown.attached ∧ session.shutdown.listener = none ∧
    session.shutdown.configured = false ∧
    session.shutdown.attached = session.attached.filter Attached.isForeign ∧
    session.shutdown.attached =
      (List.range (moves.countP (·.step.addsForeign))).map .foreign ∧
    session.shutdown =
      { session with
        attached := session.shutdown.attached
        listener := none
        configured := false } ∧
    session.shutdown.shutdown = session.shutdown := by
  intro session forced fresh spoken
  refine ⟨?_, ?_, session.queue_not_mem_foreigners, rfl, rfl, rfl, ?_, rfl,
    session.shutdown_shutdown⟩
  · intro said
    obtain ⟨asked, read⟩ := Configuration.levelOf_ok said
    have same : fresh = (forced.1.flagged forced.1.listener.isSome, forced.2) :=
      session.configure_shutdown working read
    have flag : forced.1.configured = (session.configured || forced.1.listener.isSome) := by
      have carried : forced = session.install working configuration :=
        session.configure_forced working configuration
      rw [carried]
      exact session.install_configured working read
    refine ⟨?_, ?_, ?_, ?_⟩
    · rw [same]
      exact ⟨rfl, rfl, rfl, rfl, rfl, rfl⟩
    · rw [same]
    · intro installed
      rw [installed, Bool.or_true] at flag
      rw [same, installed, ← flag]
      rfl
    · intro bare
      rw [bare, Option.isSome_none, Bool.or_false] at flag
      rw [same, bare]
      exact ⟨flag, rfl⟩
  · intro unsaid
    have unread := Configuration.levelOf_error unsaid
    constructor
    · exact (session.configure_forced working configuration).trans (install_unread unread _ _)
    · exact (session.configure_fresh working configuration).trans (install_unread unread _ _)
  · have numbered := (start level storage).foreigners_run rfl moves
    rwa [start_foreigners, List.length_nil, Nat.zero_add] at numbered

/-- With a level that is too long to be written, the forced call leaves the old listener
and the handler in place, where the shutdown has taken them away. -/
theorem long_level_leaves_listener :
    let origin : Origin := ⟨⟨0⟩, ⟨0⟩, [], 0, [], 0, 0, fun _ _ => []⟩
    let configuration : Configuration := { level := .int Decimal.leastLong }
    let session := (start .warning []).run [⟨[], origin, .configure {} false⟩]
    let forced := session.configure [] configuration true
    let fresh := session.shutdown.configure [] configuration false
    forced.1.attached = [.queue] ∧ fresh.1.attached = [] ∧
      forced.1.listener.isSome = true ∧ fresh.1.listener.isSome = false := by
  intro origin configuration session forced fresh
  have unsaid : ¬ (configuration.level.truth = true →
      ∀ n ∈ configuration.level.spelled, Decimal.Short n) := by
    intro said
    refine Decimal.not_short_leastLong (said ?_ _ (List.mem_singleton.mpr rfl))
    exact bne_iff_ne.mpr Decimal.leastLong_ne_zero
  have unread := Configuration.levelOf_error unsaid
  have stays : forced = (session, some .overflow) :=
    (session.configure_forced [] configuration).trans (install_unread unread _ _)
  have goes : fresh = (session.shutdown, some .overflow) :=
    (session.configure_fresh [] configuration).trans (install_unread unread _ _)
  rw [stays, goes]
  refine ⟨?_, ?_, ?_, ?_⟩ <;> decide +kernel

end Session

end TreeReport.Logging
