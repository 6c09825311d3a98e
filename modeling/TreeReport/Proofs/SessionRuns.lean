import Mathlib.Data.List.Induction
import TreeReport.Proofs.SessionSteps

/-!
Runs of a logging session. Whatever is done, our queue is on the root exactly while a
listener is stored, and the handlers of others stay as they were added. The flag is
weaker: it says that a listener has been stored since the last shutdown. A forced call
that installs nothing takes the listener away and leaves the flag, and then unforced
calls do nothing more.
-/
namespace TreeReport.Logging

/-- A step with the working directory it is taken in and the origin of its record. -/
structure Move where
  working : Path
  origin : Origin
  step : Session.Step

namespace Session

def Step.isShutdown : Step → Bool
  | .shutdown => true
  | _ => false

def Step.addsForeign : Step → Bool
  | .addForeign => true
  | _ => false

def after (session : Session) (move : Move) : Session :=
  (session.step move.working move.origin move.step).1

def run (session : Session) (moves : List Move) : Session := moves.foldl after session

/-- Logging that has not been configured, with nothing on the root. -/
def start (level : Level) (storage : Storage) : Session :=
  { rootLevel := level, storage := storage }

section Steps

variable (session : Session) (working : Path) (origin : Origin)

@[simp] theorem after_configure (configuration : Configuration) (force : Bool) :
    session.after ⟨working, origin, .configure configuration force⟩ =
      (session.configure working configuration force).1 := rfl

@[simp] theorem after_shutdown :
    session.after ⟨working, origin, .shutdown⟩ = { session.detach with configured := false } := rfl

@[simp] theorem after_log (record : Record) :
    session.after ⟨working, origin, .log record⟩ = session.log origin record := rfl

@[simp] theorem after_setRootLevel (level : Level) :
    session.after ⟨working, origin, .setRootLevel level⟩ =
      { session with rootLevel := level } := rfl

@[simp] theorem after_addForeign :
    session.after ⟨working, origin, .addForeign⟩ =
      { session with attached := session.attached ++ [.foreign session.foreignCount] } := rfl

end Steps

theorem run_snoc (session : Session) (moves : List Move) (move : Move) :
    session.run (moves ++ [move]) = (session.run moves).after move := by
  rw [run, List.foldl_append]
  rfl

section Wiring

variable {session : Session} {working : Path} {configuration : Configuration}

/-- Our queue is on the root once or not at all, and exactly with a listener; a
listener comes with the flag. -/
structure Wired (session : Session) : Prop where
  once : session.attached.count .queue ≤ 1
  paired : .queue ∈ session.attached ↔ session.listener.isSome = true
  flagged : session.listener.isSome = true → session.configured = true

@[simp] theorem queue_isForeign : Attached.queue.isForeign = false := rfl

@[simp] theorem foreign_isForeign (number : Nat) : (Attached.foreign number).isForeign = true := rfl

def foreigners (session : Session) : List Attached := session.attached.filter Attached.isForeign

theorem queue_not_mem_foreigners (session : Session) : .queue ∉ session.foreigners := by
  simp [foreigners]

theorem foreigners_detach (session : Session) : session.detach.foreigners = session.foreigners := by
  simp [foreigners, detach]

theorem detach_wired (session : Session) : session.detach.Wired := by
  have gone : Attached.queue ∉ session.detach.attached := session.queue_not_mem_foreigners
  constructor
  · rw [List.count_eq_zero.mpr gone]
    exact Nat.zero_le 1
  · exact ⟨fun member => absurd member gone, by simp [detach]⟩
  · simp [detach]

theorem attach_of_ne_nil {handlers : List Handler} (nonempty : handlers ≠ [])
    (session : Session) :
    session.attach handlers =
      { session with
        attached := session.attached ++ [.queue]
        listener := some handlers
        configured := true } := by
  simp [attach, nonempty]

theorem attach_wired {handlers : List Handler} (nonempty : handlers ≠ [])
    (gone : .queue ∉ session.attached) : (session.attach handlers).Wired := by
  rw [attach_of_ne_nil nonempty]
  constructor
  · simp [List.count_eq_zero.mpr gone]
  · simp
  · simp

theorem Configures.wired {result : Session × Option Fault}
    (configures : session.Configures working configuration result) : result.1.Wired := by
  obtain ⟨level, storage, warnings, -, -, same | ⟨handlers, lineup, same⟩⟩ := configures
  · rw [same]
    obtain ⟨once, paired, flagged⟩ := { session with rootLevel := level }.detach_wired
    exact ⟨once, paired, flagged⟩
  · rw [same]
    exact attach_wired lineup.ne_nil session.queue_not_mem_foreigners

theorem Configures.foreigners {result : Session × Option Fault}
    (configures : session.Configures working configuration result) :
    result.1.foreigners = session.foreigners := by
  obtain ⟨level, storage, warnings, -, -, same | ⟨handlers, lineup, same⟩⟩ := configures
  · rw [same]
    exact session.foreigners_detach
  · rw [same, attach_of_ne_nil lineup.ne_nil]
    simp [Session.foreigners, cleared, disturbed, detach]

theorem Wired.after (wired : session.Wired) (move : Move) : (session.after move).Wired := by
  obtain ⟨working, origin, step⟩ := move
  obtain ⟨once, paired, flagged⟩ := wired
  cases step with
  | configure configuration force =>
      rcases session.configure_cases working configuration force with ⟨-, same⟩ | ⟨-, configures⟩
      · rw [after_configure, same]
        exact ⟨once, paired, flagged⟩
      · exact configures.wired
  | shutdown =>
      obtain ⟨once, paired, -⟩ := session.detach_wired
      exact ⟨once, paired, by simp [detach]⟩
  | log record =>
      obtain ⟨storage, stderr, console, same⟩ := session.log_frame origin record
      rw [after_log, same]
      exact ⟨once, paired, flagged⟩
  | setRootLevel level => exact ⟨once, paired, flagged⟩
  | addForeign =>
      refine ⟨?_, ?_, flagged⟩
      · simpa [List.count_append] using once
      · simpa using paired

theorem run_wired (wired : session.Wired) (moves : List Move) : (session.run moves).Wired :=
  List.foldlRecOn moves Session.after wired fun _ kept move _ => kept.after move

theorem start_wired (level : Level) (storage : Storage) : (start level storage).Wired :=
  ⟨by simp [start], by simp [start], by simp [start]⟩

end Wiring

section Foreigners

variable {session : Session}

theorem foreigners_after (session : Session) (move : Move) :
    (session.after move).foreigners = session.foreigners ++
      if move.step.addsForeign then [.foreign session.foreigners.length] else [] := by
  obtain ⟨working, origin, step⟩ := move
  cases step with
  | configure configuration force =>
      rcases session.configure_cases working configuration force with ⟨-, same⟩ | ⟨-, configures⟩
      · simp [same, Step.addsForeign]
      · simpa [Step.addsForeign] using configures.foreigners
  | shutdown =>
      simp [Step.addsForeign, foreigners, detach]
  | log record =>
      obtain ⟨storage, stderr, console, same⟩ := session.log_frame origin record
      simp [same, Step.addsForeign, foreigners]
  | setRootLevel level => simp [Step.addsForeign, foreigners]
  | addForeign =>
      simp [Step.addsForeign, foreigners, foreignCount]

theorem start_foreigners (level : Level) (storage : Storage) :
    (start level storage).foreigners = [] := rfl

/-- Foreign handlers stay on the root in the order in which they were added. -/
theorem foreigners_run (session : Session) (numbered : session.foreigners =
      (List.range session.foreigners.length).map .foreign) (moves : List Move) :
    (session.run moves).foreigners =
      (List.range (session.foreigners.length + moves.countP (·.step.addsForeign))).map
        .foreign := by
  induction moves using List.reverseRecOn with
  | nil => simpa [run] using numbered
  | append_singleton earlier move ih =>
      rw [run_snoc, foreigners_after, ih, List.countP_append]
      cases adds : move.step.addsForeign with
      | false => simp [adds]
      | true => simp [adds, ← Nat.add_assoc, List.range_succ]

end Foreigners

section Settings

variable {session : Session} {setting : Option (Path × Configuration)}

/-- The configuration in force after a move: the one last carried out, until a shutdown. -/
def settingAfter (session : Session) (setting : Option (Path × Configuration)) (move : Move) :
    Option (Path × Configuration) :=
  match move.step with
  | .configure configuration force =>
      if session.carriesOut configuration force then some (move.working, configuration)
      else setting
  | .shutdown => none
  | _ => setting

def inForce (session : Session) (setting : Option (Path × Configuration)) :
    List Move → Option (Path × Configuration)
  | [] => setting
  | move :: rest => inForce (session.after move) (settingAfter session setting move) rest

/-- A stored listener is what the configuration in force asks for. -/
def Serves (session : Session) (setting : Option (Path × Configuration)) : Prop :=
  ∀ handlers, session.listener = some handlers →
    ∃ working configuration, setting = some (working, configuration) ∧
      Lineup working configuration handlers

theorem Serves.after (serves : session.Serves setting) (move : Move) :
    (session.after move).Serves (session.settingAfter setting move) := by
  obtain ⟨working, origin, step⟩ := move
  cases step with
  | configure configuration force =>
      rcases session.configure_cases working configuration force with
        ⟨passed, same⟩ | ⟨carried, level, storage, warnings, -, -, same | ⟨handlers, lineup, same⟩⟩
      · rw [after_configure, same]
        simpa [settingAfter, passed] using serves
      · intro handlers stored
        rw [after_configure, same] at stored
        cases stored
      · intro stored listener
        rw [after_configure, same, attach_of_ne_nil lineup.ne_nil] at listener
        cases listener
        exact ⟨working, configuration, by simp [settingAfter, carried], lineup⟩
  | shutdown =>
      intro handlers stored
      cases stored
  | log record =>
      obtain ⟨storage, stderr, console, same⟩ := session.log_frame origin record
      rw [after_log, same]
      exact serves
  | setRootLevel level => exact serves
  | addForeign => exact serves

theorem run_serves (serves : session.Serves setting) (moves : List Move) :
    (session.run moves).Serves (session.inForce setting moves) := by
  induction moves generalizing session setting with
  | nil => exact serves
  | cons move rest ih => exact ih (serves.after move)

theorem start_serves (level : Level) (storage : Storage) : (start level storage).Serves none := by
  intro handlers stored
  cases stored

end Settings

/-- In every state that can be reached, our queue is on the root at most once, exactly
while a listener is stored; the flag is set then, and the listener has a console
handler, a file handler, or both in this order. All other handlers on the root are
the foreign ones that were added, in that order. -/
theorem handlers_stay_paired (level : Level) (storage : Storage) (moves : List Move) :
    let session := (start level storage).run moves
    session.attached.count .queue ≤ 1 ∧
      (.queue ∈ session.attached ↔ session.listener.isSome = true) ∧
      (session.listener.isSome = true → session.configured = true) ∧
      (∀ handlers, session.listener = some handlers →
        handlers.map Handler.sink = [.console] ∨
          ∃ file, handlers.map Handler.sink = [.file file] ∨
            handlers.map Handler.sink = [.console, .file file]) ∧
      session.attached.filter Attached.isForeign =
        (List.range (moves.countP (·.step.addsForeign))).map .foreign := by
  intro session
  have wired : session.Wired := run_wired (start_wired level storage) moves
  refine ⟨wired.once, wired.paired, wired.flagged, ?_, ?_⟩
  · intro handlers stored
    obtain ⟨working, configuration, -, lineup⟩ :=
      run_serves (start_serves level storage) moves handlers stored
    exact lineup.sinks
  · have numbered := (start level storage).foreigners_run rfl moves
    rwa [start_foreigners, List.length_nil, Nat.zero_add] at numbered

section Flag

variable {session : Session}

/-- A move sets the flag only together with a listener, and only a shutdown clears it. -/
theorem configured_after (wired : session.Wired) (move : Move) :
    (session.after move).configured = true ↔
      session.configured = true ∧ move.step.isShutdown = false ∨
        (session.after move).listener.isSome = true := by
  have flagged := (wired.after move).flagged
  obtain ⟨working, origin, step⟩ := move
  cases step with
  | configure configuration force =>
      rcases session.configure_cases working configuration force with
        ⟨-, same⟩ | ⟨-, level, storage, warnings, -, -, same | ⟨handlers, lineup, same⟩⟩
      · simpa [Step.isShutdown, same] using flagged
      · simp [Step.isShutdown, same, cleared, disturbed, detach]
      · simp [same, attach_of_ne_nil lineup.ne_nil]
  | shutdown => simp [Step.isShutdown, detach]
  | log record =>
      obtain ⟨storage, stderr, console, same⟩ := session.log_frame origin record
      simp only [after_log, same] at flagged ⊢
      simpa [Step.isShutdown] using flagged
  | setRootLevel level => simpa [Step.isShutdown] using flagged
  | addForeign => simpa [Step.isShutdown] using flagged

/-- Since some point of the run, at which a listener was stored, there was no shutdown. -/
def HeldSince (first : Session) (moves : List Move) : Prop :=
  ∃ earlier later, moves = earlier ++ later ∧ (first.run earlier).listener.isSome = true ∧
    ∀ move ∈ later, move.step.isShutdown = false

theorem heldSince_snoc (first : Session) (moves : List Move) (move : Move) :
    first.HeldSince (moves ++ [move]) ↔
      first.HeldSince moves ∧ move.step.isShutdown = false ∨
        (first.run (moves ++ [move])).listener.isSome = true := by
  constructor
  · rintro ⟨earlier, later, split, stored, quiet⟩
    -- The point lies right behind the last move, or else before it.
    cases later using List.reverseRecOn with
    | nil =>
        rw [List.append_nil] at split
        exact .inr (split ▸ stored)
    | append_singleton before last =>
        rw [← List.append_assoc] at split
        obtain ⟨rfl, ended⟩ := List.append_inj' split rfl
        cases ended
        simp only [List.mem_append, List.mem_singleton] at quiet
        exact .inl ⟨⟨earlier, before, rfl, stored, fun other member => quiet other (.inl member)⟩,
          quiet move (.inr rfl)⟩
  · rintro (⟨⟨earlier, later, rfl, stored, quiet⟩, last⟩ | stored)
    · refine ⟨earlier, later ++ [move], List.append_assoc .., stored, ?_⟩
      simp only [List.mem_append, List.mem_singleton]
      rintro other (member | rfl)
      · exact quiet other member
      · exact last
    · exact ⟨moves ++ [move], [], (List.append_nil _).symm, stored, by simp⟩

theorem configured_run (level : Level) (storage : Storage) (moves : List Move) :
    ((start level storage).run moves).configured = true ↔
      (start level storage).HeldSince moves := by
  -- From the last move back, since the flag depends on what came before it.
  induction moves using List.reverseRecOn with
  | nil => simp [run, start, HeldSince]
  | append_singleton earlier move ih =>
      rw [heldSince_snoc, run_snoc,
        configured_after (run_wired (start_wired level storage) earlier), ih]

/-- The flag stands for a listener stored since the last shutdown. While it is set an
unforced call does nothing. While it is not, an unforced call with usable fields and
the console asked for ends with a listener behind our queue. -/
theorem configured_flag_tells (level : Level) (storage : Storage) (moves : List Move) :
    let session := (start level storage).run moves
    (session.configured = true ↔ (start level storage).HeldSince moves) ∧
      (session.listener.isSome = true → session.configured = true) ∧
      (.queue ∈ session.attached ↔ session.listener.isSome = true) ∧
      ∀ working configuration,
        (session.configured = true →
          session.configure working configuration false = (session, none)) ∧
        (session.configured = false → configuration.console.truth = true →
          Usable working configuration →
          let result := session.configure working configuration false
          result.2 = none ∧ result.1.configured = true ∧ result.1.listener.isSome = true ∧
            .queue ∈ result.1.attached) := by
  intro session
  have wired : session.Wired := run_wired (start_wired level storage) moves
  refine ⟨configured_run level storage moves, wired.flagged, wired.paired, ?_⟩
  intro working configuration
  constructor
  · intro flag
    simp [configure, flag]
  · intro free console usable
    obtain ⟨sound, before, handlers, nonempty, installed⟩ :=
      install_installs console usable session
    have carried : session.configure working configuration false =
        session.install working configuration := by
      simp [configure, free]
    simp [carried, sound, installed, attach_of_ne_nil nonempty]

/-- Once a forced call has taken the listener away and installed nothing, the flag keeps
every unforced call from installing another. -/
theorem flag_outlives_listener :
    let origin : Origin := ⟨⟨0⟩, ⟨0⟩, [], 0, [], 0, 0, fun _ _ => []⟩
    let session := (start .warning []).run
      [⟨[], origin, .configure {} false⟩,
        ⟨[], origin, .configure { console := .bool false } true⟩]
    session.configured = true ∧ session.listener.isSome = false ∧ .queue ∉ session.attached ∧
      Usable [] {} ∧ ({} : Configuration).console.truth = true ∧
      (session.configure [] {} false).1.listener.isSome = false := by
  refine ⟨by decide +kernel, by decide +kernel, by decide +kernel, ?_, rfl, by decide +kernel⟩
  refine ⟨⟨.warning, by decide +kernel⟩, fun _ => ⟨"%(levelname)s | %(message)s", ?_⟩,
    fun file => by cases file⟩
  have valid : Format.isValid "%(levelname)s | %(message)s" = true := by decide +kernel
  simp only [Configuration.formatOf, valid, if_true]
  rfl

end Flag

end Session

end TreeReport.Logging
