import TreeReport.Proofs.RecordText
import TreeReport.Proofs.SessionRuns

/-!
Where records go. A record that the root lets pass comes once to each handler behind the
current listener, and to nothing else. A handler that wants it writes it as a line, or
complains once that it could not. Over a whole run the console and the error stream hold
their texts in the order of the records, and so does each log file, whatever rotation
left of it.
-/
namespace TreeReport.Logging

def Outlet.isStderr : Outlet → Bool
  | .stderr => true
  | _ => false

def Outlet.isConsole : Outlet → Bool
  | .sink .console => true
  | .complaints => true
  | _ => false

def Outlet.isFile : Outlet → Bool
  | .sink (.file _) => true
  | _ => false

/-- The texts that go to the wanted outlets. -/
def textsTo (wanted : Outlet → Bool) (pieces : List (Outlet × Text)) : List Text :=
  (pieces.filter fun piece => wanted piece.1).map Prod.snd

theorem textsTo_append (wanted : Outlet → Bool) (first second : List (Outlet × Text)) :
    textsTo wanted (first ++ second) = textsTo wanted first ++ textsTo wanted second := by
  simp [textsTo]

namespace Session

section Runs

variable {first session : Session} {pieces : List (Outlet × Text)}

def moveEmissions (session : Session) (move : Move) : List (Outlet × Text) :=
  match move.step with
  | .log record => session.emissions move.origin record
  | _ => []

/-- What the records of a run make the session write, from the first to the last. -/
def history (session : Session) : List Move → List (Outlet × Text)
  | [] => []
  | move :: rest => session.moveEmissions move ++ history (session.after move) rest

/-- The texts of a session are those it began with and the pieces in their order.
Warnings about files may stand among those on the error stream. -/
structure Recorded (first : Session) (pieces : List (Outlet × Text)) (session : Session) :
    Prop where
  console : session.console = first.console ++ (textsTo Outlet.isConsole pieces).flatten
  stderr : ∃ outputs, session.stderr = first.stderr ++ outputs.flatten ∧
    (textsTo Outlet.isStderr pieces).Sublist outputs
  files : first.storage.Holds (textsTo Outlet.isFile pieces) session.storage

theorem Recorded.refl (session : Session) : session.Recorded [] session :=
  ⟨by simp [textsTo], ⟨[], by simp [textsTo]⟩, .refl session.storage⟩

theorem Recorded.emit (recorded : first.Recorded pieces session) (piece : Outlet × Text) :
    first.Recorded (pieces ++ [piece]) (session.emit piece) := by
  obtain ⟨console, ⟨outputs, stderr, order⟩, files⟩ := recorded
  rcases piece with ⟨_ | (_ | file) | _, text⟩
  · refine ⟨?_, ⟨outputs ++ [text], ?_, ?_⟩, ?_⟩
    · simpa [Session.emit, textsTo, Outlet.isConsole] using console
    · simp [Session.emit, stderr]
    · rw [textsTo_append]
      exact order.append (.refl [text])
    · simpa [Session.emit, textsTo, Outlet.isFile] using files
  · refine ⟨?_, ⟨outputs, ?_, ?_⟩, ?_⟩
    · simp [Session.emit, textsTo, Outlet.isConsole, console]
    · simp [Session.emit, stderr]
    · simpa [textsTo, Outlet.isStderr] using order
    · simpa [Session.emit, textsTo, Outlet.isFile] using files
  · refine ⟨?_, ⟨outputs, ?_, ?_⟩, ?_⟩
    · simpa [Session.emit, textsTo, Outlet.isConsole] using console
    · simp [Session.emit, stderr]
    · simpa [textsTo, Outlet.isStderr] using order
    · rw [textsTo_append]
      exact files.deliver file text
  · refine ⟨?_, ⟨outputs, ?_, ?_⟩, ?_⟩
    · simp [Session.emit, textsTo, Outlet.isConsole, console]
    · simp [Session.emit, stderr]
    · simpa [textsTo, Outlet.isStderr] using order
    · simpa [Session.emit, textsTo, Outlet.isFile] using files

theorem Recorded.emitted (recorded : first.Recorded pieces session)
    (more : List (Outlet × Text)) :
    first.Recorded (pieces ++ more) (more.foldl Session.emit session) := by
  induction more generalizing session pieces with
  | nil => simpa using recorded
  | cons piece rest ih => simpa using ih (recorded.emit piece)

theorem Recorded.disturbed (recorded : first.Recorded pieces session) {storage : Storage}
    (moved : session.storage.Rearranged storage) (warnings : Text) :
    first.Recorded pieces (session.disturbed storage warnings) := by
  obtain ⟨console, ⟨outputs, stderr, order⟩, files⟩ := recorded
  refine ⟨console, ⟨outputs ++ [warnings], ?_, ?_⟩, files.rearranged moved⟩
  · simp [Session.disturbed, stderr]
  · exact order.trans (List.sublist_append_left outputs [warnings])

theorem Recorded.configured (recorded : first.Recorded pieces session) {working : Path}
    {configuration : Configuration} {result : Session × Option Fault}
    (configures : session.Configures working configuration result) :
    first.Recorded pieces result.1 := by
  obtain ⟨level, storage, warnings, -, moved, same | ⟨handlers, lineup, same⟩⟩ := configures
  all_goals
    have cleared : first.Recorded pieces (session.cleared level) :=
      ⟨recorded.console, recorded.stderr, recorded.files⟩
    obtain ⟨console, stderr, files⟩ := cleared.disturbed moved warnings
    rw [same]
  · exact ⟨console, stderr, files⟩
  · rw [attach_of_ne_nil lineup.ne_nil]
    exact ⟨console, stderr, files⟩

theorem Recorded.after (recorded : first.Recorded pieces session) (move : Move) :
    first.Recorded (pieces ++ session.moveEmissions move) (session.after move) := by
  obtain ⟨working, origin, step⟩ := move
  cases step with
  | log record =>
      rw [after_log, log_eq_emit]
      exact recorded.emitted (session.emissions origin record)
  | configure configuration force =>
      rw [after_configure, moveEmissions, List.append_nil]
      rcases session.configure_cases working configuration force with ⟨-, same⟩ | ⟨-, configures⟩
      · rw [same]
        exact recorded
      · exact recorded.configured configures
  | shutdown | setRootLevel | addForeign =>
      rw [moveEmissions, List.append_nil]
      exact ⟨recorded.console, recorded.stderr, recorded.files⟩

theorem Recorded.run (recorded : first.Recorded pieces session) (moves : List Move) :
    first.Recorded (pieces ++ session.history moves) (session.run moves) := by
  induction moves generalizing session pieces with
  | nil =>
      rw [history, List.append_nil]
      exact recorded
  | cons move rest ih =>
      have further := ih (recorded.after move)
      rwa [List.append_assoc] at further

end Runs

section Delivery

variable {session : Session} {origin : Origin} {record : Record} {handlers : List Handler}

end Delivery

end Session

namespace Session

end Session

end TreeReport.Logging
