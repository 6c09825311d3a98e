import TreeReport.CommandLine.Run
import TreeReport.Proofs.Encoding
import TreeReport.Proofs.LongIntegers
import TreeReport.Proofs.SessionSteps
import TreeReport.Proofs.ShortValues

/-!
How a run goes. It reads its sources in order and shows the tree of each, and the
first source that gives no tree ends it. Showing a tree adds nothing but records, and it
never fails, since what has been read holds no integer that is too long. So a run is told
by the trees that it read and by what came after them.
-/
namespace TreeReport.CommandLine

open Logging (Session Origin)

section Preparation

def Arguments.sources (arguments : Arguments) : List Text :=
  if arguments.files.isEmpty then [stdinMarker] else arguments.files

def Arguments.checked (arguments : Arguments) : Value :=
  .options (.bool arguments.showPositions) ((arguments.colors.map .bool).getD .null)

/-- How a run with the arguments shows a tree. -/
def Arguments.display (arguments : Arguments) : Report.Display :=
  ⟨arguments.showPositions, arguments.colors.getD false⟩

theorem lenient_options (arguments : Arguments) :
    Options.lenient (.mapping .dictionary arguments.options) =
      .ok ⟨⟨.bool arguments.showPositions, (arguments.colors.map .bool).getD .null⟩, [], []⟩ := by
  apply Options.lenient_of_ok
  cases colors : arguments.colors with
  | none =>
      simp only [Arguments.options, colors]
      rfl
  | some painted =>
      simp only [Arguments.options, colors]
      rfl

/-- Options from the command line raise no doubts, so a tree is only announced. -/
theorem inspect_checked (arguments : Arguments) (tree : Value) :
    Inspection.inspect .asAsked tree arguments.checked {} =
      (Report.render arguments.display tree,
        [Inspection.announced tree
          ⟨.bool arguments.showPositions, .bool (arguments.colors.getD false)⟩]) := by
  have painted : ((arguments.colors.map Value.bool).getD .null).truth =
      arguments.colors.getD false := by
    cases arguments.colors <;> rfl
  have settled : Options.settle ⟨.bool arguments.showPositions,
      (arguments.colors.map .bool).getD .null⟩ {} Inspection.ColorPolicy.asAsked.forced =
        ⟨.bool arguments.showPositions, .bool (arguments.colors.getD false)⟩ := by
    simp only [Options.settle, painted]
    rfl
  rw [Arguments.checked, Inspection.inspect_read (Options.lenient_record _ _), settled,
    if_pos (by simp [Value.spelled])]
  rfl

end Preparation

section Loading

def load (storage : Storage) (working : Path) (input : Input) (source : Text) :
    Except Trouble Value × Input :=
  let (read, rest) := sourceBytes storage working input source
  (read.bind (treeOf source), rest)

theorem treeOf_short {source : Text} {content : List UInt8} {tree : Value}
    (found : treeOf source content = .ok tree) : tree.AllShort := by
  unfold treeOf at found
  split at found
  · cases found
  · next decoded _ =>
      have limited := Json.read_limited (Utf8.universalNewlines decoded)
      dsimp only at found
      split at found
      · next document read =>
          cases found
          rw [read] at limited
          exact Value.allShort_ofJson document limited
      · cases found
      · cases found

theorem load_short {storage : Storage} {working : Path} {input rest : Input} {source : Text}
    {tree : Value} (read : load storage working input source = (.ok tree, rest)) :
    tree.AllShort := by
  have result := congrArg Prod.fst read
  rw [load] at result
  dsimp only at result
  cases taken : (sourceBytes storage working input source).1 with
  | error trouble =>
      rw [taken] at result
      cases result
  | ok content =>
      rw [taken] at result
      exact treeOf_short result

/-- The session once a tree has been shown. -/
def shown (origin : Origin) (arguments : Arguments) (session : Session) (tree : Value) : Session :=
  session.logAll origin (Inspection.inspect .asAsked tree arguments.checked {}).2

/-- All sources give trees. Each is read from the files and the input as the ones
before it left them. -/
inductive Loaded (working : Path) (origin : Origin) (arguments : Arguments) :
    Session → Input → List Text → List Value → Session → Input → Prop where
  | nil (session : Session) (input : Input) : Loaded working origin arguments session input [] []
      session input
  | cons {session last : Session} {input rest left : Input} {source : Text}
      {sources : List Text} {tree : Value} {trees : List Value}
      (read : load session.storage working input source = (.ok tree, rest))
      (others : Loaded working origin arguments (shown origin arguments session tree) rest sources
        trees last left) :
      Loaded working origin arguments session input (source :: sources) (tree :: trees) last left

variable {working : Path} {origin : Origin} {arguments : Arguments} {session last : Session}
  {input left : Input} {sources : List Text} {trees : List Value}

theorem reports_cons (session : Session) (input : Input) (source : Text) (rest : List Text) :
    reports working origin arguments.checked session input (source :: rest) =
      match load session.storage working input source with
      | (.error trouble, _) => (.error trouble, session)
      | (.ok tree, left) =>
          let (others, last) :=
            reports working origin arguments.checked (shown origin arguments session tree) left rest
          (others.map (Report.text arguments.display tree :: ·), last) := by
  have short : ∀ tree, (load session.storage working input source).1 = .ok tree →
      tree.AllShort := fun tree found => load_short (Prod.ext found rfl)
  revert short
  rw [reports, load]
  cases sourceBytes session.storage working input source with
  | mk read left =>
      dsimp only
      cases given : read.bind (treeOf source) with
      | error trouble => exact fun _ => rfl
      | ok tree =>
          intro short
          dsimp only
          rw [shown, inspect_checked, Report.render_short _ (short tree rfl)]

theorem reports_loaded
    (loaded : Loaded working origin arguments session input sources trees last left) :
    reports working origin arguments.checked session input sources =
      (.ok (trees.map (Report.text arguments.display)), last) := by
  induction loaded with
  | nil => rfl
  | cons read others ih =>
      rw [reports_cons, read]
      simp only [ih, List.map_cons]
      rfl

theorem reports_stopped {source : Text} {trouble : Trouble} {rest : Input}
    (loaded : Loaded working origin arguments session input sources trees last left)
    (failed : load last.storage working left source = (.error trouble, rest)) (later : List Text) :
    reports working origin arguments.checked session input (sources ++ source :: later) =
      (.error trouble, last) := by
  induction loaded with
  | nil => rw [List.nil_append, reports_cons, failed]
  | cons read others ih =>
      rw [List.cons_append, reports_cons, read]
      simp only [ih failed]
      rfl

end Loading

section Start

def begun (arguments : Arguments) (surroundings : Surroundings) :
    Session × Option Logging.Fault :=
  ({ storage := surroundings.storage } : Session).configure surroundings.working
    (configurationOf arguments) false

/-- A run begins without a configuration, so this one is carried out. -/
theorem begun_install (arguments : Arguments) (surroundings : Surroundings) :
    begun arguments surroundings =
      ({ storage := surroundings.storage } : Session).install surroundings.working
        (configurationOf arguments) := by
  simp [begun, Session.configure]

/-- The session in which the sources are read. -/
def opened (arguments : Arguments) (surroundings : Surroundings) (session : Session) : Session :=
  session.log surroundings.origin (sourcesRecord arguments.sources)

theorem runWith_eq (arguments : Arguments) (surroundings : Surroundings) :
    runWith arguments surroundings =
      match begun arguments surroundings with
      | (session, some fault) => .of session (.error (.logging fault)) [] []
      | (session, none) =>
          match reports surroundings.working surroundings.origin arguments.checked
              (opened arguments surroundings session) surroundings.input arguments.sources with
          | (.error trouble, last) => troubled surroundings.origin last trouble
          | (.ok found, last) => printed last found := by
  unfold runWith begun
  dsimp only
  generalize ({ storage := surroundings.storage } : Session).configure surroundings.working
    (configurationOf arguments) false = started
  obtain ⟨session, refused⟩ := started
  cases refused with
  | some fault => rfl
  | none =>
      dsimp only [opened, Session.logAll]
      rw [lenient_options]
      rfl

end Start

section Printing

def together (found : List Text) : Text := Text.joinWith [Text.newline, Text.newline] found

theorem printed_eq (session : Session) (found : List Text) :
    printed session found =
      match Utf8.unencodable? 0 (together found) with
      | some fault => .of session (.error (.unencodable fault)) [] []
      | none => .of session (.ok 0) (together found ++ [Text.newline]) [] := rfl

/-- Either the text of all reports has an encoding and is printed, or nothing is. -/
theorem printed_cases (session : Session) (found : List Text) :
    (together found).Encodable ∧
        printed session found = .of session (.ok 0) (together found ++ [Text.newline]) [] ∨
      ¬ (together found).Encodable ∧
        ∃ fault, printed session found = .of session (.error (.unencodable fault)) [] [] := by
  have checked := Utf8.unencodable_none_iff 0 (together found)
  rw [printed_eq]
  cases refused : Utf8.unencodable? 0 (together found) with
  | none => exact .inl ⟨checked.mp refused, rfl⟩
  | some fault =>
      refine .inr ⟨fun encodable => ?_, fault, rfl⟩
      rw [checked.mpr encodable] at refused
      contradiction

/-- The line on the error stream that ends a run over a faulty source. -/
def SourceFault.line (fault : SourceFault) : Text :=
  ("ERROR: " : Text) ++ fault.message ++ [Text.newline]

theorem troubled_faulty (origin : Origin) (session : Session) (fault : SourceFault) :
    troubled origin session (.faulty fault) =
      .of (session.log origin (record .error fault.message)) (.ok 2) [] fault.line := rfl

end Printing

section Endings

variable {arguments : Arguments} {surroundings : Surroundings} {session last : Session}
  {sources : List Text} {trees : List Value} {left : Input}

def Reads (arguments : Arguments) (surroundings : Surroundings) (session : Session)
    (sources : List Text) (trees : List Value) (last : Session) (left : Input) : Prop :=
  Loaded surroundings.working surroundings.origin arguments
    (opened arguments surroundings session) surroundings.input sources trees last left

theorem run_accepted {argv : List Text} (accepted : parse argv = .ok arguments) :
    run argv surroundings = runWith arguments surroundings := by
  rw [run, accepted]

theorem runWith_shown (ready : begun arguments surroundings = (session, none))
    (reads : Reads arguments surroundings session arguments.sources trees last left) :
    runWith arguments surroundings = printed last (trees.map (Report.text arguments.display)) := by
  rw [runWith_eq, ready]
  simp only [reports_loaded reads]

theorem runWith_stopped {earlier later : List Text} {source : Text} {trouble : Trouble}
    {rest : Input} (ready : begun arguments surroundings = (session, none))
    (split : arguments.sources = earlier ++ source :: later)
    (reads : Reads arguments surroundings session earlier trees last left)
    (failed : load last.storage surroundings.working left source = (.error trouble, rest)) :
    runWith arguments surroundings = troubled surroundings.origin last trouble := by
  rw [runWith_eq, ready, split]
  simp only [reports_stopped reads failed]

end Endings

end TreeReport.CommandLine
