import Mathlib.Data.List.Forall2
import TreeReport.Proofs.RecordText
import TreeReport.Proofs.SourceRuns

/-!
Runs without a log file. Their diagnostics go to the console alone, each record in a line
of its own, so the files stay as they are and the error stream holds nothing but what ends
the run. What a source gives does not depend on the sources before it, as long as the
standard input is asked for once at most.
-/
namespace TreeReport

namespace Logging.Session

theorem log_below {session : Session} {record : Record}
    (below : session.rootLevel.admits record.level = false) (origin : Origin) :
    session.log origin record = session := by
  simp [log, passes, below]

end Logging.Session

namespace CommandLine

open Logging (Session Origin Record)

section Start

def levelOf (arguments : Arguments) : Logging.Level :=
  if arguments.debug then .debug else .warning

theorem level_configurationOf (arguments : Arguments) :
    Logging.Configuration.levelOf (configurationOf arguments).level =
      .ok (levelOf arguments) := by
  have levels : Logging.Configuration.levelOf (.str "DEBUG") = .ok .debug ∧
      Logging.Configuration.levelOf (.str "WARNING") = .ok .warning := by
    constructor <;> rfl
  simp only [configurationOf, levelOf]
  split
  · exact levels.1
  · exact levels.2

theorem format_configurationOf (arguments : Arguments) :
    Logging.Configuration.formatOf (configurationOf arguments).consoleFormat =
      .ok "%(levelname)s | %(message)s" := by
  have valid : Logging.Format.isValid "%(levelname)s | %(message)s" = true := by decide +kernel
  simp only [configurationOf, Logging.Configuration.formatOf, valid, if_true]
  rfl

def diagnostic (record : Record) : Text :=
  record.level.name ++ (" | " : Text) ++ record.message ++ [Text.newline]

def diagnostics (arguments : Arguments) (records : List Record) : Text :=
  (records.filter fun record => (levelOf arguments).admits record.level).flatMap diagnostic

def consoleOnly (arguments : Arguments) (storage : Storage) (records : List Record) : Session where
  rootLevel := levelOf arguments
  attached := [.queue]
  configured := true
  listener := some [⟨levelOf arguments, "%(levelname)s | %(message)s", .null, .console⟩]
  console := diagnostics arguments records
  storage := storage

theorem begun_console {arguments : Arguments} (absent : arguments.logTarget = .absent)
    (surroundings : Surroundings) :
    begun arguments surroundings = (consoleOnly arguments surroundings.storage [], none) := by
  have file : (configurationOf arguments).logFile.truth = false := by
    rw [configurationOf, absent]
    rfl
  have console : (configurationOf arguments).console.truth = true := rfl
  rw [begun_install, Session.install_eq (level_configurationOf arguments)]
  simp only [Session.consoleHandlers, console, format_configurationOf, Session.fileHandlers, file,
    Except.map]
  rfl

open Logging.Format in
theorem recordText?_console (record : Record) (origin : Origin) :
    recordText? "%(levelname)s | %(message)s" .null record origin =
      some (record.level.name ++ (" | " : Text) ++ record.message) := by
  have known : ∀ piece ∈ [Piece.field "levelname", .literal " | ", .field "message"],
      piece.isKnown = true := by decide
  have timely : timeText? .null origin.created = some origin.created.fullText := rfl
  have filled := recordText?_plain known timely record
  rw [show plain _ = ("%(levelname)s | %(message)s" : Text) by decide] at filled
  have name : (parts record origin (some origin.created.fullText)).get? "levelname" =
      some (.str record.level.name) := rfl
  have message : (parts record origin (some origin.created.fullText)).get? "message" =
      some (.str record.message) := rfl
  rw [filled]
  simp [Piece.shown, name, message, Value.plain]

variable {record : Record}

theorem log_consoleOnly (level : record.level = .debug ∨ record.level = .error)
    (arguments : Arguments) (storage : Storage) (records : List Record) (origin : Origin) :
    (consoleOnly arguments storage records).log origin record =
      consoleOnly arguments storage (records ++ [record]) := by
  have regular : 0 < record.level.rank ∧ record.level.Nameable := by
    rcases level with debug | error
    · rw [debug]
      decide
    · rw [error]
      decide
  cases admitted : (levelOf arguments).admits record.level with
  | false =>
      rw [Session.log_below admitted]
      simp [consoleOnly, diagnostics, admitted]
  | true =>
      simp [Session.log, Session.passes, Session.write, Logging.Handler.handle, consoleOnly,
        diagnostics, diagnostic, recordText?_console, regular.1, regular.2, admitted]

theorem diagnostics_silent {arguments : Arguments} (silent : arguments.debug = false)
    {records : List Record} (debug : ∀ record ∈ records, record.level = .debug)
    (more : List Record) :
    diagnostics arguments (records ++ more) = diagnostics arguments more := by
  have none : records.filter (fun record => (levelOf arguments).admits record.level) = [] := by
    rw [List.filter_eq_nil_iff]
    intro record member
    rw [debug record member, levelOf, silent]
    decide
  rw [diagnostics, List.filter_append, none, List.nil_append, diagnostics]

end Start

section Sources

variable {surroundings : Surroundings} {session last : Session} {input left : Input}
  {sources : List Text} {trees : List Value}

def treeIn (surroundings : Surroundings) (source : Text) : Except Trouble Value :=
  (load surroundings.storage surroundings.working surroundings.input source).1

/-- The sources give these trees, each by itself. -/
abbrev Give (surroundings : Surroundings) (sources : List Text) (trees : List Value) : Prop :=
  List.Forall₂ (fun source tree => treeIn surroundings source = .ok tree) sources trees

theorem load_file {source : Text} (file : source ≠ stdinMarker) (storage : Storage)
    (working : Path) (input other : Input) :
    load storage working input source = ((load storage working other source).1, input) := by
  simp only [load, sourceBytes, if_neg file]
  split
  · rfl
  · split <;> rfl

theorem load_unread {source : Text} (unread : source = stdinMarker → input = surroundings.input) :
    ∃ rest, load surroundings.storage surroundings.working input source =
      (treeIn surroundings source, rest) := by
  by_cases standard : source = stdinMarker
  · rw [unread standard]
    exact ⟨_, rfl⟩
  · exact ⟨input, load_file standard _ _ _ _⟩

/-- The records that announce trees. -/
def announcements (arguments : Arguments) (trees : List Value) : List Record :=
  trees.map fun tree => Inspection.announced tree
    ⟨.bool arguments.showPositions, .bool (arguments.colors.getD false)⟩

theorem announcements_debug (arguments : Arguments) (trees : List Value) :
    ∀ record ∈ announcements arguments trees, record.level = .debug := by
  intro record member
  obtain ⟨tree, -, rfl⟩ := List.mem_map.mp member
  rfl

theorem shown_consoleOnly (arguments : Arguments) (storage : Storage) (records : List Record)
    (origin : Origin) (tree : Value) :
    shown origin arguments (consoleOnly arguments storage records) tree =
      consoleOnly arguments storage (records ++ announcements arguments [tree]) := by
  rw [shown, inspect_checked]
  exact log_consoleOnly (.inl rfl) arguments storage records origin

theorem Give.loaded (give : Give surroundings sources trees) (arguments : Arguments)
    (once : sources.count stdinMarker ≤ 1) (records : List Record)
    (unread : stdinMarker ∈ sources → input = surroundings.input) :
    ∃ left, Loaded surroundings.working surroundings.origin arguments
        (consoleOnly arguments surroundings.storage records) input sources trees
        (consoleOnly arguments surroundings.storage (records ++ announcements arguments trees))
        left ∧
      (stdinMarker ∉ sources → left = input) := by
  induction give generalizing input records with
  | nil =>
      rw [announcements, List.map_nil, List.append_nil]
      exact ⟨input, .nil _ input, fun _ => rfl⟩
  | @cons source tree sources trees gives others ih =>
      have whole : records ++ announcements arguments (tree :: trees) =
          (records ++ announcements arguments [tree]) ++ announcements arguments trees := by
        simp [announcements]
      cases read : load surroundings.storage surroundings.working surroundings.input source with
      | mk result rest =>
          rw [treeIn, read] at gives
          cases gives
          rw [whole]
          by_cases standard : source = stdinMarker
          · -- The standard input is read here, so it is not asked for again.
            have fresh : stdinMarker ∉ sources := by
              rw [standard, List.count_cons_self] at once
              exact List.count_eq_zero.mp (by omega)
            have later : stdinMarker ∈ sources → rest = surroundings.input :=
              fun member => absurd member fresh
            have none : sources.count stdinMarker ≤ 1 := by
              rw [List.count_eq_zero.mpr fresh]
              exact Nat.zero_le 1
            obtain ⟨left, loaded, -⟩ := ih none _ later
            rw [← shown_consoleOnly arguments surroundings.storage records surroundings.origin tree]
              at loaded
            refine ⟨left, .cons ?_ loaded, ?_⟩
            · rw [unread (by simp [standard])]
              exact read
            · simp [standard]
          · have later : stdinMarker ∈ sources → input = surroundings.input :=
              fun member => unread (List.mem_cons_of_mem source member)
            rw [List.count_cons_of_ne standard] at once
            obtain ⟨left, loaded, kept⟩ := ih once _ later
            rw [← shown_consoleOnly arguments surroundings.storage records surroundings.origin tree]
              at loaded
            refine ⟨left, .cons ?_ loaded, ?_⟩
            · rw [load_file standard _ _ _ surroundings.input]
              exact congrArg (·.1, input) read
            · exact fun absent => kept fun member => absent (List.mem_cons_of_mem source member)

end Sources

section Single

/-- The one source, the standard input or a file, holds these bytes. -/
def Holds (surroundings : Surroundings) (files : List Text) (content : List UInt8) : Prop :=
  (files = [] ∨ files = [stdinMarker]) ∧ surroundings.input = .bytes content ∨
    ∃ name, files = [name] ∧ name ≠ stdinMarker ∧ Storage.badPath? name = none ∧
      surroundings.storage.read surroundings.working name = .ok content

variable {arguments : Arguments} {surroundings : Surroundings} {content : List UInt8}

theorem treeIn_input (input : surroundings.input = .bytes content) :
    treeIn surroundings stdinMarker = treeOf stdinMarker content := by
  simp [treeIn, load, sourceBytes, input]
  rfl

theorem treeIn_file {name : Text} (file : name ≠ stdinMarker) (clean : Storage.badPath? name = none)
    (found : surroundings.storage.read surroundings.working name = .ok content) :
    treeIn surroundings name = treeOf name content := by
  simp [treeIn, load, sourceBytes, file, clean, found]
  rfl

theorem treeIn_held (held : Holds surroundings arguments.files content) :
    ∃ source, arguments.sources = [source] ∧
      treeIn surroundings source = treeOf source content := by
  rcases held with ⟨none | standard, input⟩ | ⟨name, single, file, clean, found⟩
  · exact ⟨stdinMarker, by simp [Arguments.sources, none], treeIn_input input⟩
  · exact ⟨stdinMarker, by simp [Arguments.sources, standard], treeIn_input input⟩
  · exact ⟨name, by simp [Arguments.sources, single], treeIn_file file clean found⟩

theorem single_once {source : Text} (single : arguments.sources = [source]) :
    arguments.sources.count stdinMarker ≤ 1 := by
  rw [single]
  exact List.count_le_length

end Single

section Endings

variable {arguments : Arguments} {storage : Storage} {records : List Record}

theorem printed_console {found : List Text} (encodable : (together found).Encodable) :
    printed (consoleOnly arguments storage records) found =
      ⟨.ok 0, together found ++ [Text.newline], [], diagnostics arguments records, storage⟩ := by
  rcases printed_cases (consoleOnly arguments storage records) found with
    ⟨-, shown⟩ | ⟨unencodable, -⟩
  · exact shown
  · exact absurd encodable unencodable

theorem troubled_console (origin : Origin) (fault : SourceFault) :
    troubled origin (consoleOnly arguments storage records) (.faulty fault) =
      ⟨.ok 2, [], fault.line,
        diagnostics arguments (records ++ [record .error fault.message]), storage⟩ := by
  rw [troubled_faulty, log_consoleOnly (.inr rfl)]
  rfl

end Endings

section Runs

variable {arguments : Arguments} {surroundings : Surroundings}

def progress (arguments : Arguments) (trees : List Value) : List Record :=
  sourcesRecord arguments.sources :: announcements arguments trees

theorem progress_debug (arguments : Arguments) (trees : List Value) :
    ∀ record ∈ progress arguments trees, record.level = .debug := by
  intro record member
  rcases List.mem_cons.mp member with rfl | later
  · rfl
  · exact announcements_debug arguments trees record later

theorem opened_console (arguments : Arguments) (surroundings : Surroundings) :
    opened arguments surroundings (consoleOnly arguments surroundings.storage []) =
      consoleOnly arguments surroundings.storage [sourcesRecord arguments.sources] :=
  log_consoleOnly (.inl rfl) arguments surroundings.storage [] surroundings.origin

/-- Sources that each give a tree are shown together. -/
theorem runWith_give {trees : List Value} (absent : arguments.logTarget = .absent)
    (once : arguments.sources.count stdinMarker ≤ 1)
    (give : Give surroundings arguments.sources trees) :
    runWith arguments surroundings =
      printed (consoleOnly arguments surroundings.storage (progress arguments trees))
        (trees.map (Report.text arguments.display)) := by
  obtain ⟨left, loaded, -⟩ :=
    give.loaded arguments once [sourcesRecord arguments.sources] fun _ => rfl
  rw [← opened_console] at loaded
  exact runWith_shown (begun_console absent surroundings) loaded

/-- The first source that gives no tree alone decides how the run ends. -/
theorem runWith_first {earlier later : List Text} {source : Text} {trees : List Value}
    {trouble : Trouble} (absent : arguments.logTarget = .absent)
    (once : arguments.sources.count stdinMarker ≤ 1)
    (split : arguments.sources = earlier ++ source :: later)
    (give : Give surroundings earlier trees)
    (failed : treeIn surroundings source = .error trouble) :
    runWith arguments surroundings =
      troubled surroundings.origin
        (consoleOnly arguments surroundings.storage (progress arguments trees)) trouble := by
  have parts := once
  rw [split, List.count_append] at parts
  have few : earlier.count stdinMarker ≤ 1 := by omega
  obtain ⟨left, loaded, kept⟩ :=
    give.loaded arguments few [sourcesRecord arguments.sources] fun _ => rfl
  have unread : source = stdinMarker → left = surroundings.input := by
    intro standard
    apply kept
    rw [standard, List.count_cons_self] at parts
    exact List.count_eq_zero.mp (by omega)
  obtain ⟨rest, read⟩ := load_unread unread
  rw [failed] at read
  rw [← opened_console] at loaded
  exact runWith_stopped (begun_console absent surroundings) split loaded read

end Runs

end CommandLine
end TreeReport
