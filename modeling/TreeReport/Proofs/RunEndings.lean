import TreeReport.Proofs.FloatText
import TreeReport.Proofs.LongIntegers
import TreeReport.Proofs.NativeValues
import TreeReport.Proofs.QuietRuns

/-!
How runs end on bad input. A source that cannot be read, is no text or is no document
ends a run with code two and a line on the error stream. Not foreseen, and so leaving a run
without a code, are names that cannot be looked up, of the log file or of a source, for
they hold a null or have no encoding; an integer that is too long to be read; and a report
that has no encoding. That an integer is too long to be written never ends a run.
-/
namespace TreeReport.CommandLine

open Logging (Session)

section Start

variable {arguments : Arguments} {surroundings : Surroundings}

end Start

section Crashes

variable {arguments : Arguments} {surroundings : Surroundings}

theorem Loaded.source {working : Path} {origin : Logging.Origin}
    {session last : Session} {input left : Input} {sources : List Text} {trees : List Value}
    (loaded : Loaded working origin arguments session input sources trees last left) :
    ∀ tree ∈ trees, ∃ source ∈ sources, ∃ storage input rest,
      load storage working input source = (.ok tree, rest) := by
  induction loaded with
  | nil => simp
  | cons read others ih =>
      intro tree member
      rcases List.mem_cons.mp member with rfl | later
      · exact ⟨_, by simp, _, _, _, read⟩
      · obtain ⟨source, inside, found⟩ := ih tree later
        exact ⟨source, List.mem_cons_of_mem _ inside, found⟩

end Crashes

section Endings

variable {arguments : Arguments} {surroundings : Surroundings}

def Readable (arguments : Arguments) (surroundings : Surroundings) : Prop :=
  ∃ session trees last left, begun arguments surroundings = (session, none) ∧
    Reads arguments surroundings session arguments.sources trees last left

end Endings

section Long

end Long

end TreeReport.CommandLine
