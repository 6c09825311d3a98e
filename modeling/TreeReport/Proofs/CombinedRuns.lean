import TreeReport.Proofs.QuietRuns

/-!
A run over several sources and the runs over each of them. Either all of these print a
report, and the whole run prints the reports one below the other, or the first that
does not print one decides how the whole run ends. The two then differ in what they said
before, and that shows with the debug option alone.
-/
namespace TreeReport.CommandLine

open Logging (Session)

section Single

variable {arguments : Arguments} {surroundings : Surroundings} {source : Text}

def Arguments.only (arguments : Arguments) (source : Text) : Arguments :=
  { arguments with files := [source] }

theorem only_absent (absent : arguments.logTarget = .absent) (source : Text) :
    (arguments.only source).logTarget = .absent := absent

def singly (arguments : Arguments) (storage : Storage) (source : Text) (trees : List Value) :
    Session :=
  consoleOnly arguments storage (progress (arguments.only source) trees)

theorem only_give {tree : Value} (absent : arguments.logTarget = .absent)
    (given : treeIn surroundings source = .ok tree) :
    runWith (arguments.only source) surroundings =
      printed (singly arguments surroundings.storage source [tree])
        [Report.text arguments.display tree] := by
  have give : Give surroundings (arguments.only source).sources [tree] := .cons given .nil
  exact runWith_give (only_absent absent source) (single_once rfl) give

theorem only_first {trouble : Trouble} (absent : arguments.logTarget = .absent)
    (failed : treeIn surroundings source = .error trouble) :
    runWith (arguments.only source) surroundings =
      troubled surroundings.origin (singly arguments surroundings.storage source []) trouble := by
  have split : (arguments.only source).sources = [] ++ source :: [] := rfl
  exact runWith_first (only_absent absent source) (single_once rfl) split .nil failed

theorem only_reported (absent : arguments.logTarget = .absent)
    (reported : (runWith (arguments.only source) surroundings).ending = .ok 0) :
    ∃ tree, treeIn surroundings source = .ok tree ∧
      (Report.text arguments.display tree).Encodable ∧
      (runWith (arguments.only source) surroundings).stdout =
        Report.text arguments.display tree ++ [Text.newline] := by
  cases given : treeIn surroundings source with
  | ok tree =>
      rw [only_give absent given] at reported ⊢
      rcases printed_cases (singly arguments surroundings.storage source [tree])
          [Report.text arguments.display tree] with
        ⟨encodable, shown⟩ | ⟨-, fault, crashed⟩
      · exact ⟨tree, rfl, encodable, by rw [shown]; rfl⟩
      · rw [crashed] at reported
        cases reported
  | error trouble =>
      rw [only_first absent given] at reported
      cases trouble <;> cases reported

theorem only_refused (absent : arguments.logTarget = .absent)
    (refused : (runWith (arguments.only source) surroundings).ending = .ok 2) :
    ∃ fault, treeIn surroundings source = .error (.faulty fault) := by
  cases given : treeIn surroundings source with
  | ok tree =>
      rw [only_give absent given] at refused
      rcases printed_cases (singly arguments surroundings.storage source [tree])
          [Report.text arguments.display tree] with
        ⟨-, shown⟩ | ⟨-, fault, crashed⟩
      · rw [shown] at refused
        cases refused
      · rw [crashed] at refused
        cases refused
  | error trouble =>
      rw [only_first absent given] at refused
      cases trouble with
      | faulty fault => exact ⟨fault, rfl⟩
      | interrupted => cases refused
      | crash crash => cases refused

end Single

section Several

variable {arguments : Arguments} {surroundings : Surroundings}

def reportIn (surroundings : Surroundings) (display : Report.Display) (source : Text) : Text :=
  match treeIn surroundings source with
  | .ok tree => Report.text display tree
  | .error _ => []

theorem give_all {sources : List Text}
    (all : ∀ source ∈ sources, ∃ tree, treeIn surroundings source = .ok tree)
    (display : Report.Display) :
    ∃ trees, Give surroundings sources trees ∧
      trees.map (Report.text display) = sources.map (reportIn surroundings display) := by
  induction sources with
  | nil => exact ⟨[], .nil, rfl⟩
  | cons source rest ih =>
      obtain ⟨tree, given⟩ := all source (by simp)
      obtain ⟨trees, give, same⟩ := ih fun other member => all other (List.mem_cons_of_mem _ member)
      refine ⟨tree :: trees, .cons given give, ?_⟩
      rw [List.map_cons, List.map_cons, same, reportIn, given]

theorem sources_of_files (some : arguments.files ≠ []) : arguments.sources = arguments.files := by
  simp [Arguments.sources, some]

/-- Reports that can be printed one by one can be printed together. -/
theorem runWith_reported (absent : arguments.logTarget = .absent) (some : arguments.files ≠ [])
    (once : arguments.files.count stdinMarker ≤ 1)
    (reported : ∀ source ∈ arguments.files,
      (runWith (arguments.only source) surroundings).ending = .ok 0) :
    let outcome := runWith arguments surroundings
    outcome.ending = .ok 0 ∧ outcome.stderr = [] ∧
      outcome.stdout = together (arguments.files.map
        (reportIn surroundings arguments.display)) ++ [Text.newline] ∧
      ∀ source ∈ arguments.files, (runWith (arguments.only source) surroundings).stdout =
        reportIn surroundings arguments.display source ++ [Text.newline] := by
  have parts : ∀ source ∈ arguments.files,
      (∃ tree, treeIn surroundings source = .ok tree) ∧
        (reportIn surroundings arguments.display source).Encodable ∧
        (runWith (arguments.only source) surroundings).stdout =
          reportIn surroundings arguments.display source ++ [Text.newline] := by
    intro source inside
    obtain ⟨tree, given, encodable, shown⟩ := only_reported absent (reported source inside)
    have report : reportIn surroundings arguments.display source =
        Report.text arguments.display tree := by
      rw [reportIn, given]
    rw [report]
    exact ⟨⟨tree, given⟩, encodable, shown⟩
  obtain ⟨trees, give, same⟩ :=
    give_all (fun source inside => (parts source inside).1) arguments.display
  rw [← sources_of_files some] at once give
  have outcome := runWith_give absent once give
  have encodable : (together (trees.map (Report.text arguments.display))).Encodable := by
    rw [same]
    apply Text.encodable_joinWith (by decide)
    intro report listed
    obtain ⟨source, inside, rfl⟩ := List.mem_map.mp listed
    exact (parts source inside).2.1
  rw [printed_console encodable, same] at outcome
  rw [outcome]
  exact ⟨rfl, rfl, rfl, fun source inside => (parts source inside).2.2⟩

/-- What stands behind the first faulty source does not matter. -/
theorem runWith_refused {earlier later : List Text} {source : Text}
    (absent : arguments.logTarget = .absent) (once : arguments.files.count stdinMarker ≤ 1)
    (split : arguments.files = earlier ++ source :: later)
    (reported : ∀ other ∈ earlier,
      (runWith (arguments.only other) surroundings).ending = .ok 0)
    (refused : (runWith (arguments.only source) surroundings).ending = .ok 2) :
    ∃ (fault : SourceFault) (trees : List Value), trees.length = earlier.length ∧
      runWith arguments surroundings =
        ⟨.ok 2, [], fault.line, diagnostics arguments
          (progress arguments trees ++ [record .error fault.message]), surroundings.storage⟩ ∧
      runWith (arguments.only source) surroundings =
        ⟨.ok 2, [], fault.line, diagnostics arguments
          (progress (arguments.only source) [] ++ [record .error fault.message]),
          surroundings.storage⟩ := by
  have given : ∀ other ∈ earlier, ∃ tree, treeIn surroundings other = .ok tree := by
    intro other inside
    obtain ⟨tree, gives, -⟩ := only_reported absent (reported other inside)
    exact ⟨tree, gives⟩
  obtain ⟨fault, failed⟩ := only_refused absent refused
  obtain ⟨trees, give, -⟩ := give_all given arguments.display
  have some : arguments.files ≠ [] := by simp [split]
  rw [← sources_of_files some] at once split
  refine ⟨fault, trees, give.length_eq.symm, ?_, ?_⟩
  · rw [runWith_first absent once split give failed, troubled_console]
  · rw [only_first absent failed, singly, troubled_console]

end Several

section Streams

variable {first second whole : Text}

theorem Interleaved.length (interleaved : Interleaved first second whole) :
    whole.length = first.length + second.length := by
  induction interleaved with
  | nil => rfl
  | left symbol rest ih | right symbol rest ih => simp [ih, Nat.add_assoc, Nat.add_comm 1]

theorem Interleaved.append (first second : Text) : Interleaved first second (first ++ second) := by
  induction first with
  | nil =>
      induction second with
      | nil => exact .nil
      | cons symbol rest ih => exact .right symbol ih
  | cons symbol rest ih => exact .left symbol ih

end Streams

section First

theorem exists_first {good : Text → Prop} {sources : List Text}
    (failing : ¬ ∀ source ∈ sources, good source) :
    ∃ earlier source later, sources = earlier ++ source :: later ∧
      (∀ other ∈ earlier, good other) ∧ ¬ good source := by
  induction sources with
  | nil => simp at failing
  | cons source rest ih =>
      by_cases here : good source
      · have behind : ¬ ∀ other ∈ rest, good other := by
          intro all
          apply failing
          rintro other (_ | ⟨_, later⟩)
          · exact here
          · exact all other later
        obtain ⟨earlier, first, later, split, before, bad⟩ := ih behind
        refine ⟨source :: earlier, first, later, by rw [split]; rfl, ?_, bad⟩
        rintro other (_ | ⟨_, inside⟩)
        · exact here
        · exact before other inside
      · exact ⟨[], source, rest, rfl, by simp, here⟩

end First

/-- A run over several sources, each named once more in a run of its own with the same
settings. If every single run prints a report, the whole run prints these reports with
an empty line between them. Otherwise the first single run that fails decides: the whole
run prints nothing and writes the error that this run writes. Before it stand the
diagnostics, of which the error itself is always the last. Without the debug option it is
the only one, so that the two runs agree in everything. -/
theorem combined_run_is_single_runs {argv : List Text} {arguments : Arguments}
    {single : Text → List Text} {surroundings : Surroundings}
    (accepted : parse argv = .ok arguments) (absent : arguments.logTarget = .absent)
    (some : arguments.files ≠ []) (once : arguments.files.count stdinMarker ≤ 1)
    (alone : ∀ source ∈ arguments.files,
      parse (single source) = .ok { arguments with files := [source] })
    (ended : ∀ source ∈ arguments.files,
      (run (single source) surroundings).ending = .ok 0 ∨
        (run (single source) surroundings).ending = .ok 2) :
    let whole := run argv surroundings
    let part := fun source => run (single source) surroundings
    ((∀ source ∈ arguments.files, (part source).ending = .ok 0) →
      whole.ending = .ok 0 ∧ whole.stderr = [] ∧
        ∃ report : Text → Text,
          (∀ source ∈ arguments.files, (part source).stdout = report source ++ [Text.newline]) ∧
          whole.stdout = Text.joinWith [Text.newline, Text.newline] (arguments.files.map report) ++
            [Text.newline]) ∧
      ((¬ ∀ source ∈ arguments.files, (part source).ending = .ok 0) →
        ∃ earlier source later, arguments.files = earlier ++ source :: later ∧
          (∀ other ∈ earlier, (part other).ending = .ok 0) ∧ (part source).ending = .ok 2 ∧
          whole.ending = .ok 2 ∧ whole.stdout = [] ∧ whole.stderr = (part source).stderr ∧
          (∃ (fault : SourceFault) (trees : List Value), trees.length = earlier.length ∧
            (part source).stderr = ("ERROR: " : Text) ++ fault.message ++ [Text.newline] ∧
            whole.console = diagnostics arguments
              (sourcesRecord arguments.files :: announcements arguments trees ++
                [record .error fault.message]) ∧
            (part source).console = diagnostics arguments
              [sourcesRecord [source], record .error fault.message]) ∧
          (arguments.debug = false →
            whole = part source ∧
              ∀ stream, whole.MayRead stream ↔ (part source).MayRead stream)) := by
  have parts : ∀ source ∈ arguments.files,
      run (single source) surroundings = runWith (arguments.only source) surroundings :=
    fun source inside => run_accepted (alone source inside)
  intro whole part
  constructor
  · intro all
    have reported : ∀ source ∈ arguments.files,
        (runWith (arguments.only source) surroundings).ending = .ok 0 := by
      intro source inside
      rw [← parts source inside]
      exact all source inside
    obtain ⟨ending, stderr, stdout, each⟩ := runWith_reported absent some once reported
    rw [← run_accepted accepted] at ending stderr stdout
    refine ⟨ending, stderr, reportIn surroundings arguments.display, ?_, stdout⟩
    intro source inside
    rw [← each source inside, ← parts source inside]
  · intro failing
    obtain ⟨earlier, source, later, split, good, bad⟩ := exists_first failing
    have inside : source ∈ arguments.files := by simp [split]
    have refused : (part source).ending = .ok 2 := (ended source inside).resolve_left bad
    have here : part source = runWith (arguments.only source) surroundings := parts source inside
    have reported : ∀ other ∈ earlier,
        (runWith (arguments.only other) surroundings).ending = .ok 0 := by
      intro other member
      rw [← parts other (by simp [split, member])]
      exact good other member
    have last := refused
    rw [here] at last
    obtain ⟨fault, trees, many, together, single⟩ :=
      runWith_refused absent once split reported last
    have outcome : whole = _ := (run_accepted accepted).trans together
    rw [← here] at single
    refine ⟨earlier, source, later, split, good, refused, ?_, ?_, ?_, ⟨fault, trees, many, ?_⟩, ?_⟩
    · rw [outcome]
    · rw [outcome]
    · rw [outcome, single]
    · rw [outcome, single]
      refine ⟨rfl, ?_, rfl⟩
      rw [progress, sources_of_files some]
    · intro silent
      have same : whole = part source := by
        rw [outcome, single, diagnostics_silent silent (progress_debug arguments trees),
          diagnostics_silent silent (progress_debug (arguments.only source) [])]
      exact ⟨same, fun stream => by rw [same]⟩

theorem combined_run_is_single_runs_of_three :
    let surroundings : Surroundings :=
      ⟨[(["a"], .file (Utf8.encode "[1]"))], [], .bytes (Utf8.encode "\"x\""),
        ⟨⟨0⟩, ⟨0⟩, [], 0, [], 0, 0, fun _ _ => []⟩⟩
    let whole := run ["--color", "a", "-"] surroundings
    let failed := run ["--color", "a", "b", "-"] surroundings
    (whole.ending = .ok 0 ∧ ∃ report : Text → Text,
        (run ["--color", "a"] surroundings).stdout = report "a" ++ [Text.newline] ∧
        (run ["--color", "-"] surroundings).stdout = report "-" ++ [Text.newline] ∧
        whole.stdout = report "a" ++ [Text.newline, Text.newline] ++ report "-" ++
          [Text.newline]) ∧
      failed.ending = .ok 2 ∧ failed.stdout = [] ∧
        ∃ source ∈ (["a", "b", "-"] : List Text),
          failed = run ["--color", source] surroundings := by
  intro surroundings whole failed
  constructor
  · have accepted : parse ["--color", "a", "-"] =
        .ok { files := ["a", "-"], colors := some true } := by decide +kernel
    have alone : ∀ source ∈ (["a", "-"] : List Text), parse ["--color", source] =
        .ok { files := [source], colors := some true } := by decide +kernel
    have ended : ∀ source ∈ (["a", "-"] : List Text),
        (run ["--color", source] surroundings).ending = .ok 0 ∨
          (run ["--color", source] surroundings).ending = .ok 2 := by decide +kernel
    have all : ∀ source ∈ (["a", "-"] : List Text),
        (run ["--color", source] surroundings).ending = .ok 0 := by decide +kernel
    obtain ⟨together, -⟩ :=
      combined_run_is_single_runs accepted rfl (by decide) (by decide) alone ended
    obtain ⟨ending, -, report, each, stdout⟩ := together all
    exact ⟨ending, report, each "a" (by simp), each "-" (by simp), stdout⟩
  · have accepted : parse ["--color", "a", "b", "-"] =
        .ok { files := ["a", "b", "-"], colors := some true } := by decide +kernel
    have alone : ∀ source ∈ (["a", "b", "-"] : List Text), parse ["--color", source] =
        .ok { files := [source], colors := some true } := by decide +kernel
    have ended : ∀ source ∈ (["a", "b", "-"] : List Text),
        (run ["--color", source] surroundings).ending = .ok 0 ∨
          (run ["--color", source] surroundings).ending = .ok 2 := by decide +kernel
    have missing : ¬ ∀ source ∈ (["a", "b", "-"] : List Text),
        (run ["--color", source] surroundings).ending = .ok 0 := by decide +kernel
    obtain ⟨-, first⟩ :=
      combined_run_is_single_runs accepted rfl (by decide) (by decide) alone ended
    obtain ⟨earlier, source, later, split, -, -, ending, stdout, -, -, plain⟩ := first missing
    have inside : source ∈ (["a", "b", "-"] : List Text) := by
      change (["a", "b", "-"] : List Text) = earlier ++ source :: later at split
      simp [split]
    exact ⟨ending, stdout, source, inside, (plain rfl).1⟩

/-- With the debug option the error stream of a run over two sources holds more than the
error text of the run over the first of them, and more than the whole error stream of that
run, even where both end with the same error. -/
theorem debug_lines_tell_combined_run :
    let surroundings : Surroundings :=
      ⟨[], [], .bytes [], ⟨⟨0⟩, ⟨0⟩, [], 0, [], 0, 0, fun _ _ => []⟩⟩
    let whole := run ["--debug", "a", "b"] surroundings
    let part := fun source => run ["--debug", source] surroundings
    (∀ source ∈ (["a", "b"] : List Text), (part source).ending = .ok 2) ∧
      whole.ending = .ok 2 ∧ whole.stderr = (part "a").stderr ∧
      (∃ stream, whole.MayRead stream) ∧
      ∀ stream, whole.MayRead stream →
        stream ≠ (part "a").stderr ∧ ¬ (part "a").MayRead stream := by
  intro surroundings whole part
  have ended : ∀ source ∈ (["a", "b"] : List Text), (part source).ending = .ok 2 := by
    decide +kernel
  have refused : whole.ending = .ok 2 := by decide +kernel
  have stderr : whole.stderr = (part "a").stderr := by decide +kernel
  have longer : (part "a").console.length < whole.console.length := by decide +kernel
  refine ⟨ended, refused, stderr, ⟨_, Interleaved.append _ _⟩, fun stream together => ?_⟩
  have long := together.length
  rw [stderr] at long
  constructor
  · intro same
    rw [same] at long
    omega
  · intro single
    have short := single.length
    omega

end TreeReport.CommandLine
