import TreeReport.Proofs.ArgumentWords
import TreeReport.Proofs.NativeValues
import TreeReport.Proofs.QuietRuns

/-!
The command line and the entry point. A run over the compact text of a native value
prints the report that the entry point gives for the value itself, with the settings
that the switches stand for.
-/
namespace TreeReport.CommandLine

section Showing

theorem inspect_overrides (showPositions : Bool) (colors : Option Bool) (value : Value) :
    (Inspection.inspect .asAsked value .null
        ⟨.bool showPositions, (colors.map .bool).getD .null⟩).1 =
      Report.render ⟨showPositions, colors.getD false⟩ value := by
  have settled : Options.settle Options.default
      ⟨.bool showPositions, (colors.map .bool).getD .null⟩
        Inspection.ColorPolicy.asAsked.forced =
      ⟨.bool showPositions, .bool (colors.getD false)⟩ := by
    rcases colors with _ | _ | _ <;> rfl
  rw [Inspection.inspect_read (Options.lenient_of_ok rfl), settled,
    if_pos (by simp [Value.spelled])]
  rfl

theorem runWith_native {arguments : Arguments} {surroundings : Surroundings} {value : Value}
    (native : value.Native) (absent : arguments.logTarget = .absent)
    (held : Holds surroundings arguments.files (Utf8.encode value.compactText)) :
    let outcome := runWith arguments surroundings
    outcome.ending = .ok 0 ∧ outcome.stderr = [] ∧ outcome.stdout =
      Report.text arguments.display value ++ [Text.newline] := by
  obtain ⟨source, single, given⟩ := treeIn_held held
  rw [treeOf_compactText native] at given
  have give : Give surroundings arguments.sources [value.uniform] := by
    rw [single]
    exact .cons given .nil
  have encodable : (together [Report.text arguments.display value]).Encodable :=
    Report.encodable_text _ native.encodable
  rw [runWith_give absent (single_once single) give, List.map_singleton, Report.text_uniform,
    printed_console encodable]
  exact ⟨rfl, rfl, rfl⟩

end Showing

/-- A run with any switches over one source that holds the compact text of a native value
ends well and prints what the entry point gives for the value, on a line of its own. -/
theorem command_prints_inspection {value : Value} (native : value.Native) {flags : List Flag}
    (all : ∀ flag ∈ flags, flag ∈ switches) (apart : ¬ (.color ∈ flags ∧ .noColor ∈ flags))
    {words files : List Text} (names : Names words files) {surroundings : Surroundings}
    (held : Holds surroundings files (Utf8.encode value.compactText)) :
    let outcome := run (flags.map Flag.display ++ words) surroundings
    let overrides : Options.Overrides :=
      { showPositions := .bool !flags.contains .noPositions
        colors := if flags.contains .color then .bool true
          else if flags.contains .noColor then .bool false else .null }
    outcome.ending = .ok 0 ∧ outcome.stderr = [] ∧
      ∃ report, (Inspection.inspect .asAsked value .null overrides).1 = .ok report ∧
        outcome.stdout = report ++ [Text.newline] := by
  intro outcome overrides
  have absent : (Arguments.ofSwitches flags files).logTarget = .absent := rfl
  have source : Holds surroundings (Arguments.ofSwitches flags files).files
      (Utf8.encode value.compactText) := held
  obtain ⟨ending, stderr, stdout⟩ := runWith_native native absent source
  rw [← run_accepted (parse_switches all apart names)] at ending stderr stdout
  have shown : overrides = ⟨.bool (Arguments.ofSwitches flags files).showPositions,
      ((Arguments.ofSwitches flags files).colors.map .bool).getD .null⟩ := by
    simp only [overrides, Arguments.ofSwitches]
    split
    · rfl
    · split <;> rfl
  rw [shown, inspect_overrides]
  exact ⟨ending, stderr, _, Report.render_short _ native.integers, stdout⟩

theorem command_prints_inspection_styled :
    let value : Value := .mapping .view [(.str "type", .str "r\r"),
      (.str "é", .sequence .tuple [.int (-1), .float (.finite false 1023 0)])]
    let surroundings : Surroundings :=
      ⟨[(["f"], .file (Utf8.encode value.compactText))], [], .bytes [],
        ⟨⟨0⟩, ⟨0⟩, [], 0, [], 0, 0, fun _ _ => []⟩⟩
    let report : Text := "\x1b[1mr\r\x1b[22m\n  é: [-1,1.0]"
    (Inspection.inspect .asAsked value .null ⟨.bool false, .bool true⟩).1 = .ok report ∧
      (run ["--color", "--no-positions", "f"] surroundings).stdout = report ++ [Text.newline] := by
  intro value surroundings report
  have native : value.Native := by
    refine .mapping .view ⟨["type", "é"], rfl, by decide⟩ ?_ ?_
    · rintro entry (_ | ⟨_, _ | ⟨_, nothing⟩⟩)
      · decide
      · decide
      · contradiction
    · rintro entry (_ | ⟨_, _ | ⟨_, nothing⟩⟩)
      · exact .str (by decide)
      · apply Value.Native.sequence
        rintro item (_ | ⟨_, _ | ⟨_, nothing⟩⟩)
        · exact .int (by decide)
        · exact .float rfl
        · contradiction
      · contradiction
  have names : Names ["f"] ["f"] := by
    refine .inr ⟨rfl, ?_⟩
    rintro name (_ | ⟨_, nothing⟩)
    · rfl
    · contradiction
  have held : Holds surroundings ["f"] (Utf8.encode value.compactText) :=
    .inr ⟨"f", rfl, by decide, by decide, rfl⟩
  have known : ∀ flag ∈ [Flag.color, .noPositions], flag ∈ switches := by decide
  obtain ⟨-, -, shown, inspected, stdout⟩ :=
    command_prints_inspection native known (by decide) names held
  have same : (Inspection.inspect .asAsked value .null ⟨.bool false, .bool true⟩).1 =
      .ok report := by decide +kernel
  have equal : shown = report := Except.ok.inj (inspected.symm.trans same)
  exact ⟨same, equal ▸ stdout⟩

end TreeReport.CommandLine
