import Mathlib.Data.List.Permutation
import TreeReport.Proofs.WrittenIntegers

/-!
What an entry point reads of its settings. Positions and colours are one truth value
each, taken from the keyword or else from the validated options, and an entry point that
styles always or never does not ask for colours. So options with the same two truth
values give the same report, in whatever way they are written, if only the setting for
positions can be announced.
-/
namespace TreeReport.Inspection

open Options (lenient settle validate)

section Settings

def asked (keyword option : Value) : Bool :=
  (if keyword.isNull then option else keyword).truth

theorem asked_congr {keyword option other : Value} (same : other.truth = option.truth) :
    asked keyword other = asked keyword option := by
  unfold asked
  split
  · exact same
  · rfl

def ColorPolicy.styles (policy : ColorPolicy) (colors : Bool) : Bool :=
  match policy with
  | .asAsked => colors
  | .always => true
  | .never => false

def displayFor (policy : ColorPolicy) (base : Options) (overrides : Options.Overrides) :
    Report.Display :=
  ⟨asked overrides.showPositions base.showPositions,
    policy.styles (asked overrides.colors base.colors)⟩

theorem displayOf_settle (policy : ColorPolicy) (base : Options) (overrides : Options.Overrides) :
    displayOf (settle base overrides policy.forced) = displayFor policy base overrides := by
  have positions : (if overrides.showPositions.isNull then base.showPositions
      else .bool overrides.showPositions.truth).truth =
        asked overrides.showPositions base.showPositions := by
    unfold asked
    split <;> rfl
  have colors : (if !overrides.colors.isNull then Value.bool overrides.colors.truth
      else .bool base.colors.truth).truth = asked overrides.colors base.colors := by
    unfold asked
    cases overrides.colors.isNull <;> rfl
  cases policy with
  | asAsked => exact congrArg₂ Report.Display.mk positions colors
  | always | never => exact congrArg (Report.Display.mk · _) positions

/-- The setting for positions can be announced. Given as a keyword it always can be. -/
def Announceable (base : Options) (overrides : Options.Overrides) : Prop :=
  overrides.showPositions.isNull = true →
    ∀ n ∈ base.showPositions.spelled, Decimal.Short n

theorem announceable_iff (base : Options) (overrides : Options.Overrides) (forced : Value) :
    (∀ n ∈ (settle base overrides forced).showPositions.spelled, Decimal.Short n) ↔
      Announceable base overrides := by
  unfold Announceable settle
  cases overrides.showPositions.isNull with
  | true => simp
  | false => simp [Value.spelled]

end Settings

section Reports

variable {policy : ColorPolicy} {value options other : Value} {overrides : Options.Overrides}
  {found again : Options.Validated}

theorem report_announced (read : validate false options = .ok found)
    (spoken : Announceable found.options overrides) :
    (inspect policy value options overrides).1 =
      Report.render (displayFor policy found.options overrides) value := by
  rw [inspect_read (Options.lenient_of_ok read), if_pos ((announceable_iff _ _ _).mpr spoken),
    displayOf_settle]

theorem report_unannounced (read : validate false options = .ok found)
    (dumb : ¬ Announceable found.options overrides) :
    (inspect policy value options overrides).1 = .error ⟨⟩ := by
  rw [inspect_read (Options.lenient_of_ok read),
    if_neg fun spoken => dumb ((announceable_iff _ _ _).mp spoken)]

theorem report_unread {refusal : Options.Refusal}
    (failed : validate false options = .error refusal) :
    (inspect policy value options overrides).1 = .error ⟨⟩ := by
  rw [inspect_unread (Options.lenient_of_failed failed)]

/-- Of two options that can be announced only the truth values matter. -/
theorem report_congr {keywords : Options.Overrides} (read : validate false options = .ok found)
    (reread : validate false other = .ok again) (spoken : Announceable found.options overrides)
    (respoken : Announceable again.options keywords)
    (same : displayFor policy again.options keywords =
      displayFor policy found.options overrides) :
    (inspect policy value other keywords).1 = (inspect policy value options overrides).1 := by
  rw [report_announced read spoken, report_announced reread respoken, same]

/-- To style always or never is to ask for it by the keyword. -/
theorem report_forced (forced : ColorPolicy) (styled : Bool)
    (same : forced.forced = .bool styled) :
    (inspect forced value options overrides).1 =
      (inspect .asAsked value options { overrides with colors := .bool styled }).1 := by
  have settled : ∀ base, settle base overrides forced.forced =
      settle base { overrides with colors := .bool styled } ColorPolicy.asAsked.forced := by
    intro base
    rw [same]
    rfl
  cases read : lenient options with
  | error overflow => rw [inspect_unread read, inspect_unread read]
  | ok found => rw [inspect_read read, inspect_read read, settled]

/-- To ask is to style always or never. -/
theorem report_asked (read : validate false options = .ok found) :
    (inspect .asAsked value options overrides).1 =
      if asked overrides.colors found.options.colors then
        (inspect .always value options overrides).1
      else (inspect .never value options overrides).1 := by
  by_cases spoken : Announceable found.options overrides
  · simp only [report_announced read spoken, displayFor, ColorPolicy.styles]
    split
    · next styled => rw [styled]
    · next plain => rw [Bool.eq_false_iff.mpr plain]
  · simp only [report_unannounced read spoken, ite_self]

theorem report_record (read : validate false options = .ok found) :
    (inspect policy value (.options found.options.showPositions found.options.colors)
      overrides).1 = (inspect policy value options overrides).1 := by
  have record : validate false
      (.options found.options.showPositions found.options.colors) = .ok ⟨found.options, [], []⟩ :=
    rfl
  by_cases spoken : Announceable found.options overrides
  · exact report_congr read record spoken spoken rfl
  · rw [report_unannounced read spoken]
    exact report_unannounced record spoken

end Reports

section Spellings

theorem validate_flags (form : MappingForm) {name : Text} {entries : Entries}
    (spelled : name ∈ (["showPositions", "show_positions"] : List Text)) {positions colors : Bool}
    (listed : entries.Perm [(.str name, .bool positions), (.str "colors", .bool colors)]) :
    validate false (.mapping form entries) =
      .ok ⟨⟨.bool positions, .bool colors⟩, [], []⟩ := by
  simp only [List.mem_cons, List.not_mem_nil, or_false] at spelled
  rcases List.perm_pair.mp listed with rfl | rfl
  · rcases spelled with rfl | rfl <;> rfl
  · rcases spelled with rfl | rfl <;> rfl

end Spellings

/-- The entry points differ in who decides about colours, and in nothing else. To style
always or never is to ask for it, whatever else is asked, and to ask is to do one of the
two. Without validated options there is no report, and neither without a setting for
positions that can be announced. Else two truth values of the options matter, so a record
of them serves as well, and so does a mapping that spells them out. -/
theorem entry_points_differ_in_colors (value options : Value) (overrides : Options.Overrides) :
    let report := fun policy options overrides => (inspect policy value options overrides).1
    report .always options overrides =
        report .asAsked options { overrides with colors := .bool true } ∧
      report .never options overrides =
        report .asAsked options { overrides with colors := .bool false } ∧
      (∀ refusal, validate false options = .error refusal →
        ∀ policy, report policy options overrides = .error ⟨⟩) ∧
      ∀ validated, validate false options = .ok validated →
        let found := validated.options
        (report .asAsked options overrides =
          if (if overrides.colors.isNull then found.colors else overrides.colors).truth then
            report .always options overrides
          else report .never options overrides) ∧
        (∀ policy, report policy (.options found.showPositions found.colors) overrides =
          report policy options overrides) ∧
        (¬ Announceable found overrides →
          ∀ policy, report policy options overrides = .error ⟨⟩) ∧
        (Announceable found overrides →
          (∀ policy other keyword again, policy ≠ .asAsked → validate false other = .ok again →
            Announceable again.options overrides →
            again.options.showPositions.truth = found.showPositions.truth →
            report policy other { overrides with colors := keyword } =
              report policy options overrides) ∧
          (∀ policy other again, validate false other = .ok again →
            Announceable again.options overrides →
            again.options.showPositions.truth = found.showPositions.truth →
            again.options.colors.truth = found.colors.truth →
            report policy other overrides = report policy options overrides) ∧
          ∀ policy form name entries,
            name ∈ (["showPositions", "show_positions"] : List Text) →
            entries.Perm [(.str name, .bool found.showPositions.truth),
              (.str "colors", .bool found.colors.truth)] →
            report policy (.mapping form entries) overrides =
              report policy options overrides) := by
  intro report
  refine ⟨report_forced .always true rfl, report_forced .never false rfl, ?_, ?_⟩
  · exact fun refusal failed policy => report_unread failed
  intro validated read found
  refine ⟨report_asked read, fun policy => report_record read,
    fun dumb policy => report_unannounced read dumb, fun spoken => ⟨?_, ?_, ?_⟩⟩
  · intro policy other keyword again settled reread respoken positions
    refine report_congr read reread spoken respoken ?_
    rw [displayFor, displayFor, asked_congr positions]
    cases policy with
    | asAsked => exact absurd rfl settled
    | always | never => rfl
  · intro policy other again reread respoken positions colors
    refine report_congr read reread spoken respoken ?_
    rw [displayFor, displayFor, asked_congr positions, asked_congr colors]
  · intro policy form name entries spelled listed
    refine report_congr read (validate_flags form spelled listed) spoken ?_ ?_
    · simp [Announceable, Value.spelled]
    · exact congrArg₂ Report.Display.mk (asked_congr rfl)
        (congrArg policy.styles (asked_congr rfl))

/-- Flags spelled as a word and as a number, against the same two flags in a mapping of the
other kind, the other spelling and the other order. -/
theorem entry_points_differ_in_colors_spelled :
    let value : Value := .mapping .dictionary [(.str "type", .str "t"),
      (.str "position", .mapping .dictionary [(.str "start", .mapping .dictionary
        [(.str "line", .int 2)])])]
    let loose : Value := .mapping .dictionary
      [(.str "show_positions", .str " No "), (.str "colors", .int 1)]
    let plain : Value := .mapping .view
      [(.str "colors", .bool true), (.str "showPositions", .bool false)]
    (inspect .asAsked value plain {}).1 = (inspect .asAsked value loose {}).1 ∧
      (inspect .asAsked value loose {}).1 = .ok "\x1b[1mt\x1b[22m" := by
  intro value loose plain
  have read : validate false loose = .ok ⟨⟨.bool false, .bool true⟩,
      [.fromWord "show_positions" " No " false, .fromNumber "colors" "1"], []⟩ := rfl
  obtain ⟨-, -, -, found⟩ := entry_points_differ_in_colors value loose {}
  obtain ⟨-, -, -, spoken⟩ := found _ read
  obtain ⟨-, -, spelled⟩ := spoken (by simp [Announceable, Value.spelled])
  exact ⟨spelled .asAsked .view "showPositions" _ (by decide) (.swap _ _ _), by decide +kernel⟩

/-- A setting of the same truth value that cannot be announced leaves no report. -/
theorem long_setting_leaves_no_report :
    let record : Value := .options (.int Decimal.leastLong) .null
    let plain : Value := .mapping .dictionary
      [(.str "showPositions", .bool true), (.str "colors", .bool false)]
    (∃ validated, validate false record = .ok validated ∧
        validated.options.showPositions.truth = true ∧
        validated.options.colors.truth = false) ∧
      (inspect .asAsked .null record {}).1 = .error ⟨⟩ ∧
      (inspect .asAsked .null plain {}).1 = .ok "null" := by
  intro record plain
  have read : validate false record = .ok ⟨⟨.int Decimal.leastLong, .null⟩, [], []⟩ := rfl
  have positive : (Value.int Decimal.leastLong).truth = true :=
    bne_iff_ne.mpr Decimal.leastLong_ne_zero
  have dumb : ¬ Announceable ⟨.int Decimal.leastLong, .null⟩ {} := by
    intro spoken
    exact Decimal.not_short_leastLong (spoken rfl _ (List.mem_singleton.mpr rfl))
  exact ⟨⟨_, read, positive, rfl⟩, report_unannounced read dumb, by decide +kernel⟩

end TreeReport.Inspection
