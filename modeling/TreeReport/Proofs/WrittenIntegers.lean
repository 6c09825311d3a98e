import TreeReport.Inspection
import TreeReport.Proofs.Documents

/-!
Texts that can be written. Only an integer in it that is too long keeps a text from being
written, so whether a report comes about is a question about the integers in it, and they
depend on neither style nor order. A call needs in addition what it says before: the keys
that validation does not know and the setting for positions, which is announced as it
was given.
-/
namespace TreeReport

namespace Value

variable {n : Int}

theorem mem_spelledItems {items : List Value} :
    n ∈ spelledItems items ↔ ∃ item ∈ items, n ∈ spelled item := by
  induction items with
  | nil => simp [spelledItems]
  | cons item rest ih => simp [spelledItems, ih]

theorem mem_spelledEntries {entries : Entries} :
    n ∈ spelledEntries entries ↔ ∃ entry ∈ entries, n ∈ spelled entry.1 ∨ n ∈ spelled entry.2 := by
  induction entries with
  | nil => simp [spelledEntries]
  | cons entry rest ih => simp [spelledEntries, ih, or_assoc]

theorem mem_namedItems {items : List Value} :
    n ∈ namedItems items ↔ ∃ item ∈ items, n ∈ named item := by
  induction items with
  | nil => simp [namedItems]
  | cons item rest ih => simp [namedItems, ih]

theorem mem_namedEntries {entries : Entries} :
    n ∈ namedEntries entries ↔ ∃ entry ∈ entries, n ∈ spelled entry.1 ∨ n ∈ named entry.2 := by
  induction entries with
  | nil => simp [namedEntries]
  | cons entry rest ih => simp [namedEntries, ih, or_assoc]

theorem Integers.spelled {accepted : Int → Prop} {value : Value}
    (integers : Integers accepted value) : ∀ n ∈ value.spelled, accepted n := by
  induction integers with
  | int allowed => simpa [Value.spelled] using allowed
  | sequence form all ih | set form all ih =>
      intro n member
      obtain ⟨item, listed, inside⟩ := mem_spelledItems.mp member
      exact ih item listed n inside
  | mapping form keys values keysIh valuesIh =>
      intro n member
      obtain ⟨entry, listed, inside | inside⟩ := mem_spelledEntries.mp member
      · exact keysIh entry listed n inside
      · exact valuesIh entry listed n inside
  | options first second firstIh secondIh =>
      intro n member
      rcases List.mem_append.mp member with inside | inside
      · exact firstIh n inside
      · exact secondIh n inside
  | null | bool | float | str | bytes | object => simp [Value.spelled]

theorem Integers.named {accepted : Int → Prop} {value : Value}
    (integers : Integers accepted value) : ∀ n ∈ value.named, accepted n := by
  induction integers with
  | sequence form all ih =>
      intro n member
      obtain ⟨item, listed, inside⟩ := mem_namedItems.mp member
      exact ih item listed n inside
  | set form all ih =>
      intro n member
      rcases List.mem_append.mp member with inside | inside
      · obtain ⟨item, listed, held⟩ := mem_spelledItems.mp inside
        exact (all item listed).spelled n held
      · obtain ⟨item, listed, held⟩ := mem_namedItems.mp inside
        exact ih item listed n held
  | mapping form keys values keysIh valuesIh =>
      intro n member
      obtain ⟨entry, listed, inside | inside⟩ := mem_namedEntries.mp member
      · exact (keys entry listed).spelled n inside
      · exact valuesIh entry listed n inside
  | options first second firstIh secondIh => exact (Integers.options first second).spelled
  | null | bool | int | float | str | bytes | object => simp [Value.named]

end Value

namespace Json

variable {n : Int}

theorem mem_integersOfItems {items : List Json} :
    n ∈ integersOfItems items ↔ ∃ item ∈ items, n ∈ integers item := by
  induction items with
  | nil => simp [integersOfItems]
  | cons item rest ih => simp [integersOfItems, ih]

theorem mem_integersOfMembers {members : List (Text × Json)} :
    n ∈ integersOfMembers members ↔ ∃ member ∈ members, n ∈ integers member.2 := by
  induction members with
  | nil => simp [integersOfMembers]
  | cons member rest ih => simp [integersOfMembers, ih]

theorem Proper.integers {accepted : Int → Prop} {document : Json}
    (proper : Proper accepted document) : ∀ n ∈ document.integers, accepted n := by
  induction proper with
  | int allowed => simpa [Json.integers] using allowed
  | array all ih =>
      intro n member
      obtain ⟨item, listed, inside⟩ := mem_integersOfItems.mp member
      exact ih item listed n inside
  | object names all ih =>
      intro n member
      obtain ⟨pair, listed, inside⟩ := mem_integersOfMembers.mp member
      exact ih pair listed n inside
  | null | bool | float | str => simp [Json.integers]

end Json

namespace Value

/-- The integers that compact text spells out are integers of the value. -/
theorem Integers.written {accepted : Int → Prop} {value : Value}
    (integers : Integers accepted value) : ∀ n ∈ value.written, accepted n := by
  intro n member
  rcases List.mem_append.mp member with inside | inside
  · exact integers.named n inside
  · exact (normal_proper integers).integers n inside

theorem encode_ok {value : Value} (short : ∀ n ∈ value.written, Decimal.Short n) :
    value.encode = .ok value.compactText :=
  Decimal.write_ok short

end Value

namespace Report

theorem render_ok {display : Display} {value : Value}
    (short : ∀ n ∈ written display.positions value, Decimal.Short n) :
    render display value = .ok (text display value) :=
  Decimal.write_ok short

theorem render_eq_ok_iff {display : Display} {value : Value} {shown : Text} :
    render display value = .ok shown ↔
      (∀ n ∈ written display.positions value, Decimal.Short n) ∧ shown = text display value :=
  Decimal.write_eq_ok_iff

theorem render_eq_error_iff {display : Display} {value : Value} :
    render display value = .error ⟨⟩ ↔
      ∃ n ∈ written display.positions value, ¬ Decimal.Short n :=
  Decimal.write_eq_error_iff

theorem render_long_integer {n : Int} (long : ¬ Decimal.Short n) (display : Display) :
    render display (.int n) = .error ⟨⟩ :=
  render_eq_error_iff.mpr ⟨n, by simp [written, Value.written, Value.normal, Json.integers], long⟩

theorem mem_writtenItems {positions : Bool} {items : List Value} {n : Int} :
    n ∈ writtenItems positions items ↔ ∃ item ∈ items, n ∈ written positions item := by
  induction items with
  | nil => simp [writtenItems]
  | cons item rest ih => simp [writtenItems, ih]

theorem render_sequence_error_iff (display : Display) (form : SequenceForm) (items : List Value) :
    render display (.sequence form items) = .error ⟨⟩ ↔
      ∃ item ∈ items, render display item = .error ⟨⟩ := by
  simp only [render_eq_error_iff, written, mem_writtenItems]
  constructor
  · rintro ⟨n, ⟨item, listed, inside⟩, long⟩
    exact ⟨item, listed, n, inside, long⟩
  · rintro ⟨item, listed, n, inside, long⟩
    exact ⟨n, ⟨item, listed, inside⟩, long⟩

end Report

theorem Options.lenient_of_failed {value : Value} {refusal : Refusal}
    (failed : validate false value = .error refusal) : lenient value = .error ⟨⟩ := by
  cases refusal with
  | wrong fault => exact absurd failed (validate_lenient value fault)
  | overflow => exact lenient_of_overflow failed

namespace Inspection

open Options (lenient settle constraintRecord)

section Calls

variable {policy : ColorPolicy} {value options : Value} {overrides : Options.Overrides}

def announced (value : Value) (options : Options) : Logging.Record :=
  ⟨.debug, loggerName, ("Inspecting " : Text) ++ value.typeName ++ (" (positions=" : Text) ++
    options.showPositions.plain ++ (", colors=" : Text) ++ options.colors.plain ++ (")" : Text)⟩

theorem forced_colors (base : Options) (overrides : Options.Overrides) (policy : ColorPolicy) :
    ∃ b, (settle base overrides policy.forced).colors = .bool b := by
  cases policy with
  | asAsked =>
      have free : Value.null.isNull = true := rfl
      cases left : overrides.colors.isNull with
      | true => exact ⟨base.colors.truth, by simp [settle, ColorPolicy.forced, free, left]⟩
      | false => exact ⟨overrides.colors.truth, by simp [settle, ColorPolicy.forced, free, left]⟩
  | always => exact ⟨true, rfl⟩
  | never => exact ⟨false, rfl⟩

/-- Settled colours are a truth value, so an announcement fails for the positions only. -/
theorem announcement_settled (value : Value) (base : Options) (overrides : Options.Overrides)
    (policy : ColorPolicy) :
    let resolved := settle base overrides policy.forced
    announcement value resolved =
      if ∀ n ∈ resolved.showPositions.spelled, Decimal.Short n then .ok (announced value resolved)
      else .error ⟨⟩ := by
  intro resolved
  obtain ⟨b, colors⟩ : ∃ b, resolved.colors = .bool b := forced_colors base overrides policy
  have spoken : resolved.colors.spell = .ok resolved.colors.plain :=
    Decimal.write_ok (by simp [colors, Value.spelled])
  unfold announcement
  rw [spoken]
  unfold Value.spell Decimal.write
  split <;> rfl

theorem inspect_unread {overflow : Decimal.Overflow} (failed : lenient options = .error overflow) :
    inspect policy value options overrides = (.error overflow, []) := by
  simp only [inspect, Options.resolve, failed, Except.map]

/-- What validation and resolution leave in the log. -/
def constraints (found : Options.Validated) : List Logging.Record :=
  found.records ++ found.warnings.map constraintRecord

theorem inspect_read {found : Options.Validated} (read : lenient options = .ok found) :
    let resolved := settle found.options overrides policy.forced
    inspect policy value options overrides =
      if ∀ n ∈ resolved.showPositions.spelled, Decimal.Short n then
        (Report.render (displayOf resolved) value, constraints found ++ [announced value resolved])
      else (.error ⟨⟩, constraints found) := by
  intro resolved
  have spoken : announcement value (settle found.options overrides policy.forced) =
      if ∀ n ∈ resolved.showPositions.spelled, Decimal.Short n then .ok (announced value resolved)
      else .error ⟨⟩ := announcement_settled value found.options overrides policy
  by_cases speakable : ∀ n ∈ resolved.showPositions.spelled, Decimal.Short n
  · rw [if_pos speakable] at spoken ⊢
    simp only [inspect, Options.resolve, read, Except.map, spoken]
    rfl
  · rw [if_neg speakable] at spoken ⊢
    simp only [inspect, Options.resolve, read, Except.map, spoken]
    rfl

end Calls

end Inspection

end TreeReport
