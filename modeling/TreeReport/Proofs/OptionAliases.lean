import Mathlib.Data.List.Forall2
import TreeReport.Proofs.StrictOptions

/-!
What lenient validation makes of a mapping, entry by entry. A field is settled by the last
entry under one of its names, through the value of that entry alone. The entries that are
not taken as they stand give rise to one warning each, in their order.
-/
namespace TreeReport.Options

section Meanings

def get (options : Options) : Field → Value
  | .showPositions => options.showPositions
  | .colors => options.colors

theorem get_set_self (options : Options) (field : Field) (value : Value) :
    (options.set field value).get field = value := by
  cases field <;> rfl

theorem get_set_of_ne {field other : Field} (apart : other ≠ field) (options : Options)
    (value : Value) : (options.set field value).get other = options.get other := by
  cases field with
  | showPositions =>
      cases other with
      | showPositions => exact absurd rfl apart
      | colors => rfl
  | colors =>
      cases other with
      | showPositions => rfl
      | colors => exact absurd rfl apart

/-- What a value means as a flag: itself, one and zero in either kind of number, and a few
words, whatever the case of their letters and the blanks around them. -/
def meaning? : Value → Option Bool
  | .bool b => some b
  | .int n => if n = 1 then some true else if n = 0 then some false else none
  | .float x => if x.isInteger 1 then some true else if x.isInteger 0 then some false else none
  | .str word =>
      let small := Text.lower (Text.trim word)
      if (["true", "1", "yes", "y", "on"] : List Text).contains small then some true
      else if (["false", "0", "no", "n", "off"] : List Text).contains small then some false
      else none
  | _ => none

def settled (field : Field) (value : Value) : Value :=
  ((meaning? value).map Value.bool).getD (default.get field)

def Proper (field : Field) (value : Value) : Prop :=
  (∃ b, value = .bool b) ∨ value = .null ∨
    field = .colors ∧ ∃ word, value = .str word ∧
      Text.lower (Text.trim word) ∈ (["", "auto", "none", "null"] : List Text)

def Noteworthy (entry : Value × Value) : Prop :=
  (∀ field, ¬ IsAlias field entry.1) ∨ ∃ field, IsAlias field entry.1 ∧ ¬ Proper field entry.2

inductive Concerns : Value × Value → Warning → Prop where
  | unknown {key value : Value} (foreign : ∀ field, ¬ IsAlias field key) :
      Concerns (key, value) (.tolerated (.unknownKey key.plain))
  | number {name : Text} {value : Value} {b : Bool} (kind : isNumber value = true)
      (means : meaning? value = some b) :
      Concerns (.str name, value) (.fromNumber name value.plain)
  | word {name word : Text} {b : Bool} (means : meaning? (.str word) = some b) :
      Concerns (.str name, .str word) (.fromWord name word b)
  | useless {name : Text} {value : Value} (means : meaning? value = none) :
      Concerns (.str name, value) (.tolerated (.notBool name value.typeName))

/-- The warnings that one entry gives rise to. -/
inductive Raises (entry : Value × Value) : List Warning → Prop where
  | nothing (plain : ¬ Noteworthy entry) : Raises entry []
  | once {warning : Warning} (noted : Noteworthy entry) (about : Concerns entry warning) :
      Raises entry [warning]

end Meanings

section Aliases

theorem exists_last (field : Field) (entries : Entries) :
    (∀ entry ∈ entries, ¬ IsAlias field entry.1) ∨
      ∃ earlier key value later, entries = earlier ++ (key, value) :: later ∧
        IsAlias field key ∧ ∀ entry ∈ later, ¬ IsAlias field entry.1 := by
  induction entries with
  | nil => exact .inl nofun
  | cons entry rest ih =>
      rcases ih with none | ⟨earlier, key, value, later, rfl, named, last⟩
      · by_cases named : IsAlias field entry.1
        · exact .inr ⟨[], entry.1, entry.2, rest, rfl, named, none⟩
        · exact .inl (List.forall_mem_cons.mpr ⟨named, none⟩)
      · exact .inr ⟨entry :: earlier, key, value, later, rfl, named, last⟩

end Aliases

section Flags

variable {key : Text} {value : Value}

theorem isZero_of_one {x : Binary64} (one : x.isInteger 1 = true) : x.isZero = false := by
  have positive : Binary64.unitsPerOne ≠ 0 := by
    unfold Binary64.unitsPerOne
    generalize 1074 = exponent
    exact Nat.ne_of_gt (Nat.pow_pos Nat.two_pos)
  rw [Binary64.isInteger, beq_iff_eq, Int.one_mul] at one
  rw [Binary64.isZero, one, beq_eq_false_iff_ne]
  exact fun none => positive (Int.natCast_eq_zero.mp (Option.some.inj none))

theorem looseFlag?_word (key word : Text) :
    looseFlag? key (.str word) =
      (meaning? (.str word)).map fun b => (b, .fromWord key word b) := by
  simp [looseFlag?, wordMeaning?, meaning?, trueWords, falseWords, canonicalWord]

/-- Of the numbers only one and zero have a meaning. -/
theorem looseFlag?_number (number : isNumber value = true) :
    looseFlag? key value = (meaning? value).map fun b => (b, .fromNumber key value.plain) := by
  cases value with
  | int n =>
      by_cases one : n = 1
      · simp [looseFlag?, isNumber, meaning?, Value.same, Value.sameNumber, Value.asInteger?,
          Value.truth, one]
      · by_cases zero : n = 0
        · simp [looseFlag?, isNumber, meaning?, Value.same, Value.sameNumber, Value.asInteger?,
            Value.truth, zero]
        · simp [looseFlag?, isNumber, meaning?, Value.same, Value.sameNumber, Value.asInteger?,
            one, zero]
  | float x =>
      have zero : x.isInteger 0 = x.isZero := by
        rw [Binary64.isInteger, Binary64.isZero, Int.zero_mul]
      cases one : x.isInteger 1 with
      | true =>
          simp [looseFlag?, isNumber, meaning?, Value.same, Value.sameNumber, Value.asInteger?,
            Value.truth, one, isZero_of_one one]
      | false =>
          cases none : x.isZero <;>
            simp [looseFlag?, isNumber, meaning?, Value.same, Value.sameNumber,
              Value.asInteger?, Value.truth, one, zero, none]
  | _ => cases number

theorem looseFlag?_concerns (key : Text) {value : Value} (loose : ∀ b, value ≠ .bool b) :
    match looseFlag? key value with
    | some (b, warning) => meaning? value = some b ∧ Concerns (.str key, value) warning
    | none => meaning? value = none := by
  cases number : isNumber value with
  | true =>
      rw [looseFlag?_number number]
      cases means : meaning? value with
      | none => rfl
      | some b => exact ⟨rfl, .number number means⟩
  | false =>
      cases value with
      | bool b => exact absurd rfl (loose b)
      | str word =>
          rw [looseFlag?_word]
          cases means : meaning? (.str word) with
          | none => rfl
          | some b => exact ⟨rfl, .word means⟩
      | int n | float x => cases number
      | _ => rfl

/-- The meaning is taken where there is one, and only what is of the kind of a flag, null
included, is taken in silence. -/
theorem flag_lenient (fallback : Value) (key : Text) (value : Value) :
    ∃ raised, flag false fallback key value =
        .ok (((meaning? value).map Value.bool).getD fallback, raised) ∧
      (((∃ b, value = .bool b) ∨ value = .null) ∧ raised = [] ∨
        ¬ ((∃ b, value = .bool b) ∨ value = .null) ∧
          ∃ warning, raised = [warning] ∧ Concerns (.str key, value) warning) := by
  unfold flag
  split
  · next b => exact ⟨[], rfl, .inl ⟨.inl ⟨b, rfl⟩, rfl⟩⟩
  · exact ⟨[], rfl, .inl ⟨.inr rfl, rfl⟩⟩
  · next loose full =>
      have other : ¬ ((∃ b, value = .bool b) ∨ value = .null) := by
        rintro (⟨b, same⟩ | null)
        · exact loose b same
        · exact full null
      have concerned := looseFlag?_concerns key loose
      simp only [Bool.false_eq_true, ↓reduceIte]
      cases found : looseFlag? key value with
      | some answer =>
          rw [found] at concerned
          obtain ⟨means, about⟩ := concerned
          exact ⟨[answer.2], by simp [means], .inr ⟨other, answer.2, rfl, about⟩⟩
      | none =>
          rw [found] at concerned
          have means : meaning? value = none := concerned
          exact ⟨[_], by simp [means], .inr ⟨other, _, rfl, .useless means⟩⟩

theorem meaning?_autoWord {word : Text}
    (auto : Text.lower (Text.trim word) ∈ (["", "auto", "none", "null"] : List Text)) :
    meaning? (.str word) = none := by
  have apart : ∀ small ∈ (["", "auto", "none", "null"] : List Text),
      (["true", "1", "yes", "y", "on"] : List Text).contains small = false ∧
        (["false", "0", "no", "n", "off"] : List Text).contains small = false := by decide
  obtain ⟨notTrue, notFalse⟩ := apart _ auto
  simp only [meaning?, notTrue, notFalse, Bool.false_eq_true, if_false]

theorem proper_iff {field : Field} {value : Value}
    (closed : ¬ (field = .colors ∧ isAutoWord value = true)) :
    Proper field value ↔ (∃ b, value = .bool b) ∨ value = .null := by
  rw [isAutoWord_iff] at closed
  simp only [Proper, closed, or_false]

theorem readField_lenient (field : Field) (key : Text) (value : Value) :
    ∃ raised, readField false field key value = .ok (settled field value, raised) ∧
      (Proper field value ∧ raised = [] ∨
        ¬ Proper field value ∧
          ∃ warning, raised = [warning] ∧ Concerns (.str key, value) warning) := by
  by_cases auto : field = .colors ∧ isAutoWord value = true
  · obtain ⟨rfl, word⟩ := auto
    obtain ⟨text, rfl, listed⟩ := isAutoWord_iff.mp word
    refine ⟨[], ?_, .inl ⟨.inr (.inr ⟨rfl, text, rfl, listed⟩), rfl⟩⟩
    simp [readField, word, settled, meaning?_autoWord listed, get, default]
  · rw [proper_iff auto]
    cases field with
    | showPositions => exact flag_lenient _ key value
    | colors =>
        have other : isAutoWord value = false := by simpa using auto
        rw [readField, other, Bool.and_false, if_neg Bool.false_ne_true]
        exact flag_lenient .null key value

end Flags

section Entries

variable {options found : Options} {warnings : List Warning} {entries : Entries}

/-- Options found from options and entries: each field is settled by the last entry that
names it and untouched without one, and the warnings are those of the entries. -/
structure Reads (options : Options) (entries : Entries) (found : Options)
    (warnings : List Warning) : Prop where
  untouched : ∀ field, (∀ entry ∈ entries, ¬ IsAlias field entry.1) →
    found.get field = options.get field
  last : ∀ field earlier key value later, entries = earlier ++ (key, value) :: later →
    IsAlias field key → (∀ entry ∈ later, ¬ IsAlias field entry.1) →
    found.get field = settled field value
  raised : ∃ groups, List.Forall₂ Raises entries groups ∧ warnings = groups.flatten

theorem Reads.nil (options : Options) : Reads options [] options [] :=
  ⟨fun _ _ => rfl, by simp, [], .nil, rfl⟩

theorem Reads.unknown (rest : Reads options entries found warnings) {key : Value}
    (foreign : ∀ field, ¬ IsAlias field key) (value : Value) :
    Reads options ((key, value) :: entries) found
      (.tolerated (.unknownKey key.plain) :: warnings) := by
  obtain ⟨untouched, last, groups, each, rfl⟩ := rest
  refine ⟨?_, ?_, [_] :: groups, .cons (.once (.inl foreign) (.unknown foreign)) each, rfl⟩
  · exact fun field none => untouched field (List.forall_mem_cons.mp none).2
  · intro field earlier name value later split named final
    cases earlier with
    | nil =>
        cases split
        exact absurd named (foreign field)
    | cons entry earlier =>
        cases split
        exact last field earlier name value later rfl named final

theorem Reads.known {field : Field} {key value : Value} {group : List Warning}
    (rest : Reads (options.set field (settled field value)) entries found warnings)
    (named : ∀ other, IsAlias other key ↔ other = field) (raises : Raises (key, value) group) :
    Reads options ((key, value) :: entries) found (group ++ warnings) := by
  obtain ⟨untouched, last, groups, each, rfl⟩ := rest
  refine ⟨?_, ?_, group :: groups, .cons raises each, rfl⟩
  · intro other none
    obtain ⟨here, none⟩ := List.forall_mem_cons.mp none
    rw [untouched other none]
    exact get_set_of_ne (fun same => here ((named other).mpr same)) options _
  · intro other earlier name value later split meant final
    cases earlier with
    | nil =>
        cases split
        obtain rfl := (named other).mp meant
        rw [untouched other final, get_set_self]
    | cons entry earlier =>
        cases split
        exact last other earlier name value later rfl meant final

theorem readEntries_reads (options : Options) {entries : Entries} (speakable : Speakable entries) :
    ∃ found warnings, readEntries false options entries = .ok (found, warnings) ∧
      Reads options entries found warnings := by
  induction entries generalizing options with
  | nil => exact ⟨options, [], rfl, .nil options⟩
  | cons entry rest ih =>
      obtain ⟨key, value⟩ := entry
      obtain ⟨spoken, later⟩ := (speakable_cons _ _).mp speakable
      cases known : field? key with
      | none =>
          obtain ⟨found, warnings, read, reads⟩ := ih options later
          have spelled : key.spell = .ok key.plain := Decimal.write_ok (spoken known)
          refine ⟨found, _, ?_, reads.unknown (field?_none known) value⟩
          simp [readEntries, known, spelled, read, Except.map]
      | some named =>
          obtain ⟨name, field⟩ := named
          obtain ⟨rfl, meant⟩ := field?_some known
          obtain ⟨group, head, noted⟩ := readField_lenient field name value
          obtain ⟨found, warnings, read, reads⟩ :=
            ih (options.set field (settled field value)) later
          refine ⟨found, group ++ warnings, ?_, reads.known meant ?_⟩
          · simp [readEntries, known, head, read, Except.map]
          · have noteworthy : Noteworthy (.str name, value) ↔ ¬ Proper field value := by
              simp [Noteworthy, meant]
            rcases noted with ⟨proper, rfl⟩ | ⟨improper, warning, rfl, about⟩
            · exact .nothing (fun noted => noteworthy.mp noted proper)
            · exact .once (noteworthy.mpr improper) about

end Entries

theorem settled_typed (field : Field) (value : Value) :
    settled field value = default.get field ∨ ∃ b, settled field value = .bool b := by
  cases means : meaning? value with
  | none => exact .inl (by simp [settled, means])
  | some b => exact .inr ⟨b, by simp [settled, means]⟩

theorem Reads.typed {found : Options} {warnings : List Warning} {entries : Entries}
    (reads : Reads default entries found warnings) (field : Field) :
    found.get field = default.get field ∨ ∃ b, found.get field = .bool b := by
  rcases exists_last field entries with none | ⟨earlier, key, value, later, split, named, last⟩
  · exact .inl (reads.untouched field none)
  · rw [reads.last field earlier key value later split named last]
    exact settled_typed field value

/-- Lenient validation has an answer for every mapping in which it can name the keys that
it does not know, and for no other. Each field of the answer holds a truth value, or null
for the colours, and is settled by the last entry under one of its names: by what the
value of that entry means, and by the default when it means nothing or there is no such
entry. Each entry that names no field or has no proper value for it raises one warning
about itself, the others none, and the warnings stand in the order of the entries. -/
theorem last_alias_settles (form : MappingForm) (entries : Entries) :
    ((∃ entry ∈ entries, (∀ field, ¬ IsAlias field entry.1) ∧
        ∃ n ∈ entry.1.spelled, ¬ Decimal.Short n) →
      validate false (.mapping form entries) = .error .overflow) ∧
    ((∀ entry ∈ entries, (∀ field, ¬ IsAlias field entry.1) →
        ∀ n ∈ entry.1.spelled, Decimal.Short n) →
      ∃ found, validate false (.mapping form entries) = .ok found ∧
        (∃ b, found.options.showPositions = .bool b) ∧
        (found.options.colors = .null ∨ ∃ b, found.options.colors = .bool b) ∧
        (∀ field, (∀ entry ∈ entries, ¬ IsAlias field entry.1) →
          found.options.get field = default.get field) ∧
        (∀ field earlier key value later, entries = earlier ++ (key, value) :: later →
          IsAlias field key → (∀ entry ∈ later, ¬ IsAlias field entry.1) →
          found.options.get field = settled field value) ∧
        ∃ raised, List.Forall₂ Raises entries raised ∧ found.warnings = raised.flatten) := by
  constructor
  · exact fun long => validate_unspeakable form (not_speakable_iff.mpr long)
  · intro speakable
    obtain ⟨found, warnings, read, reads⟩ := readEntries_reads default speakable
    refine ⟨⟨found, warnings, []⟩, by simp [validate, read, Except.map], ?_, ?_,
      reads.untouched, reads.last, reads.raised⟩
    · rcases reads.typed .showPositions with same | flag
      · exact ⟨true, same⟩
      · exact flag
    · exact reads.typed .colors

/-- One key that cannot be named is enough. -/
theorem long_key_stops_validation :
    validate false (.mapping .dictionary [(.int Decimal.leastLong, .int 1)]) =
      .error .overflow := by
  apply validate_unspeakable
  rw [not_speakable_iff]
  have foreign : ∀ field, ¬ IsAlias field (.int Decimal.leastLong) := field?_none rfl
  exact ⟨_, List.mem_cons_self, foreign, _, List.mem_singleton.mpr rfl, Decimal.not_short_leastLong⟩

end TreeReport.Options
