import TreeReport.Options

/-!
Strict beside lenient validation. Both read the same entries in the same order. Where
strict validation refuses, the lenient one warns, except at a word that leaves the
colours to the entry point, which it takes in silence. Where strict validation accepts,
both give the same options.
-/
namespace TreeReport.Options

section Aliases

variable {key : Value} {name : Text} {field : Field}

/-- The keys that stand for a field. -/
def IsAlias : Field → Value → Prop
  | .showPositions, key => key = .str "showPositions" ∨ key = .str "show_positions"
  | .colors, key => key = .str "colors"

theorem field?_none (unknown : field? key = none) (field : Field) : ¬ IsAlias field key := by
  have apart : ∀ name other, (name, other) ∈ aliases → key ≠ .str name := by
    intro name other listed same
    have missed := List.find?_eq_none.mp unknown (name, other) listed
    exact missed (Value.isText_iff.mpr same)
  intro named
  cases field with
  | showPositions =>
      rcases named with first | second
      · exact apart _ .showPositions (by simp [aliases]) first
      · exact apart _ .showPositions (by simp [aliases]) second
  | colors => exact apart _ .colors (by simp [aliases]) named

theorem field?_some (known : field? key = some (name, field)) :
    key = .str name ∧ ∀ other, IsAlias other key ↔ other = field := by
  have named : key.isText name = true :=
    List.find?_some (p := fun entry : Text × Field => key.isText entry.1) known
  have listed : (name, field) ∈ aliases := List.mem_of_find?_eq_some known
  rw [Value.isText_iff] at named
  subst named
  refine ⟨rfl, ?_⟩
  simp only [aliases, List.mem_cons, Prod.mk.injEq, List.not_mem_nil, or_false] at listed
  rcases listed with ⟨rfl, rfl⟩ | ⟨rfl, rfl⟩ | ⟨rfl, rfl⟩
  all_goals
    intro other
    cases other with
    | showPositions => simp [IsAlias, Text.ofString]
    | colors => simp [IsAlias, Text.ofString]

theorem field?_none_iff : field? key = none ↔ ∀ field, ¬ IsAlias field key := by
  cases known : field? key with
  | none => simpa using field?_none known
  | some named =>
      obtain ⟨name, field⟩ := named
      have meant := (field?_some known).2 field
      simpa using ⟨field, meant.mpr rfl⟩

end Aliases

section Fields

/-- How a strict and a lenient reading of one input come out. Silent is what only the
strict reading minds. -/
inductive Agreement {α : Type} (silent : Prop) :
    Except Fault (α × List Warning) → Except Fault (α × List Warning) → Prop where
  | accepted (found : α) (clean : ¬ silent) :
      Agreement silent (.ok (found, [])) (.ok (found, []))
  | refused (fault : Fault) (found : α) {warnings : List Warning}
      (minded : warnings ≠ [] ∨ silent) : Agreement silent (.error fault) (.ok (found, warnings))

theorem flag_agrees (fallback : Value) (key : Text) (value : Value) :
    Agreement False (flag true fallback key value) (flag false fallback key value) := by
  unfold flag
  split
  · exact .accepted _ id
  · exact .accepted _ id
  · simp only [↓reduceIte, Bool.false_eq_true]
    split
    · exact .refused _ _ (.inl (List.cons_ne_nil _ _))
    · exact .refused _ _ (.inl (List.cons_ne_nil _ _))

theorem readField_agrees (field : Field) (key : Text) (value : Value) :
    Agreement (field = .colors ∧ isAutoWord value = true) (readField true field key value)
      (readField false field key value) := by
  by_cases silent : field = .colors ∧ isAutoWord value = true
  · obtain ⟨rfl, word⟩ := silent
    cases value with
    | str text =>
        -- Strict validation takes no text at all.
        have refused : readField true .colors key (.str text) =
            .error (.notBool key (Value.str text).typeName) := rfl
        have taken : readField false .colors key (.str text) = .ok (.null, []) := by
          simp [readField, word]
        rw [refused, taken]
        exact .refused _ _ (.inr ⟨rfl, word⟩)
    | _ => cases word
  · rw [show (field = .colors ∧ isAutoWord value = true) = False from eq_false silent]
    cases field with
    | showPositions => exact flag_agrees _ key value
    | colors =>
        have other : isAutoWord value = false := by simpa using silent
        simpa only [readField, other, Bool.and_false, Bool.false_eq_true, ↓reduceIte]
          using flag_agrees .null key value

/-- The entry leaves the colours to the entry point, by a word and not by null. -/
def LeavesColorsOpen (entry : Value × Value) : Prop :=
  ∃ word, entry = (.str "colors", .str word) ∧
    Text.lower (Text.trim word) ∈ (["", "auto", "none", "null"] : List Text)

theorem isAutoWord_iff {value : Value} : isAutoWord value = true ↔
    ∃ word, value = .str word ∧
      Text.lower (Text.trim word) ∈ (["", "auto", "none", "null"] : List Text) := by
  cases value with
  | str word => simp [isAutoWord, canonicalWord, autoWords]
  | _ => simp [isAutoWord]

theorem leavesColorsOpen_iff {key value : Value} {name : Text} {field : Field}
    (known : field? key = some (name, field)) :
    LeavesColorsOpen (key, value) ↔ field = .colors ∧ isAutoWord value = true := by
  obtain ⟨-, meant⟩ := field?_some known
  have named : field = .colors ↔ key = .str "colors" := eq_comm.trans (meant .colors).symm
  rw [named, isAutoWord_iff]
  constructor
  · rintro ⟨word, same, auto⟩
    cases same
    exact ⟨rfl, word, rfl, auto⟩
  · rintro ⟨rfl, word, rfl, auto⟩
    exact ⟨word, rfl, auto⟩

end Fields

section Entries

def Speakable (entries : Entries) : Prop :=
  ∀ entry ∈ entries, (∀ field, ¬ IsAlias field entry.1) → ∀ n ∈ entry.1.spelled, Decimal.Short n

theorem speakable_cons (entry : Value × Value) (rest : Entries) :
    Speakable (entry :: rest) ↔
      (field? entry.1 = none → ∀ n ∈ entry.1.spelled, Decimal.Short n) ∧ Speakable rest := by
  rw [Speakable, List.forall_mem_cons, field?_none_iff, Speakable]

/-- A key that cannot be named fails the lenient reading, wherever it stands. -/
theorem readEntries_overflow_iff (options : Options) (entries : Entries) :
    readEntries false options entries = .error .overflow ↔ ¬ Speakable entries := by
  induction entries generalizing options with
  | nil => simp [readEntries, Speakable]
  | cons entry rest ih =>
      obtain ⟨key, value⟩ := entry
      rw [speakable_cons]
      cases known : field? key with
      | none =>
          by_cases spoken : ∀ n ∈ key.spelled, Decimal.Short n
          · have spelled : key.spell = .ok key.plain := Decimal.write_ok spoken
            have later := ih options
            cases read : readEntries false options rest <;> simp_all [readEntries, Except.map]
          · have failed : key.spell = .error ⟨⟩ := if_neg spoken
            simp [readEntries, known, failed, spoken]
      | some named =>
          obtain ⟨name, field⟩ := named
          obtain ⟨found, read⟩ := readField_lenient_ok field name value
          have later := ih (options.set field found.1)
          cases others : readEntries false (options.set field found.1) rest <;>
            simp_all [readEntries, Except.map]

/-- How a strict and a lenient reading of entries come out. Without a name for some key
neither has a result. -/
inductive Accord (silent : Prop) : Except Refusal (Options × List Warning) →
    Except Refusal (Options × List Warning) → Prop where
  | accepted (found : Options) (clean : ¬ silent) :
      Accord silent (.ok (found, [])) (.ok (found, []))
  | refused (fault : Fault) (found : Options) {warnings : List Warning}
      (minded : warnings ≠ [] ∨ silent) :
      Accord silent (.error (.wrong fault)) (.ok (found, warnings))
  | unspoken (refusal : Refusal) : Accord silent (.error refusal) (.error .overflow)

/-- What strict validation refuses early, lenient validation has warned of in the end. -/
theorem accord_refused {silent : Prop} (fault : Fault) {raised : List Warning}
    (minded : raised ≠ [] ∨ silent) (options : Options) (rest : Entries) :
    Accord silent (.error (.wrong fault))
      ((readEntries false options rest).map fun (options, warnings) =>
        (options, raised ++ warnings)) := by
  cases read : readEntries false options rest with
  | ok found =>
      exact .refused fault found.1 (minded.imp_left (List.append_ne_nil_of_left_ne_nil · found.2))
  | error refusal =>
      cases refusal with
      | wrong other => exact absurd read (readEntries_lenient options rest other)
      | overflow => exact .unspoken _

theorem readEntries_agrees (options : Options) (entries : Entries) :
    Accord (∃ entry ∈ entries, LeavesColorsOpen entry) (readEntries true options entries)
      (readEntries false options entries) := by
  induction entries generalizing options with
  | nil => exact .accepted options (by simp)
  | cons entry rest ih =>
      obtain ⟨key, value⟩ := entry
      cases known : field? key with
      | none =>
          simp only [readEntries, known]
          cases key.spell with
          | error overflow => exact .unspoken _
          | ok name =>
              exact accord_refused _ (.inl (List.cons_ne_nil _ [])) options rest
      | some named =>
          obtain ⟨name, field⟩ := named
          have head := readField_agrees field name value
          rw [← leavesColorsOpen_iff known] at head
          simp only [readEntries, known]
          generalize readField true field name value = strict at head
          generalize readField false field name value = lenient at head
          cases head with
          | accepted found clean =>
              have tail := ih (options.set field found)
              dsimp only
              generalize readEntries true (options.set field found) rest = strict at tail
              generalize readEntries false (options.set field found) rest = lenient at tail
              cases tail with
              | accepted last quiet => exact .accepted last (by simp [clean, quiet])
              | refused fault last minded =>
                  refine .refused fault last (minded.imp id ?_)
                  rintro ⟨later, inside, word⟩
                  exact ⟨later, List.mem_cons_of_mem _ inside, word⟩
              | unspoken refusal => exact .unspoken refusal
          | refused fault found minded =>
              refine accord_refused fault (minded.imp_right ?_) _ rest
              exact fun word => ⟨(key, value), List.mem_cons_self, word⟩

end Entries

section Validation

def OpenColors (raw : Value) : Prop :=
  ∃ form entries, raw = .mapping form entries ∧ ∃ entry ∈ entries, LeavesColorsOpen entry

inductive Verdict (raw : Value) : Except Refusal Validated → Except Refusal Validated → Prop where
  | accepted (found : Validated) (quiet : found.warnings = []) (closed : ¬ OpenColors raw) :
      Verdict raw (.ok found) (.ok found)
  | refused (fault : Fault) (found : Validated)
      (minded : found.warnings ≠ [] ∨ OpenColors raw) :
      Verdict raw (.error (.wrong fault)) (.ok found)
  | unspoken (refusal : Refusal) {form : MappingForm} {entries : Entries}
      (mapping : raw = .mapping form entries) (dumb : ¬ Speakable entries) :
      Verdict raw (.error refusal) (.error .overflow)

theorem validate_agrees (raw : Value) : Verdict raw (validate true raw) (validate false raw) := by
  cases raw with
  | null => exact .accepted _ rfl (by simp [OpenColors])
  | options showPositions colors => exact .accepted _ rfl (by simp [OpenColors])
  | mapping form entries =>
      have opened : OpenColors (.mapping form entries) ↔
          ∃ entry ∈ entries, LeavesColorsOpen entry := by
        constructor
        · rintro ⟨_, _, ⟨⟩, word⟩
          exact word
        · exact fun word => ⟨form, entries, rfl, word⟩
      have outcome := readEntries_agrees default entries
      have failed := readEntries_overflow_iff default entries
      rw [← opened] at outcome
      simp only [validate]
      generalize readEntries true default entries = strict at outcome
      generalize readEntries false default entries = loose at outcome failed
      cases outcome with
      | accepted found clean => exact .accepted _ rfl clean
      | refused fault found minded => exact .refused fault _ minded
      | unspoken refusal => exact .unspoken refusal rfl (failed.mp rfl)
  | _ => exact .refused _ _ (.inl (List.cons_ne_nil _ _))

theorem not_speakable_iff {entries : Entries} : ¬ Speakable entries ↔ ∃ entry ∈ entries,
    (∀ field, ¬ IsAlias field entry.1) ∧ ∃ n ∈ entry.1.spelled, ¬ Decimal.Short n := by
  simp [Speakable]

theorem validate_unspeakable (form : MappingForm) {entries : Entries} (dumb : ¬ Speakable entries) :
    validate false (.mapping form entries) = .error .overflow := by
  rw [validate, (readEntries_overflow_iff default entries).mpr dumb]
  rfl

theorem validate_failed_iff (raw : Value) :
    (∃ refusal, validate false raw = .error refusal) ↔
      ∃ form entries, raw = .mapping form entries ∧ ¬ Speakable entries := by
  constructor
  · rintro ⟨refusal, failed⟩
    have verdict := validate_agrees raw
    rw [failed] at verdict
    generalize validate true raw = strict at verdict
    cases verdict with
    | unspoken _ mapping dumb => exact ⟨_, _, mapping, dumb⟩
  · rintro ⟨form, entries, rfl, dumb⟩
    exact ⟨.overflow, validate_unspeakable form dumb⟩

end Validation

theorem openColors_iff {raw : Value} :
    OpenColors raw ↔ ∃ form entries word, raw = .mapping form entries ∧
      (.str "colors", .str word) ∈ entries ∧
      Text.lower (Text.trim word) ∈ (["", "auto", "none", "null"] : List Text) := by
  constructor
  · rintro ⟨form, entries, rfl, _, inside, word, rfl, auto⟩
    exact ⟨form, entries, word, rfl, inside, auto⟩
  · rintro ⟨form, entries, word, rfl, inside, auto⟩
    exact ⟨form, entries, rfl, _, inside, word, rfl, auto⟩

/-- Where lenient validation has a result, strict validation refuses exactly what it warns
of, and a word that leaves the colours open; what it accepts, lenient validation reads in
the same way and without a warning. Lenient validation has none exactly when it cannot
name an unknown key, and then strict validation has none either. -/
theorem strict_refuses_iff (raw : Value) :
    (∀ found, validate false raw = .ok found →
      ((∃ fault, validate true raw = .error (.wrong fault)) ↔
        found.warnings ≠ [] ∨
          ∃ form entries word, raw = .mapping form entries ∧
            (.str "colors", .str word) ∈ entries ∧
            Text.lower (Text.trim word) ∈ (["", "auto", "none", "null"] : List Text)) ∧
      validate true raw ≠ .error .overflow ∧
      ∀ strict, validate true raw = .ok strict → strict = found ∧ found.warnings = []) ∧
    ((∃ refusal, validate false raw = .error refusal) ↔
      ∃ form entries, raw = .mapping form entries ∧ ∃ entry ∈ entries,
        (∀ field, ¬ IsAlias field entry.1) ∧ ∃ n ∈ entry.1.spelled, ¬ Decimal.Short n) ∧
    ∀ refusal, validate false raw = .error refusal →
      refusal = .overflow ∧ ∃ again, validate true raw = .error again := by
  have dumb := validate_failed_iff raw
  simp only [not_speakable_iff] at dumb
  rw [← openColors_iff]
  refine and_left_comm.mp ⟨dumb, ?_⟩
  have verdict := validate_agrees raw
  generalize validate true raw = strict at verdict
  generalize validate false raw = loose at verdict
  cases verdict with
  | accepted found quiet closed =>
      refine ⟨?_, by simp⟩
      rintro _ ⟨⟩
      refine ⟨⟨?_, ?_⟩, by simp, ?_⟩
      · rintro ⟨fault, refused⟩
        cases refused
      · rintro (warned | word)
        · exact absurd quiet warned
        · exact absurd word closed
      · rintro _ ⟨⟩
        exact ⟨rfl, quiet⟩
  | refused fault found minded =>
      refine ⟨?_, by simp⟩
      rintro _ ⟨⟩
      refine ⟨⟨fun _ => minded, fun _ => ⟨fault, rfl⟩⟩, by simp, ?_⟩
      rintro strict ⟨⟩
  | unspoken refusal mapping dumb =>
      constructor
      · rintro found ⟨⟩
      · rintro _ ⟨⟩
        exact ⟨rfl, refusal, rfl⟩

/-- An unknown key that cannot be named keeps strict validation from refusing the word
behind it. -/
theorem long_key_hides_open_colors :
    let raw : Value := .mapping .dictionary
      [(.int Decimal.leastLong, .int 1), (.str "colors", .str "auto")]
    (∃ form entries word, raw = .mapping form entries ∧ (.str "colors", .str word) ∈ entries ∧
        Text.lower (Text.trim word) ∈ (["", "auto", "none", "null"] : List Text)) ∧
      validate true raw = .error .overflow ∧ validate false raw = .error .overflow := by
  intro raw
  have failed : (Value.int Decimal.leastLong).spell = .error ⟨⟩ :=
    Decimal.write_error ⟨_, by simp [Value.spelled], Decimal.not_short_leastLong⟩
  have unknown : field? (.int Decimal.leastLong) = none := rfl
  refine ⟨⟨.dictionary, _, "auto", rfl, by simp, by decide +kernel⟩, ?_, ?_⟩
  · simp [raw, validate, readEntries, unknown, failed, Except.map]
  · simp [raw, validate, readEntries, unknown, failed, Except.map]

end TreeReport.Options
