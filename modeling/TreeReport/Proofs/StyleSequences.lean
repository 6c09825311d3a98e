import TreeReport.Proofs.Stripping

/-!
The sequences in a text, as stripping finds them. A token that is painted holds two, the
one that opens its style and the one that ends it, and text without escapes holds none.
So what is put together of the two holds pairs, and a line that begins with such parts
leaves a style open only if the rest of it does.
-/
namespace TreeReport

namespace Style

section Sequences

def sequencesFrom : Scan → Text → List Text
  | _, [] => []
  | scan, symbol :: rest =>
      if symbol = escape then sequencesFrom .afterEscape rest
      else match scan with
        | .outside => sequencesFrom .outside rest
        | .afterEscape =>
            if symbol = .char '[' then sequencesFrom (.inside []) rest
            else sequencesFrom .outside rest
        | .inside parameters =>
            if isParameter symbol then sequencesFrom (.inside (symbol :: parameters)) rest
            else if symbol = .char 'm' then parameters.reverse :: sequencesFrom .outside rest
            else sequencesFrom .outside rest

def sequences (text : Text) : List Text := sequencesFrom .outside text

def Closes (opening closing : Text) : Prop :=
  (opening = "1" ∨ opening = "2") ∧ closing = "22" ∨
    (opening = "32" ∨ opening = "33") ∧ closing = "39"

instance (opening closing : Text) : Decidable (Closes opening closing) := by
  unfold Closes
  infer_instance

/-- Each code that opens a style is followed by the code that ends it. -/
inductive Paired : List Text → Prop where
  | nil : Paired []
  | pair {opening closing : Text} {codes : List Text} (closes : Closes opening closing)
      (rest : Paired codes) : Paired (opening :: closing :: codes)

theorem Paired.append {first second : List Text} (one : Paired first) (two : Paired second) :
    Paired (first ++ second) := by
  induction one with
  | nil => exact two
  | pair closes rest ih => exact .pair closes ih

theorem paired_append_iff {first : List Text} (one : Paired first) (second : List Text) :
    Paired (first ++ second) ↔ Paired second := by
  refine ⟨fun whole => ?_, one.append⟩
  induction one with
  | nil => exact whole
  | pair closes rest ih =>
      cases whole with
      | pair _ more => exact ih more

theorem not_paired_single (code : Text) : ¬ Paired [code] := by rintro ⟨⟩

theorem closes_role (role : Role) :
    Closes (Decimal.natural role.openingCode) (Decimal.natural role.closingCode) := by
  cases role
  · exact .inl ⟨by decide, rfl⟩
  · exact .inl ⟨by decide, rfl⟩
  · exact .inr ⟨by decide, rfl⟩
  · exact .inr ⟨by decide, rfl⟩

end Sequences

section Leads

/-- Whatever stands behind the text, its own sequences are these. -/
def Holds (text : Text) (codes : List Text) : Prop :=
  ∀ rest, sequences (text ++ rest) = codes ++ sequences rest

def Lead (text : Text) : Prop := ∃ codes, Paired codes ∧ Holds text codes

theorem Holds.append {first second : Text} {codes more : List Text} (one : Holds first codes)
    (two : Holds second more) : Holds (first ++ second) (codes ++ more) := by
  intro rest
  rw [List.append_assoc, one, two, List.append_assoc]

theorem Holds.sequences {text : Text} {codes : List Text} (holds : Holds text codes) :
    sequences text = codes := by
  have whole := holds []
  rwa [List.append_nil, show Style.sequences [] = [] from rfl, List.append_nil] at whole

theorem holds_plain {text : Text} (plain : escape ∉ text) : Holds text [] := by
  intro rest
  induction text with
  | nil => rfl
  | cons symbol more ih =>
      have apart : symbol ≠ escape := fun same => plain (by simp [same])
      have tail := ih fun inside => plain (List.mem_cons_of_mem symbol inside)
      rw [List.cons_append, Style.sequences, sequencesFrom, if_neg apart]
      exact tail

theorem sequencesFrom_parameters {parameters : Text}
    (all : ∀ symbol ∈ parameters, isParameter symbol = true) (seen rest : Text) :
    sequencesFrom (.inside seen) (parameters ++ .char 'm' :: rest) =
      (seen.reverse ++ parameters) :: sequences rest := by
  induction parameters generalizing seen with
  | nil =>
      have ends : isParameter (.char 'm') = false := by decide
      have apart : Symbol.char 'm' ≠ escape := by decide
      simp [sequencesFrom, ends, apart, Style.sequences]
  | cons symbol more ih =>
      have parameter := all symbol (by simp)
      have apart : symbol ≠ escape := by
        rintro rfl
        exact absurd parameter (by decide)
      have tail := ih (fun other member => all other (List.mem_cons_of_mem symbol member))
        (symbol :: seen)
      rw [List.cons_append, sequencesFrom, if_neg apart]
      simpa [parameter] using tail

theorem holds_sequenceOf {code : Nat}
    (all : ∀ symbol ∈ Decimal.natural code, isParameter symbol = true) :
    Holds (sequenceOf code) [Decimal.natural code] := by
  intro rest
  have bracket : Symbol.char '[' ≠ escape := by decide
  have read := sequencesFrom_parameters all [] rest
  simpa [sequenceOf, Style.sequences, sequencesFrom, bracket] using read

theorem holds_paint {text : Text} (plain : escape ∉ text) (some : text ≠ []) (role : Role) :
    Holds (paint role true text)
      [Decimal.natural role.openingCode, Decimal.natural role.closingCode] := by
  obtain ⟨opens, ends⟩ := sequenceOf_parameters role
  have whole := ((holds_sequenceOf opens).append (holds_plain plain)).append (holds_sequenceOf ends)
  simpa [paint, some] using whole

theorem lead_plain {text : Text} (plain : escape ∉ text) : Lead text :=
  ⟨[], .nil, holds_plain plain⟩

theorem Lead.append {first second : Text} (one : Lead first) (two : Lead second) :
    Lead (first ++ second) := by
  obtain ⟨codes, paired, holds⟩ := one
  obtain ⟨more, alsoPaired, alsoHolds⟩ := two
  exact ⟨codes ++ more, paired.append alsoPaired, holds.append alsoHolds⟩

theorem lead_paint {text : Text} (plain : escape ∉ text) (role : Role) (enabled : Bool) :
    Lead (paint role enabled text) := by
  by_cases painted : enabled = true ∧ text ≠ []
  · rw [painted.1]
    exact ⟨_, .pair (closes_role role) .nil, holds_paint plain painted.2 role⟩
  · have bare : paint role enabled text = text := by
      unfold paint
      rw [if_neg]
      simpa using painted
    rw [bare]
    exact lead_plain plain

end Leads

section Lines

def Closed (line : Text) : Prop := Paired (sequences line)

def AllClosed (lines : List Text) : Prop := ∀ line ∈ lines, Closed line

theorem closed_nil : Closed [] := .nil

theorem closed_lead_append {lead : Text} (leads : Lead lead) (line : Text) :
    Closed (lead ++ line) ↔ Closed line := by
  obtain ⟨codes, paired, holds⟩ := leads
  rw [Closed, holds, paired_append_iff paired, Closed]

theorem closed_lead {lead : Text} (leads : Lead lead) : Closed lead := by
  have whole := (closed_lead_append leads []).mpr closed_nil
  rwa [List.append_nil] at whole

@[simp] theorem allClosed_nil : AllClosed [] := by simp [AllClosed]

@[simp] theorem allClosed_cons (line : Text) (rest : List Text) :
    AllClosed (line :: rest) ↔ Closed line ∧ AllClosed rest := by
  simp [AllClosed]

@[simp] theorem allClosed_append (first second : List Text) :
    AllClosed (first ++ second) ↔ AllClosed first ∧ AllClosed second := by
  simp [AllClosed, or_imp, forall_and]

theorem allClosed_prefixed {lead : Text} (leads : Lead lead) (lines : List Text) :
    AllClosed (lines.map (lead ++ ·)) ↔ AllClosed lines := by
  simp [AllClosed, closed_lead_append leads]

theorem sequencesFrom_newline (scan : Scan) (before after : Text) :
    sequencesFrom scan (before ++ Text.newline :: after) =
      sequencesFrom scan before ++ sequences after := by
  have apart : Text.newline ≠ escape ∧ Text.newline ≠ .char '[' ∧ Text.newline ≠ .char 'm' ∧
      isParameter Text.newline = false := by decide
  induction before generalizing scan with
  | nil => cases scan <;> simp [sequencesFrom, apart, sequences]
  | cons symbol rest ih =>
      simp only [List.cons_append, sequencesFrom, ih]
      split
      · rfl
      · cases scan with
        | outside => rfl
        | afterEscape =>
            simp only
            split <;> rfl
        | inside parameters =>
            simp only
            split
            · rfl
            · split <;> rfl

theorem sequences_joinLines (lines : List Text) :
    sequences (Text.joinLines lines) = lines.flatMap sequences := by
  induction lines with
  | nil => rfl
  | cons first rest ih =>
      by_cases last : rest = []
      · simp [last, Text.joinLines, Text.joinWith]
      · rw [Text.joinLines, Text.joinWith_cons _ _ last, List.append_assoc,
          List.singleton_append, sequences, sequencesFrom_newline, ← Text.joinLines, ih]
        rfl

theorem paired_joinLines {lines : List Text} (closed : AllClosed lines) :
    Paired (sequences (Text.joinLines lines)) := by
  rw [sequences_joinLines]
  induction lines with
  | nil => exact .nil
  | cons first rest ih =>
      rw [allClosed_cons] at closed
      exact closed.1.append (ih closed.2)

end Lines

end Style

end TreeReport
