import TreeReport.Proofs.CanonicalValues
import TreeReport.Proofs.CompactShape
import TreeReport.Proofs.SiblingLayout

/-!
What the first line of a report tells. A connector begins a listing, nothing but
an empty list has an empty line, and a line that begins with a word is a header
unless the word is a whole document. Lines that open nothing belong to what was
opened before them, so a run of lines can be cut in one way only.
-/
namespace TreeReport.Report

section Words

/-- The letters that the line begins with. -/
def word (line : Text) : Text := line.takeWhile Text.isAsciiLetter

theorem word_append {letters rest : Text}
    (all : ∀ symbol ∈ letters, Text.isAsciiLetter symbol = true)
    (stops : ∀ symbol ∈ rest.head?, Text.isAsciiLetter symbol = false) :
    word (letters ++ rest) = letters := by
  have nothing : rest.takeWhile Text.isAsciiLetter = [] := by
    cases rest with
    | nil => rfl
    | cons symbol more => simp [stops symbol (by simp)]
  rw [word, List.takeWhile_append_of_pos all, nothing, List.append_nil]

theorem word_cut {first second left right : Text} (one : Text.IsWord first)
    (two : Text.IsWord second) (stopLeft : ∀ symbol ∈ left.head?, Text.isAsciiLetter symbol = false)
    (stopRight : ∀ symbol ∈ right.head?, Text.isAsciiLetter symbol = false)
    (same : first ++ left = second ++ right) : first = second ∧ left = right := by
  have words : first = second := by
    rw [← word_append one.2 stopLeft, same, word_append two.2 stopRight]
  subst words
  exact ⟨rfl, List.append_cancel_left same⟩

theorem word_visible {letters : Text} (named : Text.IsWord letters) : Text.Visible letters := by
  intro symbol inside
  have letter := named.2 symbol inside
  simp only [Text.isAsciiLetter, Bool.or_eq_true, Bool.and_eq_true, decide_eq_true_eq] at letter
  omega

def opensAttribute (line : Text) : Bool := !(word line).isEmpty

theorem opensAttribute_cons {symbol : Symbol} (other : Text.isAsciiLetter symbol = false)
    (rest : Text) : opensAttribute (symbol :: rest) = false := by
  simp [opensAttribute, word, other]

theorem opensAttribute_word {letters : Text} (named : Text.IsWord letters) (rest : Text) :
    opensAttribute (letters ++ rest) = true := by
  obtain ⟨first, more, rfl⟩ := List.exists_cons_of_ne_nil named.1
  simp [opensAttribute, word, named.2 first (by simp)]

end Words

section Cuts

theorem span_cut {opens : Text → Bool} {first second left right : List Text}
    (closed : ∀ line ∈ first, opens line = false) (shut : ∀ line ∈ second, opens line = false)
    (openLeft : ∀ line ∈ left.head?, opens line = true)
    (openRight : ∀ line ∈ right.head?, opens line = true)
    (same : first ++ left = second ++ right) : first = second ∧ left = right := by
  -- Either cut is found again by taking lines as long as none opens.
  have ends : ∀ {lines rest : List Text}, (∀ line ∈ lines, opens line = false) →
      (∀ line ∈ rest.head?, opens line = true) →
      (lines ++ rest).takeWhile (fun line => !opens line) = lines := by
    intro lines rest all opened
    have nothing : rest.takeWhile (fun line => !opens line) = [] := by
      cases rest with
      | nil => rfl
      | cons line more => simp [opened line (by simp)]
    rw [List.takeWhile_append_of_pos (by simpa using all), nothing, List.append_nil]
  have heads : first = second := by
    rw [← ends closed openLeft, same, ends shut openRight]
  subst heads
  exact ⟨rfl, List.append_cancel_left same⟩

theorem block_cut {opens : Text → Bool} {first second : Text}
    {lines others left right : List Text}
    (closed : ∀ line ∈ lines, opens line = false) (shut : ∀ line ∈ others, opens line = false)
    (openLeft : ∀ line ∈ left.head?, opens line = true)
    (openRight : ∀ line ∈ right.head?, opens line = true)
    (same : first :: lines ++ left = second :: others ++ right) :
    first :: lines = second :: others ∧ left = right := by
  obtain ⟨heads, tails⟩ := List.cons.inj same
  obtain ⟨bodies, rests⟩ := span_cut closed shut openLeft openRight tails
  exact ⟨by rw [heads, bodies], rests⟩

end Cuts

section Looks

inductive Look where
  | listing
  | blank
  | node
  | compact
  deriving DecidableEq

def documentWords : List Text := ["true", "false", "null"]

def look (line : Text) : Look :=
  if opensSibling line then .listing
  else if line = [] then .blank
  else if word line = [] ∨ word line ∈ documentWords then .compact
  else .node

def lookOf : Value → Look
  | .sequence _ [] => .blank
  | .sequence _ _ => .listing
  | .mapping form entries => if Node.isNode (.mapping form entries) then .node else .compact
  | _ => .compact

theorem opensSibling_cons {symbol : Symbol} (branch : symbol ≠ .char '├')
    (last : symbol ≠ .char '└') (rest : Text) : opensSibling (symbol :: rest) = false := by
  simp [opensSibling, Text.startsWith, Text.ofString, List.isPrefixOf, Ne.symm branch, Ne.symm last]

theorem word_number {symbol : Symbol} (number : Json.kindOf? symbol = some .number) :
    Text.isAsciiLetter symbol = false := by
  by_cases numeric : Text.isAsciiDigit symbol || symbol = .char '-'
  · rcases Bool.or_eq_true_iff.mp numeric with digit | minus
    · simp only [Text.isAsciiDigit, Text.asciiDigit?] at digit
      split at digit
      · next inside =>
          simp only [Text.isAsciiLetter, Bool.or_eq_false_iff, Bool.and_eq_false_iff,
            decide_eq_false_iff_not]
          omega
      · contradiction
    · rw [of_decide_eq_true minus]
      rfl
  · simp only [Json.kindOf?, numeric] at number
    repeat' split at number
    all_goals contradiction

theorem compact_word {accepted : Int → Prop} {document : Json}
    (proper : Json.Proper accepted document) :
    word document.compact = [] ∨ word document.compact ∈ documentWords := by
  by_cases number : document.kind = .number
  · obtain ⟨symbol, more, shape, kind⟩ := Json.compact_head proper.writable
    left
    simp [word, shape, word_number (number ▸ kind)]
  · cases document with
    | null => exact Or.inr (by decide)
    | bool b => exact Or.inr (by cases b <;> decide)
    | int n => exact absurd rfl number
    | float x => exact absurd rfl number
    | str text => exact Or.inl rfl
    | array items => exact Or.inl rfl
    | object members => exact Or.inl rfl

theorem look_compact {accepted : Int → Prop} {document : Json}
    (proper : Json.Proper accepted document) : look document.compact = .compact := by
  obtain ⟨symbol, more, shape, kind⟩ := Json.compact_head proper.writable
  have branch : symbol ≠ .char '├' := by
    rintro rfl
    contradiction
  have last : symbol ≠ .char '└' := by
    rintro rfl
    contradiction
  have words := compact_word proper
  rw [shape] at words ⊢
  simp [look, opensSibling_cons branch last, words]

theorem look_word {typeText : Text} (named : Text.IsWord typeText)
    (free : typeText ∉ Value.takenTypes) {rest : Text}
    (stops : ∀ symbol ∈ rest.head?, Text.isAsciiLetter symbol = false) :
    look (typeText ++ rest) = .node := by
  have words := word_append named.2 stops
  obtain ⟨first, more, shape⟩ := List.exists_cons_of_ne_nil named.1
  have letter := named.2 first (by simp [shape])
  have branch : first ≠ .char '├' := by
    rintro rfl
    contradiction
  have last : first ≠ .char '└' := by
    rintro rfl
    contradiction
  have taken : ∀ word ∈ documentWords, word ∈ Value.takenTypes := by decide
  have apart : typeText ∉ documentWords := fun listed => free (taken typeText listed)
  have closed : opensSibling (typeText ++ rest) = false := by
    rw [shape, List.cons_append]
    exact opensSibling_cons branch last _
  simp [look, closed, words, named.1, apart]

end Looks

end TreeReport.Report
