import TreeReport.Proofs.CompactReading
import TreeReport.Proofs.WrittenIntegers

/-!
The limit on integers in documents. Every integer of a document that has been read is
short, since the reader gives up on a document at an integer that has more digits than
the limit, and only there; every other fault names a cause and a place.
-/
namespace TreeReport.Json

section Limit

/-- What was read has short integers only, and only an integer that is too long is refused
for its length. -/
def Limited {α : Type} (integers : α → List Int) : Except Fault α → Prop
  | .ok found => ∀ n ∈ integers found, Decimal.Short n
  | .error (.malformed _ _) => True
  | .error (.hugeInteger digits) => Decimal.digitLimit < digits

theorem Limited.map {α β : Type} {integers : α → List Int} {others : β → List Int}
    {change : α → β} {result : Except Fault α} (limited : Limited integers result)
    (same : ∀ found, others (change found) = integers found) :
    Limited others (result.map change) := by
  cases result with
  | ok found =>
      intro n member
      rw [same] at member
      exact limited n member
  | error fault => cases fault <;> exact limited

theorem Limited.error {α β : Type} {integers : α → List Int} (others : β → List Int)
    {fault : Fault} (limited : Limited integers (.error fault)) :
    Limited others (.error fault) := by
  cases fault <;> exact limited

theorem valueOf_lt {digits : Text} (ascii : ∀ digit ∈ digits, Text.isAsciiDigit digit = true) :
    Decimal.valueOf digits < 10 ^ digits.length := by
  induction digits using List.reverseRecOn with
  | nil => decide
  | append_singleton digits digit ih =>
      have small : digit.code - 0x30 < 10 := by
        have range := ascii digit (by simp)
        unfold Text.isAsciiDigit Text.asciiDigit? at range
        split at range
        · omega
        · cases range
      have before := ih fun other member => ascii other (List.mem_append_left _ member)
      have last : Decimal.valueOf (digits ++ [digit]) =
          10 * Decimal.valueOf digits + (digit.code - 0x30) := by
        simp [Decimal.valueOf]
      rw [last, List.length_append, List.length_singleton, Nat.pow_succ]
      omega

theorem splitWhole_digits {text : Text} {found : Text × Text}
    (read : splitWhole? text = some found) :
    ∀ digit ∈ found.1, Text.isAsciiDigit digit = true := by
  unfold splitWhole? at read
  split at read
  · cases read
    simp only [List.forall_mem_singleton]
    decide
  · simp only at read
    split at read
    · contradiction
    · cases read
      exact List.all_eq_true.mp List.all_takeWhile

theorem numeral_digits {text : Text} {found : Numeral × Text} (read : numeral? text = some found) :
    ∀ digit ∈ found.1.whole, Text.isAsciiDigit digit = true := by
  simp only [numeral?, Option.map_eq_some_iff] at read
  obtain ⟨whole, some, rfl⟩ := read
  exact splitWhole_digits some

theorem Numeral.value_limited {numeral : Numeral}
    (digits : ∀ digit ∈ numeral.whole, Text.isAsciiDigit digit = true) :
    Limited integers numeral.value := by
  unfold Numeral.value
  split
  · split
    · next long => exact long
    · next short =>
        intro n member
        obtain rfl := List.mem_singleton.mp member
        have size : (if numeral.negative then -(Decimal.valueOf numeral.whole : Int)
            else (Decimal.valueOf numeral.whole : Int)).natAbs = Decimal.valueOf numeral.whole := by
          split <;> simp
        refine Decimal.short_of_lt (Nat.le_of_not_lt short) ?_
        rw [size]
        exact valueOf_lt digits
  · simp [Limited, integers]

theorem words_short : ∀ word ∈ words, word.2.integers = [] := by decide

theorem readScalar_limited (text : Text) :
    Limited (fun found => found.1.integers) (readScalar text) := by
  unfold readScalar
  split
  · next word found =>
      have none := words_short word (List.mem_of_find?_eq_some found)
      simp [Limited, none]
  · split
    · trivial
    · next numeral read => exact (Numeral.value_limited (numeral_digits read)).map fun _ => rfl

/-- What is wrong with a text literal is not its length. -/
theorem readQuoted_limited (text : Text) : Limited (fun _ => []) (readQuoted text) := by
  unfold readQuoted
  split
  · trivial
  · split
    · split
      · trivial
      · simp [Limited]
    · trivial

theorem integers_collectMembers {members : List (Text × Json)} {n : Int}
    (member : n ∈ integersOfMembers (collectMembers members)) : n ∈ integersOfMembers members := by
  obtain ⟨pair, listed, inside⟩ := mem_integersOfMembers.mp member
  exact mem_integersOfMembers.mpr ⟨pair, mem_collectMembers listed, inside⟩

-- The recursion is that of the reader.
mutual

theorem readValue_limited (text : Text) :
    Limited (fun found => found.1.integers) (readValue text) := by
  match text with
  | [] =>
      rw [readValue]
      trivial
  | symbol :: body =>
      have bound := skipBlank_length body
      rw [readValue]
      split
      · exact (readQuoted_limited (symbol :: body)).map fun _ => rfl
      · split
        · split
          · simp [Limited, integers, integersOfItems]
          · have inner := readItems_limited (skipBlank body)
            split
            · next fault failed =>
                rw [failed] at inner
                exact inner.error _
            · next items rest found =>
                rw [found] at inner
                exact inner
        · split
          · split
            · simp [Limited, integers, integersOfMembers]
            · have inner := readMembers_limited (skipBlank body)
              split
              · next fault failed =>
                  rw [failed] at inner
                  exact inner.error _
              · next members rest found =>
                  rw [found] at inner
                  exact fun n member => inner n (integers_collectMembers member)
          · exact readScalar_limited (symbol :: body)
termination_by 2 * text.length
decreasing_by all_goals (simp only [List.length_cons]; omega)

theorem readItems_limited (text : Text) :
    Limited (fun found => integersOfItems found.1) (readItems text) := by
  have first := readValue_limited text
  rw [readItems]
  split
  · next fault failed =>
      rw [failed] at first
      exact first.error _
  · next item rest read =>
      rw [read] at first
      have shorter := rest.property
      dsimp only
      split
      · simpa [Limited, integersOfItems] using first
      · split
        · trivial
        · next after found =>
            have inside := after.property
            have bound := skipBlank_length after.val
            have others := readItems_limited (skipBlank after.val)
            split
            · next fault failed =>
                rw [failed] at others
                exact others.error _
            · next items last more =>
                rw [more] at others
                intro n member
                rcases List.mem_append.mp member with here | later
                · exact first n here
                · exact others n later
termination_by 2 * text.length + 1
decreasing_by all_goals omega

theorem readMembers_limited (text : Text) :
    Limited (fun found => integersOfMembers found.1) (readMembers text) := by
  have title := readQuoted_limited text
  rw [readMembers]
  split
  · next fault failed =>
      rw [failed] at title
      exact title.error _
  · next name named read =>
      have shorter := named.property
      dsimp only
      split
      · trivial
      · next opened colon =>
          have inside := opened.property
          have bound := skipBlank_length opened.val
          have first := readValue_limited (skipBlank opened.val)
          split
          · next fault failed =>
              rw [failed] at first
              exact first.error _
          · next value rest found =>
              rw [found] at first
              have within := rest.property
              split
              · simpa [Limited, integersOfMembers] using first
              · split
                · trivial
                · next after comma =>
                    have further := after.property
                    have blanks := skipBlank_length after.val
                    have others := readMembers_limited (skipBlank after.val)
                    split
                    · next fault failed =>
                        rw [failed] at others
                        exact others.error _
                    · next members last more =>
                        rw [more] at others
                        intro n member
                        rcases List.mem_append.mp member with here | later
                        · exact first n here
                        · exact others n later
termination_by 2 * text.length + 1
decreasing_by all_goals omega

end

theorem read_limited (text : Text) : Limited integers (read text) := by
  have whole := readValue_limited (skipBlank text)
  unfold read
  split
  · trivial
  · split
    · next fault failed =>
        rw [failed] at whole
        exact whole.error _
    · next document rest found =>
        rw [found] at whole
        split
        · exact whole
        · trivial

end Limit

section Long

end Long

end TreeReport.Json
