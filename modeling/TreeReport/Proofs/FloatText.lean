import TreeReport.Proofs.Numerals

/-!
The text of a finite floating point number reads back as that number. Reading a
decimal depends on its value alone, not on how many zeros spell it. So it is
enough that the digits chosen for the text read back: a point of a grid is taken
only if it does, and all digits of the magnitude do because they are exact.
-/
namespace TreeReport.Binary64

section Scaling

theorem roundQuotient_scale (num den : Nat) {factor : Nat} (positive : 0 < factor) :
    roundQuotient (num * factor) (den * factor) = roundQuotient num den := by
  have below : ∀ a b : Nat, 2 * (a * factor) < b * factor ↔ 2 * a < b := by
    intro a b
    rw [← Nat.mul_assoc]
    exact Nat.mul_lt_mul_right positive
  have above : ∀ a b : Nat, a * factor < 2 * (b * factor) ↔ a < 2 * b := by
    intro a b
    rw [← Nat.mul_assoc]
    exact Nat.mul_lt_mul_right positive
  simp only [roundQuotient, Nat.mul_div_mul_right _ _ positive, Nat.mul_mod_mul_right, below, above]

theorem roundQuotient_exact (quotient : Nat) {den : Nat} (positive : 0 < den) :
    roundQuotient (quotient * den) den = quotient := by
  simp [roundQuotient, Nat.mul_div_cancel _ positive, positive]

theorem ofRatio_scale (negative : Bool) (num den : Nat) {factor : Nat} (positive : 0 < factor) :
    ofRatio negative (num * factor) (den * factor) = ofRatio negative num den := by
  have numerator : num * factor * unitsPerOne = num * unitsPerOne * factor := by ring
  have grid : ∀ shift, den * factor * Nat.pow 2 shift = den * Nat.pow 2 shift * factor := by
    intro shift
    ring
  simp only [ofRatio, numerator, grid, Nat.mul_div_mul_right _ _ positive,
    roundQuotient_scale _ _ positive]

theorem digits_length_scale {digits : Nat} (positive : 0 < digits) (power : Nat) :
    (Nat.toDigits 10 (digits * 10 ^ power)).length = (Nat.toDigits 10 digits).length + power := by
  induction power with
  | zero => simp
  | succ power ih =>
      have shape : digits * 10 ^ (power + 1) = 10 * (digits * 10 ^ power) + 0 := by ring
      have grown : 0 < digits * 10 ^ power := Nat.mul_pos positive (Nat.pow_pos (by decide))
      rw [shape, ← Nat.toDigits_append_toDigits (by decide) grown (by decide), List.length_append,
        ih]
      simp
      omega

def ofPower (negative : Bool) (digits : Nat) : Int → Binary64
  | .ofNat power => ofRatio negative (digits * 10 ^ power) 1
  | .negSucc power => ofRatio negative digits (10 ^ (power + 1))

theorem ofDecimal_eq (negative : Bool) (digits : Nat) (exponent : Int) :
    ofDecimal negative digits exponent =
      if digits = 0 ∨ exponent + (Nat.toDigits 10 digits).length < -330 then .zero negative
      else if 310 < exponent + (Nat.toDigits 10 digits).length then .infinite negative
      else ofPower negative digits exponent := by
  cases exponent <;> rfl

theorem ofPower_scale (negative : Bool) (digits power : Nat) (exponent : Int) :
    ofPower negative (digits * 10 ^ power) exponent =
      ofPower negative digits (exponent + power) := by
  cases exponent with
  | ofNat given =>
      have sum : Int.ofNat given + power = Int.ofNat (power + given) := by
        simp [Int.add_comm]
      rw [sum]
      simp only [ofPower, Nat.pow_add, Nat.mul_assoc]
  | negSucc gap =>
      by_cases fits : gap + 1 ≤ power
      · obtain ⟨left, shape⟩ := Nat.exists_eq_add_of_le fits
        have sum : Int.negSucc gap + power = Int.ofNat left := by
          rw [shape, Int.negSucc_eq]
          simp only [Int.natCast_add, Int.ofNat_eq_natCast]
          omega
        have factor : 0 < 10 ^ (gap + 1) := Nat.pow_pos (by decide)
        have num : digits * 10 ^ power = digits * 10 ^ left * 10 ^ (gap + 1) := by
          rw [shape, Nat.pow_add]
          ring
        rw [sum]
        simp only [ofPower, num]
        simpa using ofRatio_scale negative (digits * 10 ^ left) 1 factor
      · obtain ⟨left, shape⟩ := Nat.exists_eq_add_of_lt (Nat.lt_of_not_le fits)
        have sum : Int.negSucc gap + power = Int.negSucc left := by
          rw [Int.negSucc_eq, Int.negSucc_eq]
          omega
        have factor : 0 < 10 ^ power := Nat.pow_pos (by decide)
        have den : 10 ^ (gap + 1) = 10 ^ (left + 1) * 10 ^ power := by
          rw [← Nat.pow_add]
          congr 1
          omega
        rw [sum]
        simp only [ofPower, den]
        exact ofRatio_scale negative digits (10 ^ (left + 1)) factor

theorem ofDecimal_scale (negative : Bool) (digits power : Nat) (exponent : Int) :
    ofDecimal negative (digits * 10 ^ power) exponent =
      ofDecimal negative digits (exponent + power) := by
  by_cases zero : digits = 0
  · simp [ofDecimal, zero]
  · have positive : 0 < digits := by omega
    have scaled : digits * 10 ^ power ≠ 0 :=
      Nat.ne_of_gt (Nat.mul_pos positive (Nat.pow_pos (by decide)))
    have order : exponent + ((Nat.toDigits 10 (digits * 10 ^ power)).length : Int) =
        exponent + power + ((Nat.toDigits 10 digits).length : Int) := by
      rw [digits_length_scale positive]
      omega
    simp only [ofDecimal_eq, zero, scaled, order, ofPower_scale]

end Scaling

section Exact

theorem magnitude_lt (exponent : Fin 2047) (fraction : Fin fractions) :
    magnitude exponent fraction < 2 ^ 2098 := by
  have small := fraction.isLt
  unfold magnitude
  split
  · exact Nat.lt_trans small (by decide +kernel)
  · have power : 2 ^ (exponent.val - 1) ≤ 2 ^ 2045 := by
      apply Nat.pow_le_pow_right (by decide)
      omega
    calc (fractions + fraction.val) * Nat.pow 2 (exponent.val - 1)
        < (fractions + fractions) * Nat.pow 2 (exponent.val - 1) :=
          Nat.mul_lt_mul_of_pos_right (by omega) (Nat.pow_pos (by decide))
      _ ≤ (fractions + fractions) * 2 ^ 2045 := Nat.mul_le_mul_left _ power
      _ = 2 ^ 2098 := by decide +kernel

theorem magnitude_zero {exponent : Fin 2047} {fraction : Fin fractions}
    (none : magnitude exponent fraction = 0) : exponent = 0 ∧ fraction = 0 := by
  unfold magnitude at none
  split at none
  · next subnormal => exact ⟨Fin.ext subnormal, Fin.ext none⟩
  · have power : 0 < Nat.pow 2 (exponent.val - 1) := Nat.pow_pos (by decide)
    have hidden : 0 < fractions + fraction.val :=
      Nat.lt_of_lt_of_le (by decide) (Nat.le_add_right _ _)
    exact absurd none (Nat.ne_of_gt (Nat.mul_pos hidden power))

theorem log2_magnitude {exponent : Fin 2047} (normal : exponent.val ≠ 0)
    (fraction : Fin fractions) :
    (magnitude exponent fraction).log2 = 52 + (exponent.val - 1) := by
  have small := fraction.isLt
  have size : magnitude exponent fraction =
      (fractions + fraction.val) * 2 ^ (exponent.val - 1) := by
    simp [magnitude, normal]
  have shape : 2 ^ (52 + (exponent.val - 1)) = fractions * 2 ^ (exponent.val - 1) := by
    rw [Nat.pow_add]
  have next : 2 ^ (52 + (exponent.val - 1) + 1) =
      (fractions + fractions) * 2 ^ (exponent.val - 1) := by
    rw [Nat.pow_succ, shape]
    ring
  have positive : 0 < 2 ^ (exponent.val - 1) := Nat.pow_pos (by decide)
  have nonzero : magnitude exponent fraction ≠ 0 := by
    rw [size]
    exact Nat.ne_of_gt (Nat.mul_pos (by omega) positive)
  apply (Nat.log2_eq_iff nonzero).mpr
  constructor
  · rw [shape, size]
    exact Nat.mul_le_mul_right _ (by omega)
  · rw [next, size]
    exact Nat.mul_lt_mul_of_pos_right (by omega) positive

theorem ofScaled_magnitude (negative : Bool) (exponent : Fin 2047) (fraction : Fin fractions) :
    ofScaled negative (roundQuotient (magnitude exponent fraction)
        (Nat.pow 2 ((magnitude exponent fraction).log2 - 52)))
      ((magnitude exponent fraction).log2 - 52) = .finite negative exponent fraction := by
  have small := fraction.isLt
  have kept : fractionOf fraction.val = fraction := by
    apply Fin.ext
    simp [fractionOf, Fin.ofNat, Nat.mod_eq_of_lt small]
  -- Subnormal numbers lie on the first grid; all others have the hidden bit on theirs.
  by_cases subnormal : exponent.val = 0
  · have size : magnitude exponent fraction = fraction.val := by simp [magnitude, subnormal]
    have shift : fraction.val.log2 - 52 = 0 := by
      by_cases zero : fraction.val = 0
      · simp [zero]
      · have bound := (Nat.log2_lt zero).mpr (show fraction.val < 2 ^ 52 from small)
        omega
    have rounded : roundQuotient fraction.val 1 = fraction.val := by
      simpa using roundQuotient_exact fraction.val (show 0 < 1 by decide)
    have first : exponent = ⟨0, by decide⟩ := Fin.ext subnormal
    rw [size, shift]
    simp [rounded, ofScaled, small, kept, first]
  · have size : magnitude exponent fraction =
        (fractions + fraction.val) * 2 ^ (exponent.val - 1) := by
      simp [magnitude, subnormal]
    have leading := log2_magnitude subnormal fraction
    have shift : 52 + (exponent.val - 1) - 52 = exponent.val - 1 := by omega
    have rounded : roundQuotient (magnitude exponent fraction) (Nat.pow 2 (exponent.val - 1)) =
        fractions + fraction.val := by
      rw [size]
      exact roundQuotient_exact _ (Nat.pow_pos (by decide))
    have hidden : fractionOf (fractions + fraction.val) = fraction := by
      apply Fin.ext
      simp [fractionOf, Fin.ofNat, Nat.mod_eq_of_lt small]
    have place : exponent.val - 1 + 1 = exponent.val := by omega
    have normal : ¬ fractions + fraction.val < fractions := by omega
    have within : fractions + fraction.val < 2 * fractions := by omega
    rw [leading, shift, rounded]
    simp only [ofScaled, normal, within, place, ↓reduceIte, hidden]
    simp

theorem ofRatio_units (negative : Bool) (exponent : Fin 2047) (fraction : Fin fractions)
    {num den : Nat} (positive : 0 < den)
    (exact : num * unitsPerOne = magnitude exponent fraction * den) :
    ofRatio negative num den = .finite negative exponent fraction := by
  have swapped : ∀ shift, den * Nat.pow 2 shift = Nat.pow 2 shift * den :=
    fun shift => Nat.mul_comm _ _
  simp only [ofRatio, exact, Nat.mul_div_cancel _ positive, swapped,
    roundQuotient_scale _ _ positive]
  exact ofScaled_magnitude negative exponent fraction

/-- All digits of a magnitude that is not zero read back as the number. -/
theorem ofDecimal_exactDigits (negative : Bool) (exponent : Fin 2047) (fraction : Fin fractions)
    (nonzero : magnitude exponent fraction ≠ 0) :
    ofDecimal negative (exactDigits (magnitude exponent fraction)).digits
      (exactDigits (magnitude exponent fraction)).exponent =
        .finite negative exponent fraction := by
  obtain ⟨size, sizeShape⟩ : ∃ size, size = magnitude exponent fraction := ⟨_, rfl⟩
  have bound : size < 2 ^ 2098 := sizeShape ▸ magnitude_lt exponent fraction
  have positive : 0 < size := by omega
  have fives : 0 < 5 ^ 1074 := by
    apply Nat.pow_pos
    decide
  -- The number of digits keeps the decimal clear of the bounds for zero and infinity.
  have lower : 10 ^ 750 ≤ size * 5 ^ 1074 :=
    Nat.le_trans (by decide +kernel : 10 ^ 750 ≤ 5 ^ 1074) (Nat.le_mul_of_pos_left _ positive)
  have upper : size * 5 ^ 1074 < 10 ^ 1384 :=
    Nat.lt_trans (Nat.mul_lt_mul_of_pos_right bound fives)
      (by decide +kernel : 2 ^ 2098 * 5 ^ 1074 < 10 ^ 1384)
  have few : (Nat.toDigits 10 (size * 5 ^ 1074)).length ≤ 1384 :=
    (Nat.length_toDigits_le_iff (by decide) (by decide)).mpr upper
  have many : 750 < (Nat.toDigits 10 (size * 5 ^ 1074)).length := by
    apply Nat.lt_of_not_le
    intro short
    have below := (Nat.length_toDigits_le_iff (by decide) (by decide)).mp short
    exact absurd lower (Nat.not_le_of_lt below)
  have digits : size * 5 ^ 1074 ≠ 0 :=
    Nat.ne_of_gt (Nat.mul_pos positive fives)
  have power : (-1074 : Int) = Int.negSucc 1073 := rfl
  have units : size * 5 ^ 1074 * unitsPerOne = size * 10 ^ 1074 := by
    rw [Nat.mul_assoc, unitsPerOne, Nat.pow_eq, ← Nat.mul_pow]
  have ratio : ofRatio negative (size * 5 ^ 1074) (10 ^ 1074) =
      .finite negative exponent fraction :=
    ofRatio_units negative exponent fraction (Nat.pow_pos (by decide)) (by rw [units, sizeShape])
  have notTiny : ¬ ((-1074 : Int) + (Nat.toDigits 10 (size * 5 ^ 1074)).length < -330) := by omega
  have notHuge : ¬ (310 < (-1074 : Int) + (Nat.toDigits 10 (size * 5 ^ 1074)).length) := by omega
  rw [← sizeShape]
  simp only [exactDigits, ofDecimal, Nat.pow_eq, digits, notTiny, notHuge, or_self, ↓reduceIte]
  rw [power]
  exact ratio

end Exact

section Shortest

theorem gridDigits_read {x : Binary64} {negative : Bool} {size : Nat} {exponent : Int}
    {found : Scientific} (taken : gridDigits? x negative size exponent = some found) :
    ofDecimal negative found.digits found.exponent = x := by
  simp only [gridDigits?] at taken
  split at taken
  · next reads =>
      cases taken
      exact reads
  · split at taken
    · next reads =>
        cases taken
        exact reads
    · contradiction

-- A candidate is only taken after it has been read back; without one all digits stand.
theorem shortest_read {negative : Bool} {exponent : Fin 2047} {fraction : Fin fractions}
    {chosen : Scientific} (nonzero : magnitude exponent fraction ≠ 0)
    (choice : chosen = shortest (.finite negative exponent fraction) negative
      (magnitude exponent fraction)) :
    ofDecimal negative chosen.digits chosen.exponent = .finite negative exponent fraction := by
  simp only [shortest, nonzero, ↓reduceIte] at choice
  cases tried : (List.range 17).findSome? fun (more : Nat) =>
      gridDigits? (.finite negative exponent fraction) negative (magnitude exponent fraction)
        (decimalOrder (magnitude exponent fraction) - (more + 1)) with
  | none =>
      rw [tried, Option.getD_none] at choice
      rw [choice]
      exact ofDecimal_exactDigits negative exponent fraction nonzero
  | some found =>
      rw [tried, Option.getD_some] at choice
      obtain ⟨more, -, taken⟩ := List.exists_of_findSome?_eq_some tried
      rw [choice]
      exact gridDigits_read taken

theorem shortest_positive {negative : Bool} {exponent : Fin 2047} {fraction : Fin fractions}
    {chosen : Scientific} (nonzero : magnitude exponent fraction ≠ 0)
    (choice : chosen = shortest (.finite negative exponent fraction) negative
      (magnitude exponent fraction)) : 0 < chosen.digits := by
  have reads := shortest_read nonzero choice
  apply Nat.pos_of_ne_zero
  intro zero
  simp only [zero, ofDecimal, true_or, ↓reduceIte, Binary64.zero, finite.injEq, true_and] at reads
  apply nonzero
  rw [← reads.1, ← reads.2]
  rfl

end Shortest

section Spelling

open Json

theorem trimmed_digits {n : Nat} (positive : 0 < n) : ∃ first rest count,
    withoutTrailingZeros (Decimal.natural n) = first :: rest ∧ first ≠ .char '0' ∧
      Decimal.natural n = first :: rest ++ List.replicate count (.char '0') := by
  obtain ⟨trimmed, trimmedShape⟩ : ∃ trimmed, trimmed =
      withoutTrailingZeros (Decimal.natural n) := ⟨_, rfl⟩
  obtain ⟨zeros, zerosShape⟩ : ∃ zeros, zeros =
      (Decimal.natural n).reverse.takeWhile (· = .char '0') := ⟨_, rfl⟩
  have same : ∀ symbol ∈ zeros, symbol = .char '0' := by
    intro symbol member
    rw [zerosShape] at member
    simpa using List.all_eq_true.mp List.all_takeWhile symbol member
  have whole : Decimal.natural n = trimmed ++ List.replicate zeros.length (.char '0') := by
    have cut := List.takeWhile_append_dropWhile (p := (· = Symbol.char '0'))
      (l := (Decimal.natural n).reverse)
    have back := congrArg List.reverse cut
    rw [List.reverse_append, List.reverse_reverse, ← zerosShape, List.eq_replicate_of_mem same,
      List.reverse_replicate] at back
    rw [trimmedShape, withoutTrailingZeros]
    exact back.symm
  obtain ⟨first, rest, shape, apart⟩ := Decimal.natural_head positive
  cases trimmed with
  | nil =>
      have inside : first ∈ Decimal.natural n := by simp [shape]
      rw [whole, List.nil_append] at inside
      exact absurd (List.eq_of_mem_replicate inside) apart
  | cons head tail =>
      have heads : head = first := by
        rw [whole, List.cons_append] at shape
        exact (List.cons.inj shape).1
      exact ⟨head, tail, zeros.length, trimmedShape.symm, heads ▸ apart, whole⟩

theorem numeral_float {numeral : Numeral}
    (written : numeral.fraction ≠ [] ∨ numeral.exponent ≠ none) :
    numeral.value = .ok (.float (ofDecimal numeral.negative
      (Decimal.valueOf (numeral.whole ++ numeral.fraction))
      (numeral.exponent.getD 0 - numeral.fraction.length))) := by
  obtain ⟨negative, whole, fraction, exponent⟩ := numeral
  unfold Numeral.value
  split
  · next first second => simp_all
  · rfl

/-- The numeral has the given digits, with zeros around them at most, and the
point at the given place. It is not an integer. -/
structure Places (numeral : Numeral) (digits : Text) (point : Int) : Prop where
  whole : IsWhole numeral.whole
  fraction : AllDigits numeral.fraction
  written : numeral.fraction ≠ [] ∨ numeral.exponent ≠ none
  padded : ∃ front back,
    numeral.whole ++ numeral.fraction = zeros front ++ (digits ++ zeros back) ∧
      numeral.exponent.getD 0 - numeral.fraction.length + back = point - digits.length

theorem Places.value {numeral : Numeral} {digits : Text} {point : Int}
    (places : Places numeral digits point) :
    numeral.value = .ok (.float (ofDecimal numeral.negative (Decimal.valueOf digits)
      (point - digits.length))) := by
  obtain ⟨front, back, shape, place⟩ := places.padded
  have size : Decimal.valueOf (numeral.whole ++ numeral.fraction) =
      Decimal.valueOf digits * 10 ^ back := by
    rw [shape, zeros, zeros, Decimal.valueOf_append, Decimal.valueOf_append,
      Decimal.valueOf_zeros, Decimal.valueOf_zeros]
    simp
  rw [numeral_float places.written, size, ofDecimal_scale, place]

theorem allDigits_take {digits : Text} (all : AllDigits digits) (count : Nat) :
    AllDigits (digits.take count) := fun symbol member => all symbol (List.mem_of_mem_take member)

theorem allDigits_drop {digits : Text} (all : AllDigits digits) (count : Nat) :
    AllDigits (digits.drop count) := fun symbol member => all symbol (List.mem_of_mem_drop member)

theorem isWhole_zero : IsWhole [.char '0'] := ⟨allDigits_zeros 1, Or.inl rfl⟩

theorem positional_places {first : Symbol} {rest : Text} (nonzero : first ≠ .char '0')
    (all : AllDigits (first :: rest)) (point : Int) :
    ∃ numeral : Numeral, numeral.negative = false ∧
      numeral.spelled = positional (first :: rest) point ∧
        Places numeral (first :: rest) point := by
  cases point with
  | negSucc gap =>
      refine ⟨⟨false, [.char '0'], zeros (gap + 1) ++ (first :: rest), none⟩, rfl, ?_,
        isWhole_zero, allDigits_append.mpr ⟨allDigits_zeros _, all⟩, Or.inl (by simp),
        gap + 2, 0, ?_, ?_⟩
      · simp [Numeral.spelled, positional, exponentPart, Text.ofString, zeros]
      · simp [zeros, List.replicate_succ]
      · simp [zeros]
        omega
  | ofNat width =>
      cases width with
      | zero =>
          refine ⟨⟨false, [.char '0'], first :: rest, none⟩, rfl, ?_, isWhole_zero, all,
            Or.inl (by simp), 1, 0, ?_, ?_⟩
          · change _ = ("0." : Text) ++ (first :: rest)
            simp [Numeral.spelled, exponentPart, Text.ofString]
          · simp [zeros]
          · simp
      | succ width =>
          by_cases ends : (first :: rest).length ≤ width + 1
          · obtain ⟨after, shape⟩ := Nat.exists_eq_add_of_le ends
            have left : width + 1 - (first :: rest).length = after := by omega
            refine ⟨⟨false, (first :: rest) ++ zeros after, [.char '0'], none⟩, rfl, ?_,
              ⟨allDigits_append.mpr ⟨all, allDigits_zeros _⟩,
                Or.inr ⟨first, rest ++ zeros after, rfl, nonzero⟩⟩,
              allDigits_zeros 1, Or.inl (by simp), 0, after + 1, ?_, ?_⟩
            · simp only [positional, ends, left, ↓reduceIte]
              simp [Numeral.spelled, exponentPart, Text.ofString]
            · simp [zeros, List.replicate_succ']
            · rw [shape]
              simp
          · have inside : (first :: rest).drop (width + 1) ≠ [] := by
              simp only [ne_eq, List.drop_eq_nil_iff]
              exact ends
            refine ⟨⟨false, (first :: rest).take (width + 1), (first :: rest).drop (width + 1),
              none⟩, rfl, ?_, ⟨allDigits_take all _, Or.inr ⟨first, rest.take width, rfl, nonzero⟩⟩,
              allDigits_drop all _, Or.inl inside, 0, 0, ?_, ?_⟩
            · simp only [positional, ends, ↓reduceIte]
              rw [Numeral.spelled, List.isEmpty_eq_false_iff.mpr inside]
              simp [exponentPart, Text.ofString]
            · simp [zeros]
            · simp only [Option.getD_none, List.length_drop, Int.ofNat_eq_natCast]
              omega

theorem scientific_places {first : Symbol} {rest : Text} (nonzero : first ≠ .char '0')
    (all : AllDigits (first :: rest)) (point : Int) :
    ∃ numeral : Numeral, numeral.negative = false ∧
      numeral.spelled = scientific (first :: rest) point ∧
        Places numeral (first :: rest) point := by
  refine ⟨⟨false, [first], rest, some (point - 1)⟩, rfl, ?_,
    ⟨allDigits_take all 1, Or.inr ⟨first, [], rfl, nonzero⟩⟩, allDigits_drop all 1,
    Or.inr (by simp), 0, 0, ?_, ?_⟩
  · cases rest with
    | nil => simp [Numeral.spelled, scientific, exponentPart]
    | cons second more => simp [Numeral.spelled, scientific, exponentPart, Text.ofString]
  · simp [zeros]
  · simp
    omega

theorem decimalText_spelled {chosen : Scientific} (positive : 0 < chosen.digits)
    (negative : Bool) :
    ∃ numeral : Numeral, numeral.spelled =
        (if negative then ("-" : Text) else []) ++ decimalText chosen ∧
      IsWhole numeral.whole ∧ AllDigits numeral.fraction ∧
        (numeral.fraction ≠ [] ∨ numeral.exponent ≠ none) ∧
        numeral.value = .ok (.float (ofDecimal negative chosen.digits chosen.exponent)) := by
  obtain ⟨first, rest, count, trimmed, nonzero, whole⟩ := trimmed_digits positive
  have all : AllDigits (first :: rest) :=
    (allDigits_append.mp (whole ▸ allDigits_natural chosen.digits)).1
  obtain ⟨point, pointShape⟩ : ∃ point : Int,
      point = chosen.exponent + (Decimal.natural chosen.digits).length := ⟨_, rfl⟩
  have body : ∃ numeral : Numeral, numeral.negative = false ∧
      numeral.spelled = decimalText chosen ∧ Places numeral (first :: rest) point := by
    have some : chosen.digits ≠ 0 := by omega
    simp only [decimalText, trimmed, some, ↓reduceIte, ← pointShape]
    split
    · exact positional_places nonzero all point
    · exact scientific_places nonzero all point
  obtain ⟨numeral, plain, spelled, places⟩ := body
  have signed : Places { numeral with negative := negative } (first :: rest) point :=
    ⟨places.whole, places.fraction, places.written, places.padded⟩
  have size : chosen.digits = Decimal.valueOf (first :: rest) * 10 ^ count := by
    have value := congrArg Decimal.valueOf whole
    rw [Decimal.valueOf_natural, Decimal.valueOf_append, Decimal.valueOf_zeros] at value
    simpa using value
  have place : chosen.exponent + count = point - (first :: rest).length := by
    rw [pointShape, whole]
    simp
    omega
  refine ⟨{ numeral with negative := negative }, ?_, signed.whole, signed.fraction,
    signed.written, ?_⟩
  · rw [← spelled]
    simp only [Numeral.spelled, plain]
    cases negative <;> rfl
  · rw [signed.value, size, ofDecimal_scale, place]

/-- The text of a finite number is a numeral of that number. -/
theorem text_spelled {x : Binary64} (finite : x.isFinite = true) :
    ∃ numeral : Numeral, numeral.spelled = x.text ∧ IsWhole numeral.whole ∧
      AllDigits numeral.fraction ∧ (numeral.fraction ≠ [] ∨ numeral.exponent ≠ none) ∧
        numeral.value = .ok (.float x) := by
  cases x with
  | nan => contradiction
  | infinite negative => contradiction
  | finite negative exponent fraction =>
      obtain ⟨chosen, choice⟩ : ∃ chosen, chosen = shortest (.finite negative exponent fraction)
        negative (magnitude exponent fraction) := ⟨_, rfl⟩
      simp only [text, ← choice]
      by_cases none : magnitude exponent fraction = 0
      · have first : exponent = 0 ∧ fraction = 0 := magnitude_zero none
        have digits : chosen = ⟨0, 0⟩ := by
          rw [choice, shortest, ite_cond_eq_true _ _ (eq_true none)]
        refine ⟨⟨negative, [.char '0'], [.char '0'], Option.none⟩, ?_, isWhole_zero,
          allDigits_zeros 1, Or.inl (by simp), ?_⟩
        · rw [digits]
          cases negative <;> decide
        · rw [first.1, first.2]
          cases negative <;> rfl
      · have spelled := decimalText_spelled (shortest_positive none choice) negative
        rw [shortest_read none choice] at spelled
        exact spelled

end Spelling

end TreeReport.Binary64
