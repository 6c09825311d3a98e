import Mathlib.Tactic.Ring
import TreeReport.Json.Reader
import TreeReport.Proofs.OneLine

/-!
Numerals as they are spelled and read. Splitting a numeral off a text finds
exactly the parts it was spelled from, as long as what follows does not go on
with it: no digit, no point and no exponent.
-/
namespace TreeReport

namespace Decimal

theorem foldl_digits (digits : Text) (total : Nat) :
    digits.foldl (fun total digit => 10 * total + (digit.code - 0x30)) total =
      total * 10 ^ digits.length + valueOf digits := by
  induction digits generalizing total with
  | nil => simp [valueOf]
  | cons digit rest ih =>
      have tail := ih (digit.code - 0x30)
      simp only [valueOf, List.foldl_cons, Nat.mul_zero, Nat.zero_add, List.length_cons] at tail ⊢
      rw [ih, tail, valueOf, Nat.pow_succ]
      ring

theorem valueOf_append (first second : Text) :
    valueOf (first ++ second) = valueOf first * 10 ^ second.length + valueOf second := by
  rw [valueOf, List.foldl_append, foldl_digits, ← valueOf]

theorem valueOf_zeros (count : Nat) : valueOf (List.replicate count (.char '0')) = 0 := by
  induction count with
  | zero => rfl
  | succ count ih =>
      have zero : valueOf [.char '0'] = 0 := rfl
      rw [List.replicate_succ', valueOf_append, ih, zero]
      simp

theorem natural_head {n : Nat} (positive : 0 < n) :
    ∃ first rest, natural n = first :: rest ∧ first ≠ .char '0' := by
  induction n using Nat.strongRecOn with
  | ind n ih =>
      by_cases small : n < 10
      · have apart : ∀ digit < 10, 0 < digit → Symbol.char digit.digitChar ≠ .char '0' := by decide
        refine ⟨.char n.digitChar, [], ?_, apart n small positive⟩
        rw [natural, Nat.toDigits_of_lt_base small]
        rfl
      · obtain ⟨first, rest, shape, apart⟩ := ih (n / 10) (by omega) (by omega)
        refine ⟨first, rest ++ [.char (n % 10).digitChar], ?_, apart⟩
        rw [natural, Nat.toDigits_of_base_le (by decide) (by omega), List.map_append, ← natural,
          shape]
        rfl

end Decimal

namespace Json

def AllDigits (text : Text) : Prop := ∀ symbol ∈ text, Text.isAsciiDigit symbol = true

def NoDigit (text : Text) : Prop := ∀ symbol ∈ text.head?, Text.isAsciiDigit symbol = false

def Stops (text : Text) : Prop :=
  ∀ symbol ∈ text.head?, Text.isAsciiDigit symbol = false ∧
    symbol ≠ .char '.' ∧ symbol ≠ .char 'e' ∧ symbol ≠ .char 'E'

theorem stops_cons {symbol : Symbol} {rest : Text} :
    Stops (symbol :: rest) ↔ Text.isAsciiDigit symbol = false ∧
      symbol ≠ .char '.' ∧ symbol ≠ .char 'e' ∧ symbol ≠ .char 'E' := by
  simp [Stops]

theorem stops_comma (rest : Text) : Stops (.char ',' :: rest) := stops_cons.mpr (by decide)

theorem stops_bracket (rest : Text) : Stops (.char ']' :: rest) := stops_cons.mpr (by decide)

theorem stops_brace (rest : Text) : Stops (.char '\x7d' :: rest) := stops_cons.mpr (by decide)

theorem Stops.noDigit {text : Text} (stops : Stops text) : NoDigit text :=
  fun symbol member => (stops symbol member).1

theorem allDigits_append {first second : Text} :
    AllDigits (first ++ second) ↔ AllDigits first ∧ AllDigits second := by
  simp [AllDigits, or_imp, forall_and]

theorem allDigits_natural (n : Nat) : AllDigits (Decimal.natural n) := Decimal.natural_digits n

theorem allDigits_zeros (count : Nat) : AllDigits (List.replicate count (.char '0')) := by
  intro symbol member
  rw [List.eq_of_mem_replicate member]
  rfl

section Split

theorem splitDigits_append {digits rest : Text} (all : AllDigits digits) (apart : NoDigit rest) :
    splitDigits (digits ++ rest) = (digits, rest) := by
  have front : rest.takeWhile Text.isAsciiDigit = [] ∧ rest.dropWhile Text.isAsciiDigit = rest := by
    cases rest with
    | nil => exact ⟨rfl, rfl⟩
    | cons symbol more =>
        have first := apart symbol (by simp)
        simp [first]
  rw [splitDigits, List.takeWhile_append_of_pos all, List.dropWhile_append_of_pos all, front.1,
    front.2, List.append_nil]

/-- The digits before the point: a zero alone, or no zero in front. -/
def IsWhole (text : Text) : Prop :=
  AllDigits text ∧ (text = [.char '0'] ∨ ∃ first rest, text = first :: rest ∧ first ≠ .char '0')

theorem splitWhole_append {whole rest : Text} (spelled : IsWhole whole) (apart : NoDigit rest) :
    splitWhole? (whole ++ rest) = some (whole, rest) := by
  obtain ⟨digits, zero | ⟨first, more, shape, nonzero⟩⟩ := spelled
  · rw [zero]
    rfl
  · have split := splitDigits_append digits apart
    rw [shape, List.cons_append] at split ⊢
    unfold splitWhole?
    split
    · next tail same =>
        exact absurd (List.cons.inj same).1 nonzero
    · simp [split]

theorem splitSign_of_ne {symbol : Symbol} (plain : symbol ≠ .char '-') (rest : Text) :
    splitSign (symbol :: rest) = (false, symbol :: rest) := by
  unfold splitSign
  split
  · next tail same => exact absurd (List.cons.inj same).1 plain
  · rfl

theorem splitSign_whole {whole rest : Text} (spelled : IsWhole whole) :
    splitSign (whole ++ rest) = (false, whole ++ rest) := by
  have plain : ∀ first more, whole = first :: more → first ≠ .char '-' := by
    intro first more shape same
    have digit := spelled.1 first (by simp [shape])
    rw [same] at digit
    exact absurd digit (by decide)
  obtain ⟨-, zero | ⟨first, more, shape, -⟩⟩ := spelled
  · rw [zero]
    rfl
  · rw [shape, List.cons_append]
    exact splitSign_of_ne (plain first more shape) _

theorem splitFraction_append {fraction rest : Text} (all : AllDigits fraction)
    (some : fraction ≠ []) (apart : NoDigit rest) :
    splitFraction (.char '.' :: (fraction ++ rest)) = (fraction, rest) := by
  simp [splitFraction, splitDigits_append all apart, some]

theorem splitFraction_of_ne {text : Text} (apart : ∀ symbol ∈ text.head?, symbol ≠ .char '.') :
    splitFraction text = ([], text) := by
  unfold splitFraction
  split
  · next rest => exact absurd rfl (apart (.char '.') (by simp))
  · rfl

theorem splitExponent_of_ne {text : Text}
    (apart : ∀ symbol ∈ text.head?, symbol ≠ .char 'e' ∧ symbol ≠ .char 'E') :
    splitExponent text = (none, text) := by
  cases text with
  | nil => rfl
  | cons symbol rest =>
      have none := apart symbol (by simp)
      simp [splitExponent, none]

theorem signed_natAbs (n : Int) : (if n < 0 then -(n.natAbs : Int) else n.natAbs) = n := by
  split <;> omega

theorem splitExponent_append (exponent : Int) {rest : Text} (apart : NoDigit rest) :
    splitExponent (Binary64.exponentText exponent ++ rest) = (some exponent, rest) := by
  obtain ⟨digits, filled⟩ : ∃ digits, digits =
      (if (Decimal.natural exponent.natAbs).length < 2 then ("0" : Text) else []) ++
        Decimal.natural exponent.natAbs := ⟨_, rfl⟩
  have all : AllDigits digits := by
    rw [filled, allDigits_append]
    refine ⟨?_, allDigits_natural _⟩
    split
    · exact allDigits_zeros 1
    · simp [AllDigits]
  have value : Decimal.valueOf digits = exponent.natAbs := by
    rw [filled, Decimal.valueOf_append, Decimal.valueOf_natural]
    split
    · have zero : Decimal.valueOf "0" = 0 := rfl
      simp [zero]
    · simp [Decimal.valueOf]
  have nonempty : digits ≠ [] := by
    rw [filled]
    simp [Decimal.natural_ne_nil]
  have read := splitDigits_append all apart
  have shape : Binary64.exponentText exponent =
      (if exponent < 0 then ("e-" : Text) else "e+") ++ digits := by
    rw [Binary64.exponentText, filled, List.append_assoc]
  rw [shape]
  have signed := signed_natAbs exponent
  rw [← value] at signed
  by_cases negative : exponent < 0
  · rw [if_pos negative] at signed
    simp [negative, Text.ofString, splitExponent, splitExponentSign, read, nonempty, signed]
  · rw [if_neg negative] at signed
    simp [negative, Text.ofString, splitExponent, splitExponentSign, read, nonempty, signed]

end Split

section Spelling

def exponentPart : Option Int → Text
  | none => []
  | some exponent => Binary64.exponentText exponent

/-- A numeral as it is written. -/
def Numeral.spelled (numeral : Numeral) : Text :=
  (if numeral.negative then [.char '-'] else []) ++ (numeral.whole ++
    ((if numeral.fraction.isEmpty then [] else .char '.' :: numeral.fraction) ++
      exponentPart numeral.exponent))

theorem exponent_begins (exponent : Int) (rest : Text) :
    ∃ more, Binary64.exponentText exponent ++ rest = .char 'e' :: more := by
  simp only [Binary64.exponentText]
  split
  · exact ⟨_, rfl⟩
  · exact ⟨_, rfl⟩

theorem numeral_spelled {numeral : Numeral} (whole : IsWhole numeral.whole)
    (fraction : AllDigits numeral.fraction) {rest : Text} (stops : Stops rest) :
    numeral? (numeral.spelled ++ rest) = some (numeral, rest) := by
  obtain ⟨negative, front, decimals, power⟩ := numeral
  obtain ⟨tail, tailShape⟩ : ∃ tail, tail = exponentPart power ++ rest := ⟨_, rfl⟩
  obtain ⟨body, bodyShape⟩ : ∃ body, body =
      (if decimals.isEmpty then [] else .char '.' :: decimals) ++ tail := ⟨_, rfl⟩
  have exponentRead : splitExponent tail = (power, rest) := by
    cases power with
    | none =>
        rw [tailShape]
        exact splitExponent_of_ne fun symbol member => (stops symbol member).2.2
    | some exponent =>
        rw [tailShape]
        exact splitExponent_append exponent stops.noDigit
  have behindFraction : NoDigit tail ∧ ∀ symbol ∈ tail.head?, symbol ≠ .char '.' := by
    cases power with
    | none =>
        rw [tailShape]
        exact ⟨stops.noDigit, fun symbol member => (stops symbol member).2.1⟩
    | some exponent =>
        obtain ⟨more, begins⟩ := exponent_begins exponent rest
        rw [tailShape, exponentPart, begins]
        have apart : Text.isAsciiDigit (.char 'e') = false ∧ Symbol.char 'e' ≠ .char '.' := by
          decide
        simp [NoDigit, apart]
  -- The part behind begins with no digit, whichever of the two is missing.
  have fractionRead : splitFraction body = (decimals, tail) ∧ NoDigit body := by
    by_cases none : decimals = []
    · rw [bodyShape, none]
      exact ⟨splitFraction_of_ne behindFraction.2, behindFraction.1⟩
    · have shape : body = .char '.' :: (decimals ++ tail) := by simp [bodyShape, none]
      have apart : Text.isAsciiDigit (.char '.') = false := by decide
      rw [shape]
      exact ⟨splitFraction_append fraction none behindFraction.1, by simp [NoDigit, apart]⟩
  have wholeRead := splitWhole_append whole fractionRead.2
  have signRead : splitSign ((if negative then [.char '-'] else []) ++ (front ++ body)) =
      (negative, front ++ body) := by
    cases negative with
    | true => rfl
    | false =>
        change splitSign (front ++ body) = (false, front ++ body)
        exact splitSign_whole whole
  have shape : Numeral.spelled ⟨negative, front, decimals, power⟩ ++ rest =
      (if negative then [.char '-'] else []) ++ (front ++ body) := by
    simp [Numeral.spelled, bodyShape, tailShape]
  rw [shape]
  simp [numeral?, signRead, wholeRead, fractionRead.1, exponentRead]

end Spelling

section Integers

def integerNumeral (n : Int) : Numeral := ⟨n < 0, Decimal.natural n.natAbs, [], none⟩

theorem isWhole_natural (n : Nat) : IsWhole (Decimal.natural n) := by
  refine ⟨allDigits_natural n, ?_⟩
  by_cases zero : n = 0
  · exact Or.inl (by rw [zero]; rfl)
  · exact Or.inr (Decimal.natural_head (by omega))

theorem integer_spelled (n : Int) : Decimal.integer n = (integerNumeral n).spelled := by
  cases n with
  | ofNat n => simp [Decimal.integer, integerNumeral, Numeral.spelled, exponentPart]
  | negSucc n =>
      simp [Decimal.integer, integerNumeral, Numeral.spelled, exponentPart, Int.negSucc_lt_zero]

theorem integerNumeral_value {n : Int}
    (fits : (Decimal.natural n.natAbs).length ≤ Decimal.digitLimit) :
    (integerNumeral n).value = .ok (.int n) := by
  have within : ¬ Decimal.digitLimit < (Decimal.natural n.natAbs).length := by omega
  simp only [integerNumeral, Numeral.value, within, ↓reduceIte, decide_eq_true_eq,
    Decimal.valueOf_natural, signed_natAbs]

end Integers

end Json

end TreeReport
