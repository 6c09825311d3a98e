import TreeReport.Text

/-! Decimal numerals. A natural number has its digits without leading zeros,
an integer a minus sign in front of them when negative. Neither reading nor
writing an integer works with more digits than a limit allows. -/
namespace TreeReport.Decimal

def natural (n : Nat) : Text := (Nat.toDigits 10 n).map Symbol.char

def integer : Int → Text
  | .ofNat n => natural n
  | .negSucc n => .char '-' :: natural (n + 1)

def valueOf (digits : Text) : Nat :=
  digits.foldl (fun total digit => 10 * total + (digit.code - 0x30)) 0

section Limit

/-- The most digits of an integer that is read or written; its sign does not count. -/
def digitLimit : Nat := 4300

def limitText : Text :=
  ("Exceeds the limit (" : Text) ++ natural digitLimit ++
    (" digits) for integer string conversion" : Text)

def limitAdvice : Text := "; use sys.set_int_max_str_digits() to increase the limit"

def limitMessage (digits : Nat) : Text :=
  limitText ++ (": value has " : Text) ++ natural digits ++ (" digits" : Text) ++ limitAdvice

/-- What is said of an integer with too many digits to be written. It does not tell
which integer that is, so it is the same for all of them. -/
def overflowMessage : Text := limitText ++ limitAdvice

structure Overflow where
  deriving DecidableEq, Repr

def Short (n : Int) : Prop := (natural n.natAbs).length ≤ digitLimit

instance (n : Int) : Decidable (Short n) :=
  inferInstanceAs (Decidable ((natural n.natAbs).length ≤ digitLimit))

/-- The least natural number that is too long. -/
def leastLong : Int := .ofNat (Nat.pow 10 digitLimit)

/-- A text that spells some integers out, if none of them is too long. -/
def write (integers : List Int) (text : Text) : Except Overflow Text :=
  if ∀ n ∈ integers, Short n then .ok text else .error ⟨⟩

end Limit

theorem valueOf_natural (n : Nat) : valueOf (natural n) = n := by
  have fold : ∀ (cs : List Char) (total : Nat),
      (cs.map Symbol.char).foldl (fun total digit => 10 * total + (digit.code - 0x30)) total =
        Nat.ofDigitChars 10 cs total := by
    intro cs
    induction cs with
    | nil => intro total; rfl
    | cons c rest ih =>
        intro total
        rw [List.map_cons, List.foldl_cons, ih, Nat.ofDigitChars_cons]
        rfl
  rw [valueOf, natural, fold]
  exact Nat.ofDigitChars_ten_toDigits

theorem natural_ne_nil (n : Nat) : natural n ≠ [] := by
  simp [natural, Nat.toDigits_ne_nil]

theorem natural_injective {m n : Nat} (same : natural m = natural n) : m = n := by
  rw [← valueOf_natural m, ← valueOf_natural n, same]

section Bound

theorem length_natural_le_iff {limit : Nat} (positive : 0 < limit) (n : Nat) :
    (natural n).length ≤ limit ↔ n < Nat.pow 10 limit := by
  rw [natural, List.length_map]
  exact Nat.length_toDigits_le_iff (by decide) positive

theorem length_natural_mono {small large : Nat} (order : small ≤ large) :
    (natural small).length ≤ (natural large).length := by
  have positive : 0 < (natural large).length := List.length_pos_iff.mpr (natural_ne_nil large)
  have below : large < Nat.pow 10 (natural large).length :=
    (length_natural_le_iff positive large).mp (Nat.le_refl _)
  exact (length_natural_le_iff positive small).mpr (Nat.lt_of_le_of_lt order below)

theorem short_of_lt {n : Int} {digits : Nat} (few : digits ≤ digitLimit)
    (below : n.natAbs < Nat.pow 10 digits) : Short n := by
  have enough {limit : Nat} (most : digits ≤ limit) : n.natAbs < Nat.pow 10 limit :=
    Nat.lt_of_lt_of_le below (Nat.pow_le_pow_right (by decide) most)
  exact (length_natural_le_iff (by decide) n.natAbs).mpr (enough few)

-- The limit is a variable until the end: the power is too large to be computed.
theorem not_short_leastLong : ¬ Short leastLong := by
  have beyond {limit : Nat} (positive : 0 < limit) :
      ¬ (natural (Int.ofNat (Nat.pow 10 limit)).natAbs).length ≤ limit := by
    rw [length_natural_le_iff positive]
    exact Nat.lt_irrefl _
  exact beyond (by decide)

theorem leastLong_ne_zero : leastLong ≠ 0 := by
  intro zero
  apply not_short_leastLong
  rw [zero]
  decide

end Bound

section Write

variable {integers : List Int} {text shown : Text}

theorem write_ok (short : ∀ n ∈ integers, Short n) : write integers text = .ok text :=
  if_pos short

theorem write_error (long : ∃ n ∈ integers, ¬ Short n) : write integers text = .error ⟨⟩ := by
  obtain ⟨n, member, beyond⟩ := long
  exact if_neg fun short => beyond (short n member)

theorem write_eq_ok_iff :
    write integers text = .ok shown ↔ (∀ n ∈ integers, Short n) ∧ shown = text := by
  unfold write
  split
  · next short =>
      exact ⟨fun same => ⟨short, (Except.ok.inj same).symm⟩, fun both => congrArg _ both.2.symm⟩
  · next long => simp [long]

theorem write_eq_error_iff {overflow : Overflow} :
    write integers text = .error overflow ↔ ∃ n ∈ integers, ¬ Short n := by
  unfold write
  split
  · next short => simpa using short
  · next long => simpa using long

theorem write_congr {others : List Int} (same : ∀ n, n ∈ integers ↔ n ∈ others) (text : Text) :
    write integers text = write others text := by
  simp only [write, same]

end Write

end TreeReport.Decimal
