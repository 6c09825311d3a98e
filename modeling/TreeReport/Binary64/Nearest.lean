import TreeReport.Binary64
import TreeReport.Decimal

/-! The floating point number nearest to a decimal. Of two equally near
neighbours the one with the even significand is taken; what would need an
exponent beyond the last becomes infinite. -/
namespace TreeReport.Binary64

/-- The quotient rounded to an integer, a half to the even neighbour. -/
def roundQuotient (num den : Nat) : Nat :=
  let below := num / den
  let rest := 2 * (num % den)
  if rest < den then below
  else if den < rest then below + 1
  else below + below % 2

/-- The number of `significand * 2 ^ shift` units, for a significand of at most
`2 ^ 53` that is below `2 ^ 52` only when there is no shift. -/
def ofScaled (negative : Bool) (significand shift : Nat) : Binary64 :=
  let exponent :=
    if significand < fractions then 0
    else if significand < 2 * fractions then shift + 1
    else shift + 2
  if inRange : exponent < 2047 then
    .finite negative ⟨exponent, inRange⟩ (fractionOf significand)
  else .infinite negative

/-- The number nearest to `num / den`. The quotient in units keeps 53 bits. -/
def ofRatio (negative : Bool) (num den : Nat) : Binary64 :=
  let shift := (num * unitsPerOne / den).log2 - 52
  ofScaled negative (roundQuotient (num * unitsPerOne) (den * Nat.pow 2 shift)) shift

def ofInteger (n : Int) : Binary64 := ofRatio (n < 0) n.natAbs 1

/-- Decimals from `10 ^ 310` on are infinite and those below `10 ^ -330` are
zero, whatever their digits; deciding this first bounds the powers below. -/
def ofDecimal (negative : Bool) (digits : Nat) (exponent : Int) : Binary64 :=
  let order := exponent + (Nat.toDigits 10 digits).length
  if digits = 0 ∨ order < -330 then .zero negative
  else if 310 < order then .infinite negative
  else match exponent with
    | .ofNat power => ofRatio negative (digits * Nat.pow 10 power) 1
    | .negSucc power => ofRatio negative digits (Nat.pow 10 (power + 1))

end TreeReport.Binary64
