import TreeReport.Text

/-! Binary floating point numbers of 64 bits, by their fields, with one NaN.
The least positive number is the unit: every finite number is a whole number of
units, and `2 ^ 1074` units make one, so comparison and truncation are exact
arithmetic on naturals. -/
namespace TreeReport

/-- How many fractions there are, `2 ^ 52`; a hidden leading bit adds as much. -/
abbrev Binary64.fractions : Nat := 0x10000000000000

inductive Binary64 where
  | nan
  | infinite (negative : Bool)
  | finite (negative : Bool) (exponent : Fin 2047) (fraction : Fin Binary64.fractions)
  deriving DecidableEq, Repr

namespace Binary64

def unitsPerOne : Nat := Nat.pow 2 1074

def zero (negative : Bool) : Binary64 := .finite negative 0 0

def fractionOf (significand : Nat) : Fin fractions := Fin.ofNat fractions significand

/-- The magnitude of a finite number in units. Exponent zero belongs to the
subnormal numbers, which lack the hidden leading bit. -/
def magnitude (exponent : Fin 2047) (fraction : Fin fractions) : Nat :=
  if exponent.val = 0 then fraction.val
  else (fractions + fraction.val) * Nat.pow 2 (exponent.val - 1)

def signed (negative : Bool) (size : Nat) : Int := if negative then -size else size

def units? : Binary64 → Option Int
  | .finite negative exponent fraction => some (signed negative (magnitude exponent fraction))
  | _ => none

def isFinite (x : Binary64) : Bool := x.units?.isSome

def isZero (x : Binary64) : Bool := x.units? == some 0

/-- Numeric equality: both zeros are equal and NaN equals nothing. -/
def sameNumber : Binary64 → Binary64 → Bool
  | .infinite a, .infinite b => a == b
  | .finite s e f, .finite t g h => signed s (magnitude e f) == signed t (magnitude g h)
  | _, _ => false

def isInteger (x : Binary64) (n : Int) : Bool := x.units? == some (n * unitsPerOne)

def truncate? (x : Binary64) : Option Int := x.units?.map (Int.tdiv · unitsPerOne)

end Binary64

end TreeReport
