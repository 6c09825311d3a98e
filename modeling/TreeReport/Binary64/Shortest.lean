import TreeReport.Binary64.Nearest

/-! The decimal text of a floating point number: the fewest digits that read
back as the number, the nearest such decimal if several have that many. Numbers
from `0.0001` up to `10 ^ 16` are written positionally, always with a fraction;
the others with an exponent of at least two digits. -/
namespace TreeReport.Binary64

/-- A positive decimal `digits * 10 ^ exponent`. -/
structure Scientific where
  digits : Nat
  exponent : Int
  deriving DecidableEq, Repr

/-- The least `order` with `size < unitsPerOne * 10 ^ order`, for a magnitude that
is not zero. No power of ten below one is a whole number of units, so the
quotient below is never exact. -/
def decimalOrder (size : Nat) : Int :=
  if unitsPerOne ≤ size then (Nat.toDigits 10 (size / unitsPerOne)).length
  else 1 - (Nat.toDigits 10 (unitsPerOne / size)).length

def onGrid (size : Nat) (exponent : Int) : Nat × Nat :=
  match exponent with
  | .ofNat power => (size, unitsPerOne * Nat.pow 10 power)
  | .negSucc power => (size * Nat.pow 10 (power + 1), unitsPerOne)

def neighbours (size : Nat) (exponent : Int) : Nat × Nat :=
  let (num, den) := onGrid size exponent
  let below := num / den
  let nearest := roundQuotient num den
  (nearest, if nearest = below then below + 1 else below)

def gridDigits? (x : Binary64) (negative : Bool) (size : Nat) (exponent : Int) :
    Option Scientific :=
  let (nearer, farther) := neighbours size exponent
  if ofDecimal negative nearer exponent = x then some ⟨nearer, exponent⟩
  else if ofDecimal negative farther exponent = x then some ⟨farther, exponent⟩
  else none

/-- All digits of the magnitude: one unit is `5 ^ 1074 / 10 ^ 1074`. -/
def exactDigits (size : Nat) : Scientific := ⟨size * Nat.pow 5 1074, -1074⟩

/-- Tries one digit more at a time. Seventeen always suffice. -/
def shortest (x : Binary64) (negative : Bool) (size : Nat) : Scientific :=
  if size = 0 then ⟨0, 0⟩
  else
    ((List.range 17).findSome? fun (more : Nat) =>
      gridDigits? x negative size (decimalOrder size - (more + 1))).getD (exactDigits size)

def zeros (count : Nat) : Text := List.replicate count (.char '0')

def withoutTrailingZeros (digits : Text) : Text :=
  (digits.reverse.dropWhile (· = .char '0')).reverse

/-- Where the point stands: before the digit of this index, counted from the
first digit and possibly outside them. -/
def positional (digits : Text) (point : Int) : Text :=
  match point with
  | .negSucc gap => ("0." : Text) ++ zeros (gap + 1) ++ digits
  | .ofNat 0 => ("0." : Text) ++ digits
  | .ofNat width =>
      if digits.length ≤ width then
        digits ++ zeros (width - digits.length) ++ (".0" : Text)
      else digits.take width ++ ("." : Text) ++ digits.drop width

def exponentText (exponent : Int) : Text :=
  let size := Decimal.natural exponent.natAbs
  (if exponent < 0 then ("e-" : Text) else "e+") ++
    (if size.length < 2 then ("0" : Text) else []) ++ size

def scientific (digits : Text) (point : Int) : Text :=
  digits.take 1 ++ (if digits.length ≤ 1 then [] else ("." : Text) ++ digits.drop 1) ++
    exponentText (point - 1)

def decimalText (value : Scientific) : Text :=
  let all := Decimal.natural value.digits
  let point := value.exponent + all.length
  let digits := if value.digits = 0 then all else withoutTrailingZeros all
  if -4 < point ∧ point ≤ 16 then positional digits point else scientific digits point

def text : Binary64 → Text
  | .nan => "nan"
  | .infinite negative => if negative then "-inf" else "inf"
  | .finite negative exponent fraction =>
      (if negative then ("-" : Text) else []) ++
        decimalText (shortest (.finite negative exponent fraction) negative
          (magnitude exponent fraction))

end TreeReport.Binary64
