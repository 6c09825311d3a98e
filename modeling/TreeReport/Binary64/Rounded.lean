import TreeReport.Binary64.Shortest

/-! Decimal texts with a given number of digits: positional, with an exponent,
or whichever of the two is general. The exact magnitude is rounded, a half to
the even neighbour; signs are not part of these texts. -/
namespace TreeReport.Binary64

structure Ending where
  keepPoint : Bool
  dropZeros : Bool
  deriving DecidableEq, Repr

/-- The digits with the point before the last `places` of them, and at least one
digit before the point. -/
def pointedText (ending : Ending) (digits places : Nat) : Text :=
  let given := Decimal.natural digits
  let all := zeros (places + 1 - given.length) ++ given
  let fraction := all.drop (all.length - places)
  let fraction := if ending.dropZeros then withoutTrailingZeros fraction else fraction
  let point : Text := if fraction.isEmpty && !ending.keepPoint then [] else "."
  all.take (all.length - places) ++ point ++ fraction

def fixedText (ending : Ending) (places size : Nat) : Text :=
  let (num, den) := onGrid size (-places)
  pointedText ending (roundQuotient num den) places

/-- The magnitude rounded to one digit and some more. Rounding up to the next
power of ten moves the exponent. -/
def roundedTo (more size : Nat) : Scientific :=
  if size = 0 then ⟨0, -more⟩
  else
    let exponent := decimalOrder size - more - 1
    let (num, den) := onGrid size exponent
    let digits := roundQuotient num den
    if digits < Nat.pow 10 (more + 1) then ⟨digits, exponent⟩ else ⟨digits / 10, exponent + 1⟩

def exponentForm (ending : Ending) (more : Nat) (rounded : Scientific) : Text :=
  pointedText ending rounded.digits more ++ exponentText (rounded.exponent + more)

def scientificText (ending : Ending) (more size : Nat) : Text :=
  exponentForm ending more (roundedTo more size)

def generalText (ending : Ending) (more size : Nat) : Text :=
  let rounded := roundedTo more size
  let leading := rounded.exponent + more
  if -4 ≤ leading ∧ leading ≤ more then
    pointedText ending rounded.digits (-rounded.exponent).toNat
  else exponentForm ending more rounded

end TreeReport.Binary64
