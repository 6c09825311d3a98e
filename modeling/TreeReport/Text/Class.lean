import TreeReport.Text

/-! Classes of symbols that words and numerals are read by: blanks, the digits of
every script, and small letters. -/
namespace TreeReport.Text

section Blanks

/-- The white space of Unicode and the four information separators. -/
def blankRuns : List (Nat × Nat) := [
  (0x0009, 0x000D), (0x001C, 0x0020), (0x0085, 0x0085), (0x00A0, 0x00A0), (0x1680, 0x1680),
  (0x2000, 0x200A), (0x2028, 0x2029), (0x202F, 0x202F), (0x205F, 0x205F), (0x3000, 0x3000)]

def isBlank (symbol : Symbol) : Bool :=
  blankRuns.any fun run => run.1 ≤ symbol.code && symbol.code ≤ run.2

def trimLeft (text : Text) : Text := text.dropWhile isBlank

def trimRight (text : Text) : Text := (text.reverse.dropWhile isBlank).reverse

def trim (text : Text) : Text := trimRight (trimLeft text)

end Blanks

section Digits

-- Each script has its ten digits side by side, so its zero settles them all.
-- These are the zeros of Unicode 14.
def zeroCodes : List Nat := [
  0x0030, 0x0660, 0x06F0, 0x07C0, 0x0966, 0x09E6, 0x0A66, 0x0AE6, 0x0B66, 0x0BE6, 0x0C66, 0x0CE6,
  0x0D66, 0x0DE6, 0x0E50, 0x0ED0, 0x0F20, 0x1040, 0x1090, 0x17E0, 0x1810, 0x1946, 0x19D0, 0x1A80,
  0x1A90, 0x1B50, 0x1BB0, 0x1C40, 0x1C50, 0xA620, 0xA8D0, 0xA900, 0xA9D0, 0xA9F0, 0xAA50, 0xABF0,
  0xFF10, 0x104A0, 0x10D30, 0x11066, 0x110F0, 0x11136, 0x111D0, 0x112F0, 0x11450, 0x114D0, 0x11650,
  0x116C0, 0x11730, 0x118E0, 0x11950, 0x11C50, 0x11D50, 0x11DA0, 0x16A60, 0x16AC0, 0x16B50,
  0x1D7CE, 0x1D7D8, 0x1D7E2, 0x1D7EC, 0x1D7F6, 0x1E140, 0x1E2F0, 0x1E950, 0x1FBF0]

def digitValue? (symbol : Symbol) : Option Nat :=
  (zeroCodes.find? fun first => first ≤ symbol.code && symbol.code < first + 10).map
    fun first => symbol.code - first

def asciiDigit? (symbol : Symbol) : Option Nat :=
  if 0x30 ≤ symbol.code ∧ symbol.code < 0x3A then some (symbol.code - 0x30) else none

def isAsciiDigit (symbol : Symbol) : Bool := (asciiDigit? symbol).isSome

end Digits

section Letters

/-- Small letters as far as ASCII words need them. Besides the ASCII letters the
Kelvin sign changes case into one. A character whose small form has several letters
stays as it is, since no word looked up holds such a sequence. -/
def lowerSymbol : Symbol → Symbol
  | .char '\u212a' => .char 'k'
  | .char c => .char c.toLower
  | symbol => symbol

def lower (text : Text) : Text := text.map lowerSymbol

end Letters

end TreeReport.Text
