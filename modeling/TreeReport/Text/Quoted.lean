import TreeReport.Text.Printable

/-! Quoted text and byte strings. The mark is a single quote, or a double quote
when the text holds single quotes and no double ones. The mark and the backslash
take a backslash in front, tab, newline and carriage return have letters, and
what cannot be printed is spelled with the shortest of the forms `\x41`,
`\u0041` and `\U00000041`. -/
namespace TreeReport.Text

def backslash : Symbol := .char '\\'

def hexDigit (value : Nat) : Symbol :=
  .char (if value < 10 then Char.ofNat (0x30 + value) else Char.ofNat (0x57 + value))

def hex : Nat → Nat → Text
  | 0, _ => []
  | width + 1, value => hex width (value / 16) ++ [hexDigit (value % 16)]

def quoteMark (text : Text) : Symbol :=
  if text.contains (.char '\'') && !text.contains (.char '"') then .char '"' else .char '\''

def escapedCode (code : Nat) : Text :=
  if code < 0x100 then backslash :: .char 'x' :: hex 2 code
  else if code < 0x10000 then backslash :: .char 'u' :: hex 4 code
  else backslash :: .char 'U' :: hex 8 code

def quotedSymbol (mark symbol : Symbol) : Text :=
  if symbol = mark ∨ symbol = backslash then [backslash, symbol]
  else if symbol = .char '\t' then [backslash, .char 't']
  else if symbol = .char '\n' then [backslash, .char 'n']
  else if symbol = .char '\r' then [backslash, .char 'r']
  else if isPrintable symbol then [symbol]
  else escapedCode symbol.code

def quoted (text : Text) : Text :=
  let mark := quoteMark text
  mark :: text.flatMap (quotedSymbol mark) ++ [mark]

def quotedByte (mark : Symbol) (byte : UInt8) : Text :=
  let symbol := Symbol.char (Char.ofNat byte.toNat)
  if byte < 0x7F then quotedSymbol mark symbol else escapedCode byte.toNat

def quotedBytes (bytes : List UInt8) : Text :=
  let mark := quoteMark (bytes.map fun byte => .char (Char.ofNat byte.toNat))
  .char 'b' :: mark :: bytes.flatMap (quotedByte mark) ++ [mark]

end TreeReport.Text
