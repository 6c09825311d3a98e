import TreeReport.Text.Quoted
import TreeReport.Decimal

/-! UTF-8, decoded strictly. A sequence that goes wrong is reported with the
bytes that did fit, so the report names the first byte at fault and how far the
sequence was sound. -/
namespace TreeReport.Utf8

inductive Reason where
  | invalidStart
  | invalidContinuation
  | unexpectedEnd
  deriving DecidableEq, Repr

structure Malformed where
  position : Nat
  bytes : List UInt8
  reason : Reason
  deriving DecidableEq, Repr

def Reason.message : Reason → Text
  | .invalidStart => "invalid start byte"
  | .invalidContinuation => "invalid continuation byte"
  | .unexpectedEnd => "unexpected end of data"

def Malformed.message (fault : Malformed) : Text :=
  let place := match fault.bytes with
    | [byte] => ("byte 0x" : Text) ++ Text.hex 2 byte.toNat ++ (" in position " : Text) ++
        Decimal.natural fault.position
    | bytes => ("bytes in position " : Text) ++ Decimal.natural fault.position ++ ("-" : Text) ++
        Decimal.natural (fault.position + bytes.length - 1)
  ("'utf-8' codec can't decode " : Text) ++ place ++ (": " : Text) ++ fault.reason.message

/-- What a leading byte of a longer sequence announces: the payload it carries,
how many bytes follow, and the range of the first of them. The narrower ranges
shut out overlong forms, surrogates and numbers past the last code point. -/
structure Lead where
  payload : Nat
  following : Nat
  low : UInt8
  high : UInt8

def lead? (byte : UInt8) : Option Lead :=
  if byte < 0xC2 then none
  else if byte < 0xE0 then some ⟨byte.toNat - 0xC0, 1, 0x80, 0xBF⟩
  else if byte = 0xE0 then some ⟨0, 2, 0xA0, 0xBF⟩
  else if byte = 0xED then some ⟨0xD, 2, 0x80, 0x9F⟩
  else if byte < 0xF0 then some ⟨byte.toNat - 0xE0, 2, 0x80, 0xBF⟩
  else if byte = 0xF0 then some ⟨0, 3, 0x90, 0xBF⟩
  else if byte < 0xF4 then some ⟨byte.toNat - 0xF0, 3, 0x80, 0xBF⟩
  else if byte = 0xF4 then some ⟨4, 3, 0x80, 0x8F⟩
  else none

structure Pending where
  bytes : List UInt8
  expected : Lead

def extend? (pending : Pending) (byte : UInt8) : Option (Symbol ⊕ Pending) :=
  let ⟨payload, following, low, high⟩ := pending.expected
  if low ≤ byte ∧ byte ≤ high then
    let code := payload * 64 + (byte.toNat - 0x80)
    if following = 1 then some (.inl (.char (Char.ofNat code)))
    else some (.inr ⟨pending.bytes ++ [byte], code, following - 1, 0x80, 0xBF⟩)
  else none

/-- `position` counts the bytes before the rest, `done` holds the decoded
symbols in reverse. -/
def decodeFrom (position : Nat) (done : Text) : Option Pending → List UInt8 →
    Except Malformed Text
  | none, [] => .ok done.reverse
  | some pending, [] =>
      .error ⟨position - pending.bytes.length, pending.bytes, .unexpectedEnd⟩
  | none, byte :: rest =>
      if byte < 0x80 then
        decodeFrom (position + 1) (.char (Char.ofNat byte.toNat) :: done) none rest
      else match lead? byte with
        | none => .error ⟨position, [byte], .invalidStart⟩
        | some expected => decodeFrom (position + 1) done (some ⟨[byte], expected⟩) rest
  | some pending, byte :: rest =>
      match extend? pending byte with
      | none => .error ⟨position - pending.bytes.length, pending.bytes, .invalidContinuation⟩
      | some (.inl symbol) => decodeFrom (position + 1) (symbol :: done) none rest
      | some (.inr more) => decodeFrom (position + 1) done (some more) rest

def decode (bytes : List UInt8) : Except Malformed Text := decodeFrom 0 [] none bytes

/-- The bytes of the characters; a surrogate half has none. -/
def encode (text : Text) : List UInt8 :=
  text.flatMap fun symbol => match symbol with
    | .char c => String.utf8EncodeChar c
    | .surrogate _ => []

structure Unencodable where
  position : Nat
  first : Fin 0x800
  count : Nat
  deriving DecidableEq, Repr

def Unencodable.message (fault : Unencodable) : Text :=
  let place :=
    if fault.count = 1 then
      ("character '" : Text) ++ Text.escapedCode (0xD800 + fault.first) ++
        ("' in position " : Text) ++ Decimal.natural fault.position
    else
      ("characters in position " : Text) ++ Decimal.natural fault.position ++ ("-" : Text) ++
        Decimal.natural (fault.position + fault.count - 1)
  ("'utf-8' codec can't encode " : Text) ++ place ++ (": surrogates not allowed" : Text)

def isSurrogate : Symbol → Bool
  | .char _ => false
  | .surrogate _ => true

def unencodable? (position : Nat) : Text → Option Unencodable
  | [] => none
  | .char _ :: rest => unencodable? (position + 1) rest
  | .surrogate half :: rest => some ⟨position, half, (rest.takeWhile isSurrogate).length + 1⟩

section Names

-- A file name is any bytes. Those that are no UTF-8 are spelled with the surrogate
-- halves from U+DC80 on, one for each byte; no other half has a place in a name.

/-- The byte that a surrogate half stands for in a file name. -/
def escapedByte? (half : Fin 0x800) : Option UInt8 :=
  if 0x480 ≤ half.val ∧ half.val < 0x500 then some (UInt8.ofNat (half.val - 0x400)) else none

def escapedByte (byte : UInt8) : Symbol := .surrogate (Fin.ofNat 0x800 (0x400 + byte.toNat))

def unencodableName? (position : Nat) : Text → Option Unencodable
  | [] => none
  | .char _ :: rest => unencodableName? (position + 1) rest
  | .surrogate half :: rest =>
      match escapedByte? half with
      | some _ => unencodableName? (position + 1) rest
      | none => some ⟨position, half, (rest.takeWhile isSurrogate).length + 1⟩

/-- The bytes of a name; a half that stands for none has none. -/
def encodeName (name : Text) : List UInt8 :=
  name.flatMap fun symbol => match symbol with
    | .char c => String.utf8EncodeChar c
    | .surrogate half => (escapedByte? half).toList

def beginSymbol (byte : UInt8) : Text × Option Pending :=
  if byte < 0x80 then ([.char (Char.ofNat byte.toNat)], none)
  else match lead? byte with
    | none => ([escapedByte byte], none)
    | some expected => ([], some ⟨[byte], expected⟩)

def decodeNameFrom : Option Pending → List UInt8 → Text
  | none, [] => []
  | some pending, [] => pending.bytes.map escapedByte
  | none, byte :: rest =>
      let (text, next) := beginSymbol byte
      text ++ decodeNameFrom next rest
  | some pending, byte :: rest =>
      match extend? pending byte with
      | some (.inl symbol) => symbol :: decodeNameFrom none rest
      | some (.inr more) => decodeNameFrom (some more) rest
      | none =>
          let (text, next) := beginSymbol byte
          pending.bytes.map escapedByte ++ text ++ decodeNameFrom next rest

def decodeName (bytes : List UInt8) : Text := decodeNameFrom none bytes

/-- The one spelling of the bytes that a name stands for: halves that together make
up UTF-8 are the symbols they encode. -/
def sameName (name : Text) : Text := decodeName (encodeName name)

end Names

def universalNewlines : Text → Text
  | [] => []
  | .char '\r' :: .char '\n' :: rest => Text.newline :: universalNewlines rest
  | .char '\r' :: rest => Text.newline :: universalNewlines rest
  | symbol :: rest => symbol :: universalNewlines rest

end TreeReport.Utf8
