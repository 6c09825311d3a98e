import TreeReport.Json

/-! Reading documents. Every step gives back a strictly shorter rest, which is
what makes the recursion end. A fault keeps the text from the offending place
on, so its line is found by counting the newlines that were passed. -/
namespace TreeReport.Json

inductive Cause where
  | byteOrderMark
  | expectingValue
  | expectingName
  | expectingColon
  | expectingComma
  | extraData
  | unterminatedText
  | controlCharacter
  | invalidEscape
  | invalidCodeEscape
  deriving DecidableEq, Repr

def Cause.message : Cause → Text
  | .byteOrderMark => "Unexpected UTF-8 BOM (decode using utf-8-sig)"
  | .expectingValue => "Expecting value"
  | .expectingName => "Expecting property name enclosed in double quotes"
  | .expectingColon => "Expecting ':' delimiter"
  | .expectingComma => "Expecting ',' delimiter"
  | .extraData => "Extra data"
  | .unterminatedText => "Unterminated string starting at"
  | .controlCharacter => "Invalid control character at"
  | .invalidEscape => "Invalid \\escape"
  | .invalidCodeEscape => "Invalid \\uXXXX escape"

inductive Fault where
  | malformed (cause : Cause) (rest : Text)
  | hugeInteger (digits : Nat)
  deriving DecidableEq, Repr

abbrev Rest (text : Text) := { rest : Text // rest.length < text.length }

def isBlank (symbol : Symbol) : Bool :=
  symbol = .char ' ' || symbol = .char '\t' || symbol = .char '\n' || symbol = .char '\r'

def skipBlank (text : Text) : Text := text.dropWhile isBlank

theorem skipBlank_length (text : Text) : (skipBlank text).length ≤ text.length :=
  (List.dropWhile_sublist _).length_le

section TextLiteral

/-- A symbol of a text literal, or a code given by an escape, which may be half
of a surrogate pair. -/
inductive Piece where
  | plain (symbol : Symbol)
  | coded (code : Nat)
  deriving DecidableEq, Repr

def hexValue? (symbol : Symbol) : Option Nat :=
  let code := symbol.code
  if 0x30 ≤ code ∧ code < 0x3A then some (code - 0x30)
  else if 0x61 ≤ code ∧ code < 0x67 then some (code - 0x57)
  else if 0x41 ≤ code ∧ code < 0x47 then some (code - 0x37)
  else none

def hexCode? (digits : Text) : Option Nat :=
  (digits.mapM hexValue?).map fun values => values.foldl (fun code value => 16 * code + value) 0

def escapeLetter? : Symbol → Option Symbol
  | .char '"' => some (.char '"')
  | .char '\\' => some (.char '\\')
  | .char '/' => some (.char '/')
  | .char 'b' => some (.char '\x08')
  | .char 'f' => some (.char '\x0c')
  | .char 'n' => some (.char '\n')
  | .char 'r' => some (.char '\r')
  | .char 't' => some (.char '\t')
  | _ => none

def prepend (piece : Piece) (found : List Piece × Text) : List Piece × Text :=
  (piece :: found.1, found.2)

/-- The inside of a text literal up to its closing quote. The four digits of a
code escape count only if something follows them. -/
def pieces : Text → Except Cause (List Piece × Text)
  | [] => .error .unterminatedText
  | symbol :: rest =>
      if symbol = .char '"' then .ok ([], rest)
      else if symbol = Text.backslash then
        match rest with
        | [] => .error .unterminatedText
        | letter :: body =>
            if letter = .char 'u' then
              match body with
              | a :: b :: c :: d :: next :: more =>
                  match hexCode? [a, b, c, d] with
                  | none => .error .invalidCodeEscape
                  | some code => (pieces (next :: more)).map (prepend (.coded code))
              | _ => .error .invalidCodeEscape
            else
              match escapeLetter? letter with
              | none => .error .invalidEscape
              | some meant => (pieces body).map (prepend (.plain meant))
      else if symbol.code < 0x20 then .error .controlCharacter
      else (pieces rest).map (prepend (.plain symbol))
termination_by structural text => text

def isHigh (code : Nat) : Bool := 0xD800 ≤ code && code < 0xDC00

def isLow (code : Nat) : Bool := 0xDC00 ≤ code && code < 0xE000

def coded (code : Nat) : Symbol := (Symbol.ofCode? code).getD (.char '\x00')

/-- Two codes that form a surrogate pair are one symbol. -/
def joinPairs : List Piece → Text
  | [] => []
  | .plain symbol :: rest => symbol :: joinPairs rest
  | [.coded code] => [coded code]
  | .coded high :: .plain symbol :: rest => coded high :: symbol :: joinPairs rest
  | .coded high :: .coded low :: rest =>
      if isHigh high && isLow low then
        coded (0x10000 + (high - 0xD800) * 0x400 + (low - 0xDC00)) :: joinPairs rest
      else coded high :: joinPairs (.coded low :: rest)

theorem pieces_shorter {text : Text} {found : List Piece × Text}
    (read : pieces text = .ok found) : found.2.length < text.length := by
  have step : ∀ {body : Text} {piece : Piece} {found : List Piece × Text},
      (∀ {inner}, pieces body = .ok inner → inner.2.length < body.length) →
      (pieces body).map (prepend piece) = .ok found → found.2.length < body.length := by
    intro body piece found shorter read
    cases inside : pieces body with
    | error cause => simp [inside, Except.map] at read
    | ok inner =>
        simp only [inside, Except.map, Except.ok.injEq] at read
        subst read
        exact (shorter inside : inner.2.length < body.length)
  fun_induction pieces text generalizing found
  all_goals first
    | contradiction
    | (cases read; simp)
    | exact Nat.lt_of_lt_of_le (step (by assumption) read) (by simp; try omega)

end TextLiteral

section Number

structure Numeral where
  negative : Bool
  whole : Text
  fraction : Text
  exponent : Option Int
  deriving DecidableEq, Repr

def splitDigits (text : Text) : Text × Text :=
  (text.takeWhile Text.isAsciiDigit, text.dropWhile Text.isAsciiDigit)

def splitSign : Text → Bool × Text
  | .char '-' :: rest => (true, rest)
  | text => (false, text)

/-- A leading zero stands alone. -/
def splitWhole? : Text → Option (Text × Text)
  | .char '0' :: rest => some ([.char '0'], rest)
  | text =>
      let (digits, rest) := splitDigits text
      if digits.isEmpty then none else some (digits, rest)

/-- Without a digit after it the point is left where it stands. -/
def splitFraction : Text → Text × Text
  | .char '.' :: rest =>
      let (digits, after) := splitDigits rest
      if digits.isEmpty then ([], .char '.' :: rest) else (digits, after)
  | text => ([], text)

def splitExponentSign : Text → Bool × Text
  | .char '-' :: rest => (true, rest)
  | .char '+' :: rest => (false, rest)
  | text => (false, text)

/-- Without a digit in it the exponent is left where it stands. -/
def splitExponent : Text → Option Int × Text
  | [] => (none, [])
  | symbol :: rest =>
      if symbol = .char 'e' ∨ symbol = .char 'E' then
        let (negative, body) := splitExponentSign rest
        let (digits, after) := splitDigits body
        if digits.isEmpty then (none, symbol :: rest)
        else
          let size : Int := Decimal.valueOf digits
          (some (if negative then -size else size), after)
      else (none, symbol :: rest)

def numeral? (text : Text) : Option (Numeral × Text) :=
  let (negative, body) := splitSign text
  (splitWhole? body).map fun (whole, tail) =>
    let (fraction, tail) := splitFraction tail
    let (exponent, tail) := splitExponent tail
    (⟨negative, whole, fraction, exponent⟩, tail)

def Numeral.value (numeral : Numeral) : Except Fault Json :=
  match numeral.fraction, numeral.exponent with
  | [], none =>
      if Decimal.digitLimit < numeral.whole.length then .error (.hugeInteger numeral.whole.length)
      else
        let size : Int := Decimal.valueOf numeral.whole
        .ok (.int (if numeral.negative then -size else size))
  | fraction, exponent =>
      .ok (.float (Binary64.ofDecimal numeral.negative
        (Decimal.valueOf (numeral.whole ++ fraction)) (exponent.getD 0 - fraction.length)))

theorem splitDigits_length (text : Text) : (splitDigits text).2.length ≤ text.length :=
  (List.dropWhile_sublist _).length_le

theorem splitDigits_shorter {text : Text} (found : (splitDigits text).1.isEmpty = false) :
    (splitDigits text).2.length < text.length := by
  have whole := congrArg List.length
    (List.takeWhile_append_dropWhile (p := Text.isAsciiDigit) (l := text))
  have some : 0 < (text.takeWhile Text.isAsciiDigit).length := by
    cases h : text.takeWhile Text.isAsciiDigit with
    | nil => simp [splitDigits, h] at found
    | cons first rest => simp
  simp only [List.length_append] at whole
  simp only [splitDigits]
  omega

theorem splitSign_length (text : Text) : (splitSign text).2.length ≤ text.length := by
  unfold splitSign
  split <;> simp

theorem splitWhole_shorter {text : Text} {found : Text × Text}
    (read : splitWhole? text = some found) : found.2.length < text.length := by
  unfold splitWhole? at read
  split at read
  · cases read
    simp
  · simp only at read
    split at read
    · contradiction
    · next nonempty =>
        cases read
        exact splitDigits_shorter (by simpa using nonempty)

theorem splitFraction_length (text : Text) : (splitFraction text).2.length ≤ text.length := by
  unfold splitFraction
  split
  · next rest =>
      simp only
      split
      · simp
      · have := splitDigits_length rest
        simp only [List.length_cons]
        omega
  · simp

theorem splitExponentSign_length (text : Text) :
    (splitExponentSign text).2.length ≤ text.length := by
  unfold splitExponentSign
  split <;> simp

theorem splitExponent_length (text : Text) : (splitExponent text).2.length ≤ text.length := by
  unfold splitExponent
  split
  · simp
  · next symbol rest =>
      split
      · simp only
        split
        · simp
        · have sign := splitExponentSign_length rest
          have digits := splitDigits_length (splitExponentSign rest).2
          simp only [List.length_cons]
          omega
      · simp

theorem numeral_shorter {text : Text} {found : Numeral × Text}
    (read : numeral? text = some found) : found.2.length < text.length := by
  simp only [numeral?, Option.map_eq_some_iff] at read
  obtain ⟨whole, some, rfl⟩ := read
  have sign := splitSign_length text
  have digits := splitWhole_shorter some
  have fraction := splitFraction_length whole.2
  have exponent := splitExponent_length (splitFraction whole.2).2
  simp only
  omega

end Number

section Document

def words : List (Text × Json) := [
  ("null", .null), ("true", .bool true), ("false", .bool false), ("NaN", .float .nan),
  ("Infinity", .float (.infinite false)), ("-Infinity", .float (.infinite true))]

def word? (text : Text) : Option (Text × Json) :=
  words.find? fun word => Text.startsWith word.1 text

theorem word_shorter {text : Text} {word : Text × Json} (found : word? text = some word) :
    (text.drop word.1.length).length < text.length := by
  have member := List.mem_of_find?_eq_some found
  have opens : word.1.isPrefixOf text = true :=
    List.find?_some (p := fun word : Text × Json => Text.startsWith word.1 text) found
  have bound := (List.isPrefixOf_iff_prefix.mp opens).length_le
  have nonempty : ∀ word ∈ words, 0 < word.1.length := by decide
  have positive := nonempty word member
  simp only [List.length_drop]
  omega

def readText (body : Text) : Except Cause (Text × Rest body) :=
  match read : pieces body with
  | .error cause => .error cause
  | .ok found => .ok (joinPairs found.1, ⟨found.2, pieces_shorter read⟩)

def readScalar (text : Text) : Except Fault (Json × Rest text) :=
  match found : word? text with
  | some word => .ok (word.2, ⟨text.drop word.1.length, word_shorter found⟩)
  | none =>
      match read : numeral? text with
      | none => .error (.malformed .expectingValue text)
      | some numeral =>
          numeral.1.value.map fun value => (value, ⟨numeral.2, numeral_shorter read⟩)

def Rest.within {text longer : Text} (bound : text.length ≤ longer.length) (rest : Rest text) :
    Rest longer :=
  ⟨rest.val, Nat.lt_of_lt_of_le rest.property bound⟩

def behind? (wanted : Symbol) (text : Text) : Option (Rest text) :=
  match shape : skipBlank text with
  | [] => none
  | symbol :: rest =>
      if symbol = wanted then
        some ⟨rest, Nat.lt_of_lt_of_le (by simp [shape]) (skipBlank_length text)⟩
      else none

def readQuoted (text : Text) : Except Fault (Text × Rest text) :=
  match text with
  | [] => .error (.malformed .expectingName [])
  | symbol :: body =>
      if symbol = .char '"' then
        match readText body with
        | .error cause => .error (.malformed cause (symbol :: body))
        | .ok (found, rest) => .ok (found, rest.within (by simp))
      else .error (.malformed .expectingName (symbol :: body))

mutual

def readValue (text : Text) : Except Fault (Json × Rest text) :=
  match text with
  | [] => .error (.malformed .expectingValue [])
  | symbol :: body =>
      have bound := skipBlank_length body
      if symbol = .char '"' then
        (readQuoted (symbol :: body)).map fun (found, rest) => (.str found, rest)
      else if symbol = .char '[' then
        match behind? (.char ']') body with
        | some after => .ok (.array [], after.within (by simp))
        | none =>
            match readItems (skipBlank body) with
            | .error fault => .error fault
            | .ok (items, rest) => .ok (.array items, rest.within (by simp; omega))
      else if symbol = .char '{' then
        match behind? (.char '}') body with
        | some after => .ok (.object [], after.within (by simp))
        | none =>
            match readMembers (skipBlank body) with
            | .error fault => .error fault
            | .ok (members, rest) =>
                .ok (.object (collectMembers members), rest.within (by simp; omega))
      else readScalar (symbol :: body)
termination_by 2 * text.length
decreasing_by all_goals (simp_all; omega)

def readItems (text : Text) : Except Fault (List Json × Rest text) :=
  match readValue text with
  | .error fault => .error fault
  | .ok (item, rest) =>
      have shorter := rest.property
      match behind? (.char ']') rest.val with
      | some after => .ok ([item], after.within (by omega))
      | none =>
          match behind? (.char ',') rest.val with
          | none => .error (.malformed .expectingComma (skipBlank rest.val))
          | some after =>
              have inside := after.property
              have bound := skipBlank_length after.val
              match readItems (skipBlank after.val) with
              | .error fault => .error fault
              | .ok (items, last) => .ok (item :: items, last.within (by omega))
termination_by 2 * text.length + 1
decreasing_by all_goals omega

def readMembers (text : Text) : Except Fault (List (Text × Json) × Rest text) :=
  match readQuoted text with
  | .error fault => .error fault
  | .ok (name, named) =>
      have shorter := named.property
      match behind? (.char ':') named.val with
      | none => .error (.malformed .expectingColon (skipBlank named.val))
      | some opened =>
          have inside := opened.property
          have bound := skipBlank_length opened.val
          match readValue (skipBlank opened.val) with
          | .error fault => .error fault
          | .ok (value, rest) =>
              have within := rest.property
              match behind? (.char '}') rest.val with
              | some after => .ok ([(name, value)], after.within (by omega))
              | none =>
                  match behind? (.char ',') rest.val with
                  | none => .error (.malformed .expectingComma (skipBlank rest.val))
                  | some after =>
                      have further := after.property
                      have blanks := skipBlank_length after.val
                      match readMembers (skipBlank after.val) with
                      | .error fault => .error fault
                      | .ok (members, last) =>
                          .ok ((name, value) :: members, last.within (by omega))
termination_by 2 * text.length + 1
decreasing_by all_goals omega

end

def read (text : Text) : Except Fault Json :=
  if Text.startsWith [.char '\uFEFF'] text then .error (.malformed .byteOrderMark text)
  else
    match readValue (skipBlank text) with
    | .error fault => .error fault
    | .ok (document, rest) =>
        match skipBlank rest.val with
        | [] => .ok document
        | extra => .error (.malformed .extraData extra)

def lineOf (text rest : Text) : Nat :=
  1 + (text.take (text.length - rest.length)).count Text.newline

end Document

end TreeReport.Json
