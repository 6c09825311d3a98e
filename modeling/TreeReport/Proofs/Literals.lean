import TreeReport.Proofs.CompactShape
import TreeReport.Proofs.NormalForm

/-!
Literal text ends by itself, and it tells the values apart that keys and set elements are
made of. Its first symbols tell the kind. A quoted text ends at its mark, as the mark is
escaped inside of it, and an escape gives the symbol it stands for back.
-/
namespace TreeReport

namespace Text

section Hexadecimal

def hexDigitValue (symbol : Symbol) : Nat :=
  if symbol.code < 0x3A then symbol.code - 0x30 else symbol.code - 0x57

def hexValue (digits : Text) : Nat :=
  digits.foldl (fun total digit => 16 * total + hexDigitValue digit) 0

theorem hex_length (width value : Nat) : (hex width value).length = width := by
  induction width generalizing value with
  | zero => rfl
  | succ width ih => rw [hex, List.length_append, ih]; rfl

theorem hexDigitValue_hexDigit {digit : Nat} (small : digit < 16) :
    hexDigitValue (hexDigit digit) = digit := by
  have each : ∀ digit < 16, hexDigitValue (hexDigit digit) = digit := by decide
  exact each digit small

theorem hexValue_hex (width value : Nat) : hexValue (hex width value) = value % 16 ^ width := by
  induction width generalizing value with
  | zero => rw [Nat.pow_zero, Nat.mod_one]; rfl
  | succ width ih =>
      have last := hexDigitValue_hexDigit (Nat.mod_lt value (show 0 < 16 by decide))
      have front := ih (value / 16)
      rw [hexValue] at front
      rw [hex, hexValue, List.foldl_append, front, List.foldl_cons, List.foldl_nil, last,
        Nat.pow_succ', Nat.mod_mul]
      omega

theorem hexValue_code (width : Nat) {code : Nat} (fits : code < 16 ^ width) (rest : Text) :
    hexValue ((hex width code ++ rest).take width) = code ∧
      (hex width code ++ rest).drop width = rest := by
  have size := hex_length width code
  rw [List.take_left' size, List.drop_left' size, hexValue_hex, Nat.mod_eq_of_lt fits]
  exact ⟨rfl, rfl⟩

end Hexadecimal

section Quoted

def readCode : Text → Nat × Text
  | [] => (0, [])
  | symbol :: rest =>
      if symbol = backslash then
        match rest with
        | [] => (symbol.code, [])
        | letter :: more =>
            if letter = .char 'x' then (hexValue (more.take 2), more.drop 2)
            else if letter = .char 'u' then (hexValue (more.take 4), more.drop 4)
            else if letter = .char 'U' then (hexValue (more.take 8), more.drop 8)
            else if letter = .char 't' then (0x09, more)
            else if letter = .char 'n' then (0x0A, more)
            else if letter = .char 'r' then (0x0D, more)
            else (letter.code, more)
      else (symbol.code, rest)

theorem symbol_code_lt (symbol : Symbol) : symbol.code < 0x110000 := by
  cases symbol with
  | char c =>
      have valid : c.toNat < 0xD800 ∨ 0xDFFF < c.toNat ∧ c.toNat < 0x110000 := c.valid
      simp only [Symbol.code]
      omega
  | surrogate half =>
      have inside := half.isLt
      simp only [Symbol.code]
      omega

theorem readCode_escapedCode {code : Nat} (valid : code < 0x110000) (rest : Text) :
    readCode (escapedCode code ++ rest) = (code, rest) := by
  have letters : Symbol.char 'u' ≠ .char 'x' ∧ Symbol.char 'U' ≠ .char 'x' ∧
      Symbol.char 'U' ≠ .char 'u' := by decide
  unfold escapedCode
  split
  · next short =>
      obtain ⟨value, behind⟩ := hexValue_code 2 short rest
      simp [readCode, value, behind]
  · split
    · next middle =>
        obtain ⟨value, behind⟩ := hexValue_code 4 middle rest
        simp [readCode, value, behind, letters]
    · obtain ⟨value, behind⟩ := hexValue_code 8
        (Nat.lt_trans valid (show 0x110000 < 16 ^ 8 by decide)) rest
      simp [readCode, value, behind, letters]

def IsMark (mark : Symbol) : Prop := mark = .char '\'' ∨ mark = .char '"'

theorem quoteMark_isMark (text : Text) : IsMark (quoteMark text) := by
  unfold quoteMark
  split
  · exact .inr rfl
  · exact .inl rfl

theorem readCode_quotedSymbol {mark : Symbol} (quote : IsMark mark) (symbol : Symbol)
    (rest : Text) : readCode (quotedSymbol mark symbol ++ rest) = (symbol.code, rest) := by
  unfold quotedSymbol
  split
  · next special =>
      have plain : ∀ letter : Symbol, letter = .char '\'' ∨ letter = .char '"' ∨
          letter = backslash → readCode ([backslash, letter] ++ rest) = (letter.code, rest) := by
        rintro letter (rfl | rfl | rfl) <;> rfl
      apply plain
      rcases special with rfl | rfl
      · exact quote.imp_right .inl
      · exact .inr (.inr rfl)
  · next bare =>
      rw [not_or] at bare
      split
      · next tab => rw [tab]; rfl
      · split
        · next newline => rw [newline]; rfl
        · split
          · next carriage => rw [carriage]; rfl
          · split
            · simp [readCode, bare.2]
            · exact readCode_escapedCode (symbol_code_lt symbol) rest

theorem escapedCode_head (code : Nat) : ∃ more, escapedCode code = backslash :: more := by
  unfold escapedCode
  repeat' split
  · exact ⟨_, rfl⟩
  · exact ⟨_, rfl⟩
  · exact ⟨_, rfl⟩

theorem quotedSymbol_head {mark : Symbol} (quote : IsMark mark) (symbol : Symbol) :
    ∃ first more, quotedSymbol mark symbol = first :: more ∧ first ≠ mark := by
  have slash : backslash ≠ mark := by
    rcases quote with rfl | rfl <;> decide
  unfold quotedSymbol
  split
  · exact ⟨_, _, rfl, slash⟩
  · next bare =>
      rw [not_or] at bare
      repeat' split
      · exact ⟨_, _, rfl, slash⟩
      · exact ⟨_, _, rfl, slash⟩
      · exact ⟨_, _, rfl, slash⟩
      · exact ⟨_, _, rfl, bare.1⟩
      · obtain ⟨more, shape⟩ := escapedCode_head symbol.code
        exact ⟨backslash, more, shape, slash⟩

structure Marked {α : Type} (mark : Symbol) (shown : α → Text) (code : α → Nat) : Prop where
  reads : ∀ part rest, readCode (shown part ++ rest) = (code part, rest)
  head : ∀ part, ∃ first more, shown part = first :: more ∧ first ≠ mark

theorem Marked.cut {α : Type} {mark : Symbol} {shown : α → Text} {code : α → Nat}
    (marked : Marked mark shown code) (apart : ∀ part other, code part = code other → part = other)
    {parts others : List α} {left right : Text}
    (same : parts.flatMap shown ++ mark :: left = others.flatMap shown ++ mark :: right) :
    parts = others ∧ left = right := by
  induction parts generalizing others with
  | nil =>
      cases others with
      | nil => exact ⟨rfl, (List.cons.inj same).2⟩
      | cons other more =>
          obtain ⟨first, tail, shape, bare⟩ := marked.head other
          rw [List.flatMap_cons, shape] at same
          exact absurd (List.cons.inj same).1.symm bare
  | cons part rest ih =>
      cases others with
      | nil =>
          obtain ⟨first, tail, shape, bare⟩ := marked.head part
          rw [List.flatMap_cons, shape] at same
          exact absurd (List.cons.inj same).1 bare
      | cons other more =>
          rw [List.flatMap_cons, List.flatMap_cons, List.append_assoc, List.append_assoc] at same
          have read := congrArg readCode same
          rw [marked.reads, marked.reads] at read
          obtain ⟨codes, behind⟩ := Prod.mk.inj read
          obtain ⟨lists, rests⟩ := ih behind
          exact ⟨by rw [apart part other codes, lists], rests⟩

theorem marked_symbols {mark : Symbol} (quote : IsMark mark) :
    Marked mark (quotedSymbol mark) Symbol.code :=
  ⟨readCode_quotedSymbol quote, quotedSymbol_head quote⟩

theorem quoted_cut {first second left right : Text}
    (same : quoted first ++ left = quoted second ++ right) : first = second ∧ left = right := by
  have quote := quoteMark_isMark second
  simp only [quoted, List.cons_append, List.append_assoc] at same
  obtain ⟨marks, inner⟩ := List.cons.inj same
  rw [marks] at inner
  exact (marked_symbols quote).cut (fun _ _ codes => code_injective codes) inner

theorem marked_bytes {mark : Symbol} (quote : IsMark mark) :
    Marked mark (quotedByte mark) UInt8.toNat := by
  have codes : ∀ n < 0x7F, (Symbol.char (Char.ofNat n)).code = n := by decide
  have slash : backslash ≠ mark := by
    rcases quote with rfl | rfl <;> decide
  constructor
  · intro byte rest
    simp only [quotedByte]
    split
    · next printed =>
        have small : byte.toNat < 0x7F := UInt8.lt_iff_toNat_lt.mp printed
        rw [readCode_quotedSymbol quote, codes byte.toNat small]
    · exact readCode_escapedCode (Nat.lt_trans byte.toNat_lt (by decide)) rest
  · intro byte
    simp only [quotedByte]
    split
    · exact quotedSymbol_head quote _
    · obtain ⟨more, shape⟩ := escapedCode_head byte.toNat
      exact ⟨backslash, more, shape, slash⟩

theorem quotedBytes_cut {first second : List UInt8} {left right : Text}
    (same : quotedBytes first ++ left = quotedBytes second ++ right) :
    first = second ∧ left = right := by
  have quote := quoteMark_isMark (second.map fun byte => .char (Char.ofNat byte.toNat))
  simp only [quotedBytes, List.cons_append, List.append_assoc] at same
  obtain ⟨marks, inner⟩ := List.cons.inj (List.cons.inj same).2
  rw [marks] at inner
  exact (marked_bytes quote).cut (fun _ _ codes => UInt8.toNat.inj codes) inner

end Quoted

end Text

namespace Value

/-- What keys and the elements of sets are made of: scalars, and tuples of such. -/
inductive Element : Value → Prop where
  | null : Element .null
  | bool (b : Bool) : Element (.bool b)
  | int (n : Int) : Element (.int n)
  | float (x : Binary64) : Element (.float x)
  | str (text : Text) : Element (.str text)
  | bytes (content : List UInt8) : Element (.bytes content)
  | tuple {items : List Value} (all : ∀ item ∈ items, Element item) :
      Element (.sequence .tuple items)

inductive LiteralKind where
  | null
  | bool (b : Bool)
  | number
  | nan
  | infinite (negative : Bool)
  | text
  | bytes
  | tuple
  deriving DecidableEq

def literalKind : Value → LiteralKind
  | .null => .null
  | .bool b => .bool b
  | .float .nan => .nan
  | .float (.infinite negative) => .infinite negative
  | .str _ => .text
  | .bytes _ => .bytes
  | .sequence _ _ => .tuple
  | _ => .number

def literalKind? : Text → Option LiteralKind
  | [] => none
  | first :: rest =>
      if Text.isAsciiDigit first then some .number
      else if first = .char '-' then
        if rest.head? = some (.char 'i') then some (.infinite true) else some .number
      else if first = .char 'N' then some .null
      else if first = .char 'T' then some (.bool true)
      else if first = .char 'F' then some (.bool false)
      else if first = .char 'n' then some .nan
      else if first = .char 'i' then some (.infinite false)
      else if first = .char '\'' || first = .char '"' then some .text
      else if first = .char 'b' then some .bytes
      else if first = .char '(' then some .tuple
      else none

section Numbers

theorem number_literal {value : Value} (element : Element value)
    (number : value.literalKind = .number) :
    Json.Writable value.normal ∧ value.normal.kind = .number ∧
      value.literal = value.normal.compact ∧ ofJson value.normal = value := by
  cases element with
  | int n => exact ⟨.int n, rfl, rfl, rfl⟩
  | float x =>
      cases x with
      | finite negative exponent fraction => exact ⟨.float rfl, rfl, rfl, rfl⟩
      | _ => contradiction
  | _ => contradiction

theorem literalKind_number {value : Value} (element : Element value)
    (number : value.literalKind = .number) (rest : Text) :
    literalKind? (value.literal ++ rest) = some .number := by
  obtain ⟨writable, kind, literal, -⟩ := number_literal element number
  obtain ⟨numeral, spelled, spells⟩ := Json.number_spelled writable kind
  have sign : Text.isAsciiDigit (.char '-') = false := by decide
  rw [literal, ← spelled]
  obtain ⟨digit, more, digital, plain | signed⟩ := Json.spelled_head spells.whole
  · simp [plain, literalKind?, digital]
  · have apart : digit ≠ .char 'i' := by
      rintro rfl
      exact absurd digital (by decide)
    simp [signed, literalKind?, sign, apart]

end Numbers

theorem literalKind_literal {value : Value} (element : Element value) (rest : Text) :
    literalKind? (value.literal ++ rest) = some value.literalKind := by
  by_cases number : value.literalKind = .number
  · rw [number]
    exact literalKind_number element number rest
  · cases element with
    | null => rfl
    | bool b => cases b <;> rfl
    | int n => exact absurd rfl number
    | float x =>
        cases x with
        | nan => rfl
        | infinite negative => cases negative <;> rfl
        | finite negative exponent fraction => exact absurd rfl number
    | str text =>
        rcases Text.quoteMark_isMark text with mark | mark <;>
          simp only [literal, Text.quoted, mark] <;> rfl
    | bytes content => rfl
    | @tuple items all =>
        rw [literal]
        unfold tupleText
        split <;> rfl

section Cut

theorem kind_of_literals {first second : Value} (one : Element first) (two : Element second)
    {left right : Text} (same : first.literal ++ left = second.literal ++ right) :
    first.literalKind = second.literalKind := by
  have kinds := congrArg literalKind? same
  rw [literalKind_literal one, literalKind_literal two] at kinds
  exact Option.some.inj kinds

def tupleRest : List Text → Text
  | [] => ")"
  | item :: rest => (", " : Text) ++ item ++ tupleRest rest

def tupleEnd : List Text → Text
  | [] => ",)"
  | item :: rest => tupleRest (item :: rest)

theorem commas_tupleRest (first : Text) (rest : List Text) :
    commas (first :: rest) ++ (")" : Text) = first ++ tupleRest rest := by
  induction rest generalizing first with
  | nil => rfl
  | cons second more ih =>
      rw [tupleRest, List.append_assoc _ second, ← ih, commas, Text.joinWith_cons _ _ (by simp),
        ← commas]
      simp

theorem tupleText_cons (first : Text) (rest : List Text) :
    tupleText (first :: rest) = ("(" : Text) ++ (first ++ tupleEnd rest) := by
  cases rest with
  | nil => exact List.append_assoc ..
  | cons second more =>
      rw [tupleEnd, ← commas_tupleRest, ← List.append_assoc]
      rfl

theorem stops_tupleRest (items : List Text) (rest : Text) :
    Json.Stops (tupleRest items ++ rest) := by
  cases items with
  | nil => exact Json.stops_cons.mpr (by decide)
  | cons item more => exact Json.stops_comma _

theorem stops_tupleEnd (items : List Text) (rest : Text) :
    Json.Stops (tupleEnd items ++ rest) := by
  cases items with
  | nil => exact Json.stops_comma _
  | cons item more => exact Json.stops_comma _

theorem tupleRest_cut {items others : List Value}
    (cuts : ∀ item ∈ items, Json.Cuts literal Element item) (all : ∀ other ∈ others, Element other)
    {left right : Text} (same : tupleRest (items.map literal) ++ left =
      tupleRest (others.map literal) ++ right) : items = others ∧ left = right := by
  have apart : Symbol.char ')' ≠ .char ',' := by decide
  induction items generalizing others with
  | nil =>
      cases others with
      | nil => exact ⟨rfl, List.append_cancel_left same⟩
      | cons other more => exact absurd (List.cons.inj same).1 apart
  | cons item rest ih =>
      cases others with
      | nil => exact absurd (List.cons.inj same).1 (Ne.symm apart)
      | cons other more =>
          simp only [List.map_cons, tupleRest, List.append_assoc] at same
          obtain ⟨heads, behind⟩ := cuts item (by simp) other (all other (by simp)) _ _
            (stops_tupleRest _ _) (stops_tupleRest _ _) (List.append_cancel_left same)
          obtain ⟨tails, rests⟩ := ih (fun item inside => cuts item (List.mem_cons_of_mem _ inside))
            (fun other inside => all other (List.mem_cons_of_mem _ inside)) behind
          exact ⟨by rw [heads, tails], rests⟩

theorem tupleEnd_cut {items others : List Value}
    (cuts : ∀ item ∈ items, Json.Cuts literal Element item) (all : ∀ other ∈ others, Element other)
    {left right : Text} (same : tupleEnd (items.map literal) ++ left =
      tupleEnd (others.map literal) ++ right) : items = others ∧ left = right := by
  have apart : Symbol.char ')' ≠ .char ' ' := by decide
  cases items with
  | nil =>
      cases others with
      | nil => exact ⟨rfl, List.append_cancel_left same⟩
      | cons other more => exact absurd (List.cons.inj (List.cons.inj same).2).1 apart
  | cons item rest =>
      cases others with
      | nil => exact absurd (List.cons.inj (List.cons.inj same).2).1 (Ne.symm apart)
      | cons other more => exact tupleRest_cut cuts all same

theorem literal_not_closing {value : Value} (element : Element value) (rest more : Text) :
    .char ')' :: more ≠ value.literal ++ rest := by
  intro same
  have kind := congrArg literalKind? same
  rw [literalKind_literal element] at kind
  cases kind

theorem tuple_cut {items others : List Value}
    (cuts : ∀ item ∈ items, Json.Cuts literal Element item) (good : ∀ item ∈ items, Element item)
    (all : ∀ other ∈ others, Element other) {left right : Text}
    (same : tupleText (items.map literal) ++ left = tupleText (others.map literal) ++ right) :
    items = others ∧ left = right := by
  cases items with
  | nil =>
      cases others with
      | nil => exact ⟨rfl, List.append_cancel_left same⟩
      | cons other more =>
          rw [List.map_cons, tupleText_cons, List.append_assoc, List.append_assoc] at same
          exact absurd (List.cons.inj same).2 (literal_not_closing (all other (by simp)) _ _)
  | cons item rest =>
      cases others with
      | nil =>
          rw [List.map_cons, tupleText_cons, List.append_assoc, List.append_assoc] at same
          exact absurd (List.cons.inj same).2.symm (literal_not_closing (good item (by simp)) _ _)
      | cons other more =>
          simp only [List.map_cons, tupleText_cons, List.append_assoc] at same
          obtain ⟨heads, behind⟩ := cuts item (by simp) other (all other (by simp)) _ _
            (stops_tupleEnd _ _) (stops_tupleEnd _ _) (List.append_cancel_left same)
          obtain ⟨tails, rests⟩ := tupleEnd_cut
            (fun item inside => cuts item (List.mem_cons_of_mem _ inside))
            (fun other inside => all other (List.mem_cons_of_mem _ inside)) behind
          exact ⟨by rw [heads, tails], rests⟩

-- The literals of numbers are the compact texts of their normal forms.
theorem number_cut {value : Value} (element : Element value)
    (number : value.literalKind = .number) : Json.Cuts literal Element value := by
  intro other fine left right stopLeft stopRight same
  have kinds := kind_of_literals element fine same
  obtain ⟨writable, kind, text, back⟩ := number_literal element number
  obtain ⟨otherWritable, -, otherText, otherBack⟩ := number_literal fine (kinds ▸ number)
  rw [text, otherText] at same
  obtain ⟨forms, rests⟩ := Json.number_cut writable kind _ otherWritable _ _ stopLeft stopRight same
  exact ⟨by rw [← back, ← otherBack, forms], rests⟩

def wordOf? : LiteralKind → Option Value
  | .null => some .null
  | .bool b => some (.bool b)
  | .nan => some (.float .nan)
  | .infinite negative => some (.float (.infinite negative))
  | _ => none

theorem eq_of_wordOf {value word : Value} (element : Element value)
    (found : wordOf? value.literalKind = some word) : value = word := by
  cases element with
  | null | bool b => exact Option.some.inj found
  | float x =>
      cases x with
      | nan | infinite negative => exact Option.some.inj found
      | finite negative exponent fraction => cases found
  | int n | str text | bytes content | tuple all => cases found

theorem word_cut {value : Value} (element : Element value)
    (word : wordOf? value.literalKind = some value) : Json.Cuts literal Element value := by
  intro other fine left right _ _ same
  rw [kind_of_literals element fine same] at word
  have equal := eq_of_wordOf fine word
  subst equal
  exact ⟨rfl, List.append_cancel_left same⟩

theorem cases_kind {value : Value} (element : Element value) :
    (value.literalKind = .text → ∃ text, value = .str text) ∧
      (value.literalKind = .bytes → ∃ content, value = .bytes content) ∧
      (value.literalKind = .tuple →
        ∃ items, value = .sequence .tuple items ∧ ∀ item ∈ items, Element item) := by
  cases element with
  | str text => simp [literalKind]
  | bytes content => simp [literalKind]
  | tuple all => simpa [literalKind] using all
  | bool b => cases b <;> simp [literalKind]
  | float x => cases x <;> simp [literalKind]
  | _ => simp [literalKind]

/-- Literal text determines the element and where its text ends. -/
theorem literal_cut {value : Value} (element : Element value) :
    Json.Cuts literal Element value := by
  -- The first symbols give the kind; the items of a tuple are cut by induction.
  induction element with
  | null => exact word_cut .null rfl
  | bool b => exact word_cut (.bool b) rfl
  | int n => exact number_cut (.int n) rfl
  | float x =>
      cases x with
      | nan => exact word_cut (.float _) rfl
      | infinite negative => exact word_cut (.float _) rfl
      | finite negative exponent fraction => exact number_cut (.float _) rfl
  | str text =>
      intro other fine left right _ _ same
      obtain ⟨second, rfl⟩ := (cases_kind fine).1 (kind_of_literals (.str text) fine same).symm
      obtain ⟨texts, rests⟩ := Text.quoted_cut same
      exact ⟨by rw [texts], rests⟩
  | bytes content =>
      intro other fine left right _ _ same
      obtain ⟨second, rfl⟩ :=
        (cases_kind fine).2.1 (kind_of_literals (.bytes content) fine same).symm
      obtain ⟨contents, rests⟩ := Text.quotedBytes_cut same
      exact ⟨by rw [contents], rests⟩
  | tuple all ih =>
      intro other fine left right _ _ same
      obtain ⟨others, rfl, good⟩ :=
        (cases_kind fine).2.2 (kind_of_literals (.tuple all) fine same).symm
      rw [literal, literal, literals_map, literals_map] at same
      obtain ⟨lists, rests⟩ := tuple_cut ih all good same
      exact ⟨by rw [lists], rests⟩

/-- Elements with the same literal are the same. -/
theorem literal_injective {first second : Value} (one : Element first) (two : Element second)
    (same : first.literal = second.literal) : first = second := by
  have nothing : Json.Stops [] := by simp [Json.Stops]
  exact (literal_cut one second two [] [] nothing nothing (by rw [same])).1

end Cut

end Value

end TreeReport
