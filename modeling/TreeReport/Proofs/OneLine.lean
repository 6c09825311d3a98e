import TreeReport.CompactText

/-!
Compact text is a single line: controls are always escaped, so no symbol below
the space, a newline or an escape among them, stands in it.
-/
namespace TreeReport

/-- No control stands in the text. -/
def Text.Visible (text : Text) : Prop := ∀ symbol ∈ text, 0x20 ≤ symbol.code

instance (text : Text) : Decidable text.Visible :=
  inferInstanceAs (Decidable (∀ symbol ∈ text, 0x20 ≤ symbol.code))

namespace Text

@[simp] theorem visible_nil : Visible [] := by simp [Visible]

@[simp] theorem visible_cons (symbol : Symbol) (rest : Text) :
    Visible (symbol :: rest) ↔ 0x20 ≤ symbol.code ∧ Visible rest := by
  simp [Visible]

@[simp] theorem visible_append (first second : Text) :
    Visible (first ++ second) ↔ Visible first ∧ Visible second := by
  simp [Visible, or_imp, forall_and]

theorem visible_replicate {symbol : Symbol} (count : Nat) (shown : 0x20 ≤ symbol.code) :
    Visible (List.replicate count symbol) := by
  intro other member
  rw [List.eq_of_mem_replicate member]
  exact shown

theorem visible_joinWith {separator : Text} {pieces : List Text} (apart : Visible separator)
    (all : ∀ piece ∈ pieces, Visible piece) : Visible (joinWith separator pieces) := by
  intro symbol member
  rcases mem_joinWith member with between | ⟨piece, listed, inside⟩
  · exact apart symbol between
  · exact all piece listed symbol inside

theorem newline_not_mem {text : Text} (visible : Visible text) : newline ∉ text :=
  fun member => absurd (visible newline member) (by decide)

end Text

namespace Decimal

theorem natural_digits (n : Nat) : ∀ symbol ∈ natural n, Text.isAsciiDigit symbol = true := by
  intro symbol member
  obtain ⟨c, inside, rfl⟩ := List.mem_map.mp member
  have digit : c.isDigit = true := Nat.isDigit_of_mem_toDigits (by decide) (by decide) inside
  have bounds : 0x30 ≤ c.toNat ∧ c.toNat ≤ 0x39 := by
    simpa [Char.isDigit, UInt32.le_iff_toNat_le] using digit
  have inRange : 0x30 ≤ (Symbol.char c).code ∧ (Symbol.char c).code < 0x3A := by
    simp only [Symbol.code]
    omega
  simp [Text.isAsciiDigit, Text.asciiDigit?, inRange]

theorem natural_visible (n : Nat) : Text.Visible (natural n) := by
  intro symbol member
  have digit := natural_digits n symbol member
  simp only [Text.isAsciiDigit, Text.asciiDigit?] at digit
  split at digit
  · omega
  · simp at digit

theorem integer_visible (n : Int) : Text.Visible (integer n) := by
  cases n with
  | ofNat n => exact natural_visible n
  | negSucc n => simp [integer, natural_visible, Symbol.code]

end Decimal

namespace Binary64

theorem zeros_visible (count : Nat) : Text.Visible (zeros count) :=
  Text.visible_replicate count (by decide)

theorem positional_visible {digits : Text} (visible : Text.Visible digits) (point : Int) :
    Text.Visible (positional digits point) := by
  have front : ∀ width, Text.Visible (digits.take width) :=
    fun width symbol member => visible symbol (List.mem_of_mem_take member)
  have back : ∀ width, Text.Visible (digits.drop width) :=
    fun width symbol member => visible symbol (List.mem_of_mem_drop member)
  have leading : Text.Visible "0." := by decide
  have dot : Text.Visible "." := by decide
  have tail : Text.Visible ".0" := by decide
  unfold positional
  split
  · simp [leading, zeros_visible, visible]
  · simp [leading, visible]
  · split
    · simp [visible, zeros_visible, tail]
    · simp [front, back, dot]

theorem exponentText_visible (exponent : Int) : Text.Visible (exponentText exponent) := by
  have minus : Text.Visible "e-" := by decide
  have plus : Text.Visible "e+" := by decide
  have zero : Text.Visible "0" := by decide
  simp only [exponentText, Text.visible_append, Decimal.natural_visible, and_true]
  constructor
  · split
    · exact minus
    · exact plus
  · split
    · exact zero
    · exact Text.visible_nil

theorem scientific_visible {digits : Text} (visible : Text.Visible digits) (point : Int) :
    Text.Visible (scientific digits point) := by
  have front : Text.Visible (digits.take 1) :=
    fun symbol member => visible symbol (List.mem_of_mem_take member)
  have back : Text.Visible digits.tail :=
    fun symbol member => visible symbol (List.mem_of_mem_tail member)
  have dot : Text.Visible "." := by decide
  simp only [scientific, Text.visible_append, exponentText_visible, front, true_and, and_true]
  split
  · exact Text.visible_nil
  · simp [dot, back]

theorem decimalText_visible (value : Scientific) : Text.Visible (decimalText value) := by
  have all := Decimal.natural_visible value.digits
  have digits : Text.Visible (if value.digits = 0 then Decimal.natural value.digits
      else withoutTrailingZeros (Decimal.natural value.digits)) := by
    split
    · exact all
    · intro symbol member
      apply all symbol
      simpa [withoutTrailingZeros] using
        (List.dropWhile_sublist _).subset (List.mem_reverse.mp member)
  simp only [decimalText]
  split
  · exact positional_visible digits _
  · exact scientific_visible digits _

theorem text_visible (x : Binary64) : Text.Visible x.text := by
  cases x with
  | nan => decide
  | infinite negative => cases negative <;> decide
  | finite negative exponent fraction =>
      have minus : Text.Visible "-" := by decide
      simp only [text, Text.visible_append, decimalText_visible, and_true]
      split
      · exact minus
      · exact Text.visible_nil

end Binary64

namespace Json

theorem hexDigit_visible (value : Nat) : 0x20 ≤ (Text.hexDigit (value % 16)).code := by
  have each : ∀ digit < 16, 0x20 ≤ (Text.hexDigit digit).code := by decide
  exact each _ (Nat.mod_lt _ (by decide))

theorem hex_visible (width value : Nat) : Text.Visible (Text.hex width value) := by
  induction width generalizing value with
  | zero => exact Text.visible_nil
  | succ width ih => simp [Text.hex, ih, hexDigit_visible]

theorem escapedSymbol_visible (symbol : Symbol) : Text.Visible (escapedSymbol symbol) := by
  have backslash : 0x20 ≤ Text.backslash.code := by decide
  unfold escapedSymbol
  split
  · next special =>
      rcases special with quote | same
      · rw [quote]
        decide
      · rw [same]
        decide
  · repeat' split
    all_goals simp_all [hex_visible, Symbol.code]

theorem quotedText_visible (text : Text) : Text.Visible (quotedText text) := by
  have inner : Text.Visible (text.flatMap escapedSymbol) := by
    intro symbol member
    obtain ⟨source, -, inside⟩ := List.mem_flatMap.mp member
    exact escapedSymbol_visible source symbol inside
  have quote : 0x20 ≤ (Symbol.char '"').code := by decide
  simp [quotedText, inner, quote]

theorem floatText_visible (x : Binary64) : Text.Visible (floatText x) := by
  cases x with
  | nan => decide
  | infinite negative => cases negative <;> decide
  | finite negative exponent fraction =>
      exact Binary64.text_visible (.finite negative exponent fraction)

theorem commas_visible {items : List Text} (all : ∀ item ∈ items, Text.Visible item) :
    Text.Visible (commas items) :=
  Text.visible_joinWith (by decide) all

mutual

theorem compact_visible : (document : Json) → Text.Visible document.compact
  | .null => by decide
  | .bool b => by cases b <;> decide
  | .int n => Decimal.integer_visible n
  | .float x => floatText_visible x
  | .str text => quotedText_visible text
  | .array items => by
      have inner := commas_visible (compactItems_visible items)
      have brackets : 0x20 ≤ (Symbol.char '[').code ∧ 0x20 ≤ (Symbol.char ']').code := by decide
      simp [compact, inner, brackets]
  | .object members => by
      have inner := commas_visible (compactMembers_visible members)
      have braces : 0x20 ≤ (Symbol.char '{').code ∧ 0x20 ≤ (Symbol.char '}').code := by decide
      simp [compact, inner, braces]
termination_by structural document => document

theorem compactItems_visible : (items : List Json) → ∀ item ∈ compactItems items, Text.Visible item
  | [] => by simp [compactItems]
  | item :: rest => by
      have head := compact_visible item
      have tail := compactItems_visible rest
      simpa [compactItems, head] using tail
termination_by structural items => items

theorem compactMembers_visible :
    (members : List (Text × Json)) → ∀ member ∈ compactMembers members, Text.Visible member
  | [] => by simp [compactMembers]
  | (name, value) :: rest => by
      have head := compact_visible value
      have tail := compactMembers_visible rest
      have colon : 0x20 ≤ (Symbol.char ':').code := by decide
      simpa [compactMembers, head, quotedText_visible, colon] using tail
termination_by structural members => members

end

end Json

/-- Compact text holds no control, so it never breaks a line. -/
theorem Value.compactText_visible (value : Value) : Text.Visible value.compactText :=
  Json.compact_visible _

end TreeReport
