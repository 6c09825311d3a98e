import TreeReport.Proofs.CanonicalValues
import TreeReport.Proofs.CompactShape
import TreeReport.Proofs.Encoding

/-!
Reports that can be printed. Whatever a report adds to the texts of a value has an
encoding: numerals, escapes, brackets, connectors and styles. So where no surrogate
half stands in the texts and keys of a value, none stands in its compact text or in
its report.
-/
namespace TreeReport

section Constants

@[simp] theorem Utf8.isSurrogate_char (c : Char) : isSurrogate (.char c) = false := rfl

namespace Text

@[simp] theorem encodable_ofString (literal : String) : Encodable (ofString literal) := by
  intro symbol member
  obtain ⟨c, -, rfl⟩ := List.mem_map.mp member
  rfl

theorem encodable_replicate {symbol : Symbol} (shown : Utf8.isSurrogate symbol = false)
    (count : Nat) : Encodable (List.replicate count symbol) := by
  intro other member
  rw [List.eq_of_mem_replicate member]
  exact shown

theorem encodable_lines {text : Text} (encodable : text.Encodable) :
    ∀ line ∈ lines text, line.Encodable := by
  intro line member
  have part : line ⊆ joinWith [newline] (lines text) := subset_joinWith member
  rw [lines, joinWith_splitOn] at part
  exact encodable.of_subset part

theorem encodable_hex (width value : Nat) : Encodable (hex width value) := by
  induction width generalizing value with
  | zero => exact encodable_nil
  | succ width ih => simp [hex, hexDigit, ih]

end Text

namespace Decimal

@[simp] theorem encodable_natural (n : Nat) : (natural n).Encodable := by
  intro symbol member
  obtain ⟨c, -, rfl⟩ := List.mem_map.mp member
  rfl

@[simp] theorem encodable_integer (n : Int) : (integer n).Encodable := by
  cases n with
  | ofNat n => exact encodable_natural n
  | negSucc n => simp [integer]

end Decimal

namespace Binary64

@[simp] theorem encodable_zeros (count : Nat) : (zeros count).Encodable :=
  Text.encodable_replicate rfl count

theorem encodable_positional {digits : Text} (encodable : digits.Encodable) (point : Int) :
    (positional digits point).Encodable := by
  have front : ∀ width, Text.Encodable (digits.take width) :=
    fun width => encodable.of_subset (List.take_subset width digits)
  have back : ∀ width, Text.Encodable (digits.drop width) :=
    fun width => encodable.of_subset (List.drop_subset width digits)
  unfold positional
  split
  · simp [encodable]
  · simp [encodable]
  · split
    · simp [encodable]
    · simp [front, back]

theorem encodable_scientific {digits : Text} (encodable : digits.Encodable) (point : Int) :
    (scientific digits point).Encodable := by
  have front : Text.Encodable (digits.take 1) := encodable.of_subset (List.take_subset 1 digits)
  have back : Text.Encodable digits.tail := encodable.of_subset (List.tail_sublist digits).subset
  have exponent : (exponentText (point - 1)).Encodable := by
    simp only [exponentText, Text.encodable_append, Decimal.encodable_natural, and_true]
    constructor
    · split <;> exact Text.encodable_ofString _
    · split
      · exact Text.encodable_ofString _
      · exact Text.encodable_nil
  simp only [scientific, Text.encodable_append, front, exponent, true_and, and_true]
  split
  · exact Text.encodable_nil
  · simp [back]

theorem encodable_text (x : Binary64) : x.text.Encodable := by
  cases x with
  | nan => exact Text.encodable_ofString _
  | infinite negative => cases negative <;> exact Text.encodable_ofString _
  | finite negative exponent fraction =>
      have digits : ∀ n, (if n = 0 then Decimal.natural n
          else withoutTrailingZeros (Decimal.natural n)).Encodable := by
        intro n
        split
        · exact Decimal.encodable_natural n
        · apply (Decimal.encodable_natural n).of_subset
          intro symbol member
          simpa [withoutTrailingZeros] using
            (List.dropWhile_sublist _).subset (List.mem_reverse.mp member)
      rw [text, Text.encodable_append]
      constructor
      · split
        · exact Text.encodable_ofString _
        · exact Text.encodable_nil
      · simp only [decimalText]
        split
        · exact encodable_positional (digits _) _
        · exact encodable_scientific (digits _) _

end Binary64

namespace Style

@[simp] theorem encodable_paint (role : Role) (enabled : Bool) (text : Text) :
    (paint role enabled text).Encodable ↔ text.Encodable := by
  have sequence : ∀ code, (sequenceOf code).Encodable := by
    intro code
    simp [sequenceOf]
  unfold paint
  split
  · simp [sequence]
  · exact Iff.rfl

end Style

end Constants

namespace Json

theorem encodable_quotedText {text : Text} (encodable : text.Encodable) :
    (quotedText text).Encodable := by
  have inner : Text.Encodable (text.flatMap escapedSymbol) := by
    intro symbol member
    obtain ⟨source, inside, written⟩ := List.mem_flatMap.mp member
    have shown := encodable source inside
    -- An escape spells the symbol with others; without one the symbol stands for itself.
    have spelled : (escapedSymbol source).Encodable := by
      unfold escapedSymbol
      repeat' split
      all_goals simp [shown, Text.backslash, Text.encodable_hex]
    exact spelled symbol written
  simp [quotedText, inner]

inductive Encodable : Json → Prop where
  | null : Encodable .null
  | bool (b : Bool) : Encodable (.bool b)
  | int (n : Int) : Encodable (.int n)
  | float (x : Binary64) : Encodable (.float x)
  | str {text : Text} (encodable : text.Encodable) : Encodable (.str text)
  | array {items : List Json} (all : ∀ item ∈ items, Encodable item) : Encodable (.array items)
  | object {members : List (Text × Json)} (names : ∀ member ∈ members, member.1.Encodable)
      (all : ∀ member ∈ members, Encodable member.2) : Encodable (.object members)

theorem encodable_commas {pieces : List Text} (all : ∀ piece ∈ pieces, piece.Encodable) :
    (commas pieces).Encodable :=
  Text.encodable_joinWith (Text.encodable_ofString ",") all

theorem encodable_compact {document : Json} (encodable : Encodable document) :
    document.compact.Encodable := by
  induction encodable with
  | null => exact Text.encodable_ofString _
  | bool b => cases b <;> exact Text.encodable_ofString _
  | int n => exact Decimal.encodable_integer n
  | float x =>
      cases x with
      | nan => exact Text.encodable_ofString _
      | infinite negative => cases negative <;> exact Text.encodable_ofString _
      | finite negative exponent fraction =>
          exact Binary64.encodable_text (.finite negative exponent fraction)
  | str encodable => exact encodable_quotedText encodable
  | @array items all ih =>
      have pieces : ∀ piece ∈ compactItems items, piece.Encodable := by
        rw [compactItems_map]
        intro piece member
        obtain ⟨item, inside, rfl⟩ := List.mem_map.mp member
        exact ih item inside
      simp [compact, encodable_commas pieces]
  | @object members names all ih =>
      have pieces : ∀ piece ∈ compactMembers members, piece.Encodable := by
        rw [compactMembers_map]
        intro piece listed
        obtain ⟨member, inside, rfl⟩ := List.mem_map.mp listed
        simp [memberText, encodable_quotedText (names member inside), ih member inside]
      simp [compact, encodable_commas pieces]

end Json

namespace Value

/-- No surrogate half stands in the texts and keys of the value. Only what a document
can hold, in either form of container, is spoken of. -/
inductive Encodable : Value → Prop where
  | null : Encodable .null
  | bool (b : Bool) : Encodable (.bool b)
  | int (n : Int) : Encodable (.int n)
  | float (x : Binary64) : Encodable (.float x)
  | str {text : Text} (encodable : text.Encodable) : Encodable (.str text)
  | sequence (form : SequenceForm) {items : List Value} (all : ∀ item ∈ items, Encodable item) :
      Encodable (.sequence form items)
  | mapping (form : MappingForm) {entries : Entries}
      (names : ∀ entry ∈ entries, entry.1.plain.Encodable)
      (all : ∀ entry ∈ entries, Encodable entry.2) : Encodable (.mapping form entries)

theorem encodable_normal {value : Value} (encodable : Encodable value) :
    Json.Encodable value.normal := by
  induction encodable with
  | null => exact .null
  | bool b => exact .bool b
  | int n => exact .int n
  | float x =>
      rw [normal]
      split
      · exact .float x
      · exact .null
  | str encodable => exact .str encodable
  | sequence form all ih =>
      rw [normal, normalItems_map]
      apply Json.Encodable.array
      intro document member
      obtain ⟨item, inside, rfl⟩ := List.mem_map.mp member
      exact ih item inside
  | mapping form names all ih =>
      rw [normal, namedMembers_map]
      constructor
      · intro member collected
        obtain ⟨entry, inside, rfl⟩ := List.mem_map.mp (Json.mem_collectMembers collected)
        exact names entry inside
      · intro member collected
        obtain ⟨entry, inside, rfl⟩ := List.mem_map.mp (Json.mem_collectMembers collected)
        exact ih entry inside

theorem encodable_compactText {value : Value} (encodable : Encodable value) :
    value.compactText.Encodable :=
  Json.encodable_compact (encodable_normal encodable)

theorem Encodable.get {form : MappingForm} {entries : Entries} {key : Text} {value : Value}
    (encodable : Encodable (.mapping form entries)) (found : entries.get? key = some value) :
    Encodable value := by
  obtain ⟨name, inside⟩ := get?_mem found
  cases encodable with
  | mapping _ names all => exact all _ inside

theorem Encodable.text {form : MappingForm} {entries : Entries} {key text : Text}
    (encodable : Encodable (.mapping form entries)) (found : entries.get? key = some (.str text)) :
    text.Encodable := by
  cases encodable.get found with
  | str encodable => exact encodable

end Value

namespace Report

def AllEncodable (lines : List Text) : Prop := ∀ line ∈ lines, line.Encodable

section Parts

variable {lines first second : List Text}

theorem allEncodable_append (one : AllEncodable first) (two : AllEncodable second) :
    AllEncodable (first ++ second) := by
  intro line member
  rcases List.mem_append.mp member with early | late
  · exact one line early
  · exact two line late

theorem allEncodable_prefixed {lead : Text} (encodable : lead.Encodable)
    (all : AllEncodable lines) : AllEncodable (lines.map (lead ++ ·)) := by
  intro line member
  obtain ⟨rest, inside, rfl⟩ := List.mem_map.mp member
  simp [encodable, all rest inside]

theorem allEncodable_hang {lead further : Text} (opening : lead.Encodable)
    (continued : further.Encodable) (all : AllEncodable lines) :
    AllEncodable (hang lead further lines) := by
  cases lines with
  | nil => exact all
  | cons line rest =>
      have tail := allEncodable_prefixed continued fun other member =>
        all other (List.mem_cons_of_mem line member)
      intro other member
      rcases List.mem_cons.mp member with rfl | later
      · simp [opening, all line (by simp)]
      · exact tail other later

theorem allEncodable_continueWith {lead : Text} (encodable : lead.Encodable)
    (all : AllEncodable lines) : AllEncodable (continueWith lead lines) := by
  cases lines with
  | nil => exact Text.encodable_lines encodable
  | cons line rest =>
      have whole : (lead ++ line).Encodable := by simp [encodable, all line (by simp)]
      apply allEncodable_append (Text.encodable_lines whole)
      exact fun other member => all other (List.mem_cons_of_mem line member)

theorem encodable_spaces (count : Nat) : (Text.spaces count).Encodable :=
  Text.encodable_replicate rfl count

theorem encodable_connector (display : Display) (total index : Nat) :
    (connector display total index).Encodable := by
  have padded : (Text.padRight (indexWidth total) (Decimal.natural index)).Encodable := by
    simp [Text.padRight, encodable_spaces]
  have glyph : Utf8.isSurrogate (if index + 1 = total then .char '└' else .char '├') = false := by
    split <;> rfl
  simp [connector, padded, glyph]

theorem encodable_bar (display : Display) : (bar display).Encodable := by simp [bar]

theorem encodable_continuation (display : Display) (total index : Nat) :
    (continuation display total index).Encodable := by
  have front : Text.Encodable (if index + 1 = total then [.char ' '] else bar display) := by
    split
    · simp
    · exact encodable_bar display
  simp [continuation, front, encodable_spaces]

theorem encodable_margin (display : Display) (entries : Entries) :
    (margin display entries).Encodable := by
  unfold margin
  split
  · simp [encodable_bar]
  · exact encodable_spaces 2

theorem encodable_sourceRange (value : Value) : (SourceRange.text value).Encodable := by
  have place : ∀ point, (SourceRange.lineColumn point).Encodable := by
    intro point
    simp [SourceRange.lineColumn]
  have offsets : ∀ first last, (SourceRange.offsets first last).Encodable := by
    intro first last
    unfold SourceRange.offsets
    split
    · simp
    · exact Text.encodable_nil
  cases value with
  | mapping form entries =>
      simp only [SourceRange.text]
      split
      · simp [place, offsets]
      · exact Text.encodable_nil
  | _ => exact Text.encodable_nil

variable {form : MappingForm} {entries : Entries}

theorem firstText_encodable (encodable : Value.Encodable (.mapping form entries))
    {keys : List Text} {key name : Text} (found : Node.firstText? entries keys = some (key, name)) :
    name.Encodable := by
  induction keys with
  | nil => contradiction
  | cons first rest ih =>
      unfold Node.firstText? at found
      split at found
      · next text held =>
          cases found
          exact encodable.text held
      · exact ih found

theorem encodable_header (encodable : Value.Encodable (.mapping form entries)) {typeText : Text}
    (typed : Node.typeText? entries = some typeText) (display : Display) :
    (header display typeText entries).Encodable := by
  have tag : (tagPart display entries).Encodable := by
    unfold tagPart
    split
    · next key name named =>
        unfold Node.elementName? at named
        split at named
        · simp [firstText_encodable encodable named]
        · contradiction
    · exact Text.encodable_nil
  have content : (contentPart display entries).Encodable := by
    unfold contentPart
    split
    · simp [countPart]
    · next payload _ held =>
        unfold Node.payload? at held
        split at held
        · next text found =>
            cases held
            have quoted := Value.encodable_compactText (.str (encodable.text found))
            simp [quoted]
        · contradiction
    · exact Text.encodable_nil
  have range : (rangePart display entries).Encodable := by
    simp only [rangePart]
    split
    · split
      · exact Text.encodable_nil
      · simp [encodable_sourceRange]
    · exact Text.encodable_nil
  have type : typeText.Encodable := encodable.text (Value.typeText_get typed)
  simp [header, type, tag, content, range]

end Parts

-- The recursion is that of the report.
mutual

theorem encodable_valueLines (display : Display) : (value : Value) → value.Encodable →
    AllEncodable (valueLines display value)
  | .sequence _ [], _ => by simp [AllEncodable, valueLines]
  | .sequence _ (item :: rest), encodable => by
      cases encodable with
      | sequence _ all =>
          exact encodable_siblingLines display (item :: rest).length 0 (item :: rest) all
  | .mapping form entries, encodable => by
      have compact := Value.encodable_compactText encodable
      have attributes := encodable_attributeLines display (Node.tagKey entries) entries
      have children := encodable_childLines display entries
      simp only [valueLines]
      cases typed : Node.typeText? entries with
      | none => simpa [AllEncodable] using compact
      | some typeText =>
          have header := Text.encodable_lines (encodable_header encodable typed display)
          cases encodable with
          | mapping _ names all =>
              have margins :=
                allEncodable_prefixed (encodable_margin display entries) (attributes names all)
              exact allEncodable_append (allEncodable_append header margins) (children all)
  | .null, encodable | .bool _, encodable | .int _, encodable | .float _, encodable
  | .str _, encodable => by
      simpa [AllEncodable, valueLines] using Value.encodable_compactText encodable
termination_by structural value => value

theorem encodable_siblingLines (display : Display) (total index : Nat) : (items : List Value) →
    (∀ item ∈ items, item.Encodable) → AllEncodable (siblingLines display total index items)
  | [], _ => by simp [AllEncodable, siblingLines]
  | item :: rest, all => by
      have head := encodable_valueLines display item (all item (by simp))
      have tail := encodable_siblingLines display total (index + 1) rest
        fun other member => all other (List.mem_cons_of_mem item member)
      have hung := allEncodable_hang (encodable_connector display total index)
        (encodable_continuation display total index) head
      exact allEncodable_append hung tail
termination_by structural items => items

theorem encodable_attributeLines (display : Display) (tagKey : Value) : (entries : Entries) →
    (∀ entry ∈ entries, entry.1.plain.Encodable) → (∀ entry ∈ entries, entry.2.Encodable) →
    AllEncodable (attributeLines display tagKey entries)
  | [], _, _ => by simp [AllEncodable, attributeLines]
  | (key, value) :: rest, names, all => by
      have name := names (key, value) (by simp)
      have held := all (key, value) (by simp)
      have inner := encodable_valueLines display value held
      have tail := encodable_attributeLines display tagKey rest
        (fun other member => names other (List.mem_cons_of_mem _ member))
        (fun other member => all other (List.mem_cons_of_mem _ member))
      have compact := Value.encodable_compactText held
      rw [attributeLines]
      apply allEncodable_append _ tail
      split
      · simp only
        split
        · exact allEncodable_continueWith (by simp [name]) inner
        · exact allEncodable_append (Text.encodable_lines (by simp [name])) inner
        · exact Text.encodable_lines (by simp [name, compact])
      · simp [AllEncodable]
termination_by structural entries => entries

theorem encodable_childLines (display : Display) : (entries : Entries) →
    (∀ entry ∈ entries, entry.2.Encodable) → AllEncodable (childLines display entries)
  | [], _ => by simp [AllEncodable, childLines]
  | (key, value) :: rest, all => by
      have inner := encodable_valueLines display value (all (key, value) (by simp))
      have later := encodable_childLines display rest
        fun other member => all other (List.mem_cons_of_mem _ member)
      rw [childLines]
      split
      · split
        · exact inner
        · simp [AllEncodable]
      · exact later
termination_by structural entries => entries

end

/-- Where no text of the value has a surrogate half, its report has none. -/
theorem encodable_text (display : Display) {value : Value} (encodable : value.Encodable) :
    (text display value).Encodable :=
  Text.encodable_joinWith (by simp) (encodable_valueLines display value encodable)

end Report

end TreeReport
