import Mathlib.Algebra.Ring.Nat
import TreeReport.Proofs.ReportLines
import TreeReport.Proofs.ShortValues

/-!
How many lines a report has. A scalar, a mapping that is no node and an empty
sequence take one, a listing takes what its items take. A node takes one for its
header and what its attributes and children take, and one more for each newline
in its type, its tag and its keys. Nothing else counts: payloads, compact text,
ranges and styles hold no newline. Only an integer that is too long to be written keeps
a value from having a report, with whatever lines.
-/
namespace TreeReport

namespace Text

def newlines (text : Text) : Nat := text.count newline

@[simp] theorem newlines_nil : newlines [] = 0 := rfl

@[simp] theorem newlines_append (first second : Text) :
    newlines (first ++ second) = newlines first + newlines second :=
  List.count_append

theorem newlines_cons {symbol : Symbol} (apart : symbol ≠ newline) (rest : Text) :
    newlines (symbol :: rest) = newlines rest :=
  List.count_cons_of_ne apart

theorem newlines_of_free {text : Text} (free : newline ∉ text) : newlines text = 0 :=
  List.count_eq_zero.mpr free

theorem newlines_of_visible {text : Text} (visible : Visible text) : newlines text = 0 :=
  newlines_of_free (newline_not_mem visible)

theorem splitOn_length (separator : Symbol) (text : Text) :
    (splitOn separator text).length = text.count separator + 1 := by
  induction text with
  | nil => rfl
  | cons symbol rest ih =>
      simp only [splitOn]
      split
      · next same => simp [same, ih]
      · next apart =>
          split
          · next shape => exact absurd shape (splitOn_ne_nil separator rest)
          · next first more shape =>
              rw [shape] at ih
              rw [List.count_cons_of_ne apart, ← ih, List.length_cons, List.length_cons]

theorem lines_length (text : Text) : (lines text).length = text.newlines + 1 :=
  splitOn_length newline text

end Text

theorem SourceRange.lineColumn_visible (point : Option Value) :
    Text.Visible (lineColumn point) := by
  have colon : Text.Visible ":" := by decide
  simp [lineColumn, Decimal.integer_visible, colon]

theorem SourceRange.text_visible (value : Value) : Text.Visible (text value) := by
  have dash : Text.Visible "-" := by decide
  have comma : Text.Visible ", " := by decide
  have pair : ∀ first last, Text.Visible (offsets first last) := by
    intro first last
    unfold offsets
    split
    · simp [Decimal.integer_visible, dash, comma]
    · exact Text.visible_nil
  unfold text
  split
  · simp only
    split
    · simp [lineColumn_visible, pair, dash]
    · exact Text.visible_nil
  · exact Text.visible_nil

namespace Report

open Style

/-- The newlines in the tag that a header shows. -/
def tagNewlines (entries : Entries) : Nat :=
  match Node.elementName? entries with
  | some (_, name) => name.newlines
  | none => 0

mutual

/-- The lines that a value takes. -/
def lineCount : Value → Nat
  | .sequence _ [] => 1
  | .sequence _ items => itemsCount items
  | .mapping _ entries =>
      match Node.typeText? entries with
      | some typeText =>
          1 + typeText.newlines + tagNewlines entries +
            attributesCount (Node.tagKey entries) entries + childrenCount entries
      | none => 1
  | _ => 1
termination_by structural value => value

def itemsCount : List Value → Nat
  | [] => 0
  | item :: rest => lineCount item + itemsCount rest
termination_by structural items => items

/-- An attribute begins behind its key. A node goes on there, but a listing
begins on a line of its own. -/
def attributesCount (tagKey : Value) : List (Value × Value) → Nat
  | [] => 0
  | (key, value) :: rest =>
      (if Node.isAttributeKey tagKey key then
        key.plain.newlines + match expansion key.plain value with
          | .node => lineCount value
          | .listing => 1 + lineCount value
          | .text => 1
      else 0) + attributesCount tagKey rest
termination_by structural entries => entries

def childrenCount : List (Value × Value) → Nat
  | [] => 0
  | (key, value) :: rest =>
      if key.isText "children" then
        (if value.isSequence && value.truth then lineCount value else 0)
      else childrenCount rest
termination_by structural entries => entries

end

section Parts

theorem newlines_sequence (code : Nat) : (sequenceOf code).newlines = 0 :=
  Text.newlines_of_free (newline_not_mem_sequence code)

theorem newlines_paint (role : Role) (enabled : Bool) (text : Text) :
    (paint role enabled text).newlines = text.newlines := by
  unfold paint
  split
  · simp [newlines_sequence]
  · rfl

theorem newlines_tagPart (display : Display) (entries : Entries) :
    (tagPart display entries).newlines = tagNewlines entries := by
  unfold tagPart tagNewlines
  cases Node.elementName? entries with
  | none => rfl
  | some tag =>
      have opening : Text.newlines "<" = 0 := by decide
      have closing : Text.newlines ">" = 0 := by decide
      simp [newlines_paint, opening, closing]

theorem newlines_contentPart (display : Display) (entries : Entries) :
    (contentPart display entries).newlines = 0 := by
  unfold contentPart
  split
  · have opening : Text.newlines "[" = 0 := by decide
    have closing : Text.newlines "]" = 0 := by decide
    have digits := fun n => Text.newlines_of_visible (Decimal.natural_visible n)
    simp [countPart, newlines_paint, opening, closing, digits]
  · next payload _ _ =>
      rw [Text.newlines_cons (by decide), newlines_paint]
      exact Text.newlines_of_visible (Value.compactText_visible (.str payload))
  · rfl

theorem newlines_rangePart (display : Display) (entries : Entries) :
    (rangePart display entries).newlines = 0 := by
  have opening : Text.newlines "(" = 0 := by decide
  have closing : Text.newlines ")" = 0 := by decide
  have range := fun value => Text.newlines_of_visible (SourceRange.text_visible value)
  unfold rangePart
  split
  · simp only
    split
    · rfl
    · rw [List.cons_append, List.cons_append, Text.newlines_cons (by decide)]
      simp [newlines_paint, opening, closing, range]
  · rfl

theorem newlines_header (display : Display) (typeText : Text) (entries : Entries) :
    (header display typeText entries).newlines = typeText.newlines + tagNewlines entries := by
  simp [header, newlines_paint, newlines_tagPart, newlines_contentPart, newlines_rangePart]

end Parts

section Layout

theorem hang_length (first further : Text) (lines : List Text) :
    (hang first further lines).length = lines.length := by
  cases lines <;> simp [hang]

theorem continueWith_length (lead : Text) {lines : List Text} (nonempty : lines ≠ [])
    (uncut : Uncut lines) : (continueWith lead lines).length = lead.newlines + lines.length := by
  cases lines with
  | nil => exact absurd rfl nonempty
  | cons line rest =>
      have whole := Text.newlines_of_free (uncut line (by simp))
      simp only [continueWith, List.length_append, Text.lines_length, Text.newlines_append, whole,
        List.length_cons]
      omega

end Layout

-- One equation for each function of the report, in the order of its recursion.
mutual

theorem valueLines_length (display : Display) :
    (value : Value) → (valueLines display value).length = lineCount value
  | .sequence _ [] => rfl
  | .sequence _ (item :: rest) =>
      siblingLines_length display (item :: rest).length 0 (item :: rest)
  | .mapping form entries => by
      have attributes := attributeLines_length display (Node.tagKey entries) entries
      have children := childLines_length display entries
      simp only [valueLines, lineCount]
      cases Node.typeText? entries with
      | none => rfl
      | some typeText =>
          simp only [List.length_append, List.length_map, Text.lines_length, newlines_header,
            attributes, children]
          omega
  | .null | .bool _ | .int _ | .float _ | .str _ | .bytes _ | .set _ _ | .object _
  | .options _ _ => rfl
termination_by structural value => value

theorem siblingLines_length (display : Display) (total index : Nat) :
    (items : List Value) → (siblingLines display total index items).length = itemsCount items
  | [] => rfl
  | item :: rest => by
      have head := valueLines_length display item
      have tail := siblingLines_length display total (index + 1) rest
      rw [siblingLines, itemsCount, List.length_append, hang_length, head, tail]
termination_by structural items => items

theorem attributeLines_length (display : Display) (tagKey : Value) : (entries : Entries) →
    (attributeLines display tagKey entries).length = attributesCount tagKey entries
  | [] => rfl
  | (key, value) :: rest => by
      have inner := valueLines_length display value
      have tail := attributeLines_length display tagKey rest
      have colon : Text.newlines ":" = 0 := by decide
      have lead : Text.newlines ": " = 0 := by decide
      have compact := Text.newlines_of_visible value.compactText_visible
      rw [attributeLines, attributesCount, List.length_append, tail]
      split
      · simp only
        cases expansion key.plain value with
        | node =>
            rw [continueWith_length _ (valueLines_ne_nil display value)
              (uncut_valueLines display value), inner, Text.newlines_append, lead, Nat.add_zero]
        | listing =>
            simp only [List.length_append, Text.lines_length, Text.newlines_append, colon, inner]
            omega
        | text => simp [Text.lines_length, lead, compact]
      · rfl
termination_by structural entries => entries

theorem childLines_length (display : Display) :
    (entries : Entries) → (childLines display entries).length = childrenCount entries
  | [] => rfl
  | (key, value) :: rest => by
      have inner := valueLines_length display value
      have later := childLines_length display rest
      simp only [childLines, childrenCount]
      split
      · split
        · exact inner
        · rfl
      · exact later
termination_by structural entries => entries

end

section Sums

/-- The lines of an attribute on its own. -/
def attributeCount (entry : Value × Value) : Nat :=
  entry.1.plain.newlines + match expansion entry.1.plain entry.2 with
    | .node => lineCount entry.2
    | .listing => 1 + lineCount entry.2
    | .text => 1

theorem itemsCount_sum (items : List Value) : itemsCount items = (items.map lineCount).sum := by
  induction items with
  | nil => rfl
  | cons item rest ih => rw [itemsCount, ih, List.map_cons, List.sum_cons]

theorem lineCount_single {value : Value} (other : Node.isNode value = false)
    (bare : (value.isSequence && value.truth) = false) : lineCount value = 1 := by
  cases value with
  | sequence form items =>
      cases items with
      | nil => rfl
      | cons item rest => simp [Value.isSequence, Value.truth] at bare
  | mapping form entries =>
      have untyped : Node.typeText? entries = none := by simpa [Node.isNode] using other
      rw [lineCount, untyped]
  | _ => rfl

theorem lineCount_sequence (form : SequenceForm) {items : List Value} (nonempty : items ≠ []) :
    lineCount (.sequence form items) = (items.map lineCount).sum := by
  cases items with
  | nil => exact absurd rfl nonempty
  | cons item rest => exact itemsCount_sum (item :: rest)

theorem attributesCount_sum (tagKey : Value) (entries : Entries) :
    attributesCount tagKey entries =
      ((entries.filter fun entry => Node.isAttributeKey tagKey entry.1).map
        attributeCount).sum := by
  induction entries with
  | nil => rfl
  | cons entry rest ih =>
      obtain ⟨key, value⟩ := entry
      rw [attributesCount, ih, List.filter_cons]
      split
      · rw [List.map_cons, List.sum_cons, attributeCount]
      · exact Nat.zero_add _

theorem childrenCount_sum (entries : Entries) :
    childrenCount entries = (((Node.children? entries).getD []).map lineCount).sum := by
  induction entries with
  | nil => rfl
  | cons entry rest ih =>
      obtain ⟨key, value⟩ := entry
      by_cases here : key.isText "children" = true
      · simp only [childrenCount, Node.children?, Entries.get?, here, ↓reduceIte]
        cases value with
        | sequence form items =>
            cases items with
            | nil => rfl
            | cons item more => exact itemsCount_sum (item :: more)
        | _ => rfl
      · simp only [childrenCount, Node.children?, Entries.get?, here]
        exact ih

theorem lineCount_node {entries : Entries} {typeText : Text}
    (typed : Node.typeText? entries = some typeText) (form : MappingForm) :
    lineCount (.mapping form entries) =
      1 + typeText.newlines + tagNewlines entries +
        ((Node.attributes entries).map attributeCount).sum +
        (((Node.children? entries).getD []).map lineCount).sum := by
  rw [lineCount, typed, ← childrenCount_sum, Node.attributes, ← attributesCount_sum]

end Sums

/-- However a value is displayed, its report has the lines that are counted for
it: one, or those of its items, or those of its attributes and children below a
header. No compact text, no range and no style has a newline of its own. There is a
report unless it would write an integer that is too long. -/
theorem report_line_count (display : Display) :
    (∀ value shown, render display value = .ok shown →
      (Text.lines shown).length = lineCount value) ∧
      (∀ value, render display value = .error ⟨⟩ ↔
        ∃ n ∈ written display.positions value, ¬ Decimal.Short n) ∧
      (∀ value, Value.Integers Decimal.Short value → ∃ shown, render display value = .ok shown) ∧
      (∀ value, Node.isNode value = false → (value.isSequence && value.truth) = false →
        lineCount value = 1) ∧
      (∀ form items, items ≠ [] →
        lineCount (.sequence form items) = (items.map lineCount).sum) ∧
      (∀ form entries typeText, Node.typeText? entries = some typeText →
        lineCount (.mapping form entries) =
          1 + typeText.newlines + tagNewlines entries +
            ((Node.attributes entries).map attributeCount).sum +
            (((Node.children? entries).getD []).map lineCount).sum) ∧
      (∀ (value : Value) (shown : Text),
        value.encode = .ok shown ∨ SourceRange.stringify value = .ok shown →
        shown.newlines = 0) ∧
      ∀ role spelled, (paint role display.colors spelled).newlines = spelled.newlines := by
  refine ⟨?_, fun value => render_eq_error_iff, ?_, ?_, ?_, ?_, ?_, ?_⟩
  · intro value shown came
    obtain ⟨-, rfl⟩ := render_eq_ok_iff.mp came
    rw [lines_text, valueLines_length]
  · intro value short
    exact ⟨_, render_short display short⟩
  · intro value other bare
    exact lineCount_single other bare
  · intro form items nonempty
    exact lineCount_sequence form nonempty
  · intro form entries typeText typed
    exact lineCount_node typed form
  · rintro value shown (encoded | stringified)
    · obtain ⟨-, rfl⟩ := Decimal.write_eq_ok_iff.mp encoded
      exact Text.newlines_of_visible value.compactText_visible
    · obtain ⟨-, rfl⟩ := Decimal.write_eq_ok_iff.mp stringified
      exact Text.newlines_of_visible (SourceRange.text_visible value)
  · intro role spelled
    exact newlines_paint role display.colors spelled

/-- A type of two lines, an attribute of one line and one that lists two nodes. -/
example : lineCount (.mapping .dictionary [(.str "type", .str "a\nb"), (.str "k", .int 1),
    (.str "l", .sequence .list (List.replicate 2
      (.mapping .dictionary [(.str "type", .str "c")])))]) = 6 := by decide

/-- A scalar of one line without a report. -/
theorem long_integer_has_no_report :
    lineCount (.int Decimal.leastLong) = 1 ∧
      render ⟨false, false⟩ (.int Decimal.leastLong) = .error ⟨⟩ :=
  ⟨rfl, render_long_integer Decimal.not_short_leastLong _⟩

end Report

end TreeReport
