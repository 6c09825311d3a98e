import TreeReport.Proofs.OneLine
import TreeReport.Proofs.Stripping
import TreeReport.Proofs.WrittenIntegers

/-!
Styling never changes the text of a report. Line by line a styled report strips
to what the plain one strips to: types, tags and keys stand as they are in both,
and whatever follows them is fresh, so none of them can join with a token.
-/
namespace TreeReport.Report

open Style

def Display.plain (display : Display) : Display := { display with colors := false }

theorem escape_not_mem {text : Text} (visible : Text.Visible text) : escape ∉ text :=
  fun member => absurd (visible escape member) (by decide)

section Header

theorem fresh_tagPart (display : Display) (entries : Entries) :
    Fresh (tagPart display entries) := by
  unfold tagPart
  split
  · rw [List.append_assoc]
    exact fresh_token (by decide) _ _ _ _
  · exact fresh_nil

theorem strip_tagPart (display : Display) (entries : Entries) :
    strip (tagPart display entries) = strip (tagPart display.plain entries) := by
  unfold tagPart
  split
  · next name _ =>
      have shown : ∀ enabled,
          strip (paint .punctuation enabled "<" ++ name ++ paint .punctuation enabled ">") =
            ("<" : Text) ++ (strip name ++ (">" : Text)) :=
        fun enabled => strip_enclosed (by decide) (by decide) .punctuation enabled name
      rw [shown, shown]
  · rfl

theorem fresh_countPart (display : Display) (count : Nat) : Fresh (countPart display count) := by
  have parameters : ∀ symbol ∈ Decimal.natural count, isParameter symbol = true := by
    intro symbol member
    have digit := Decimal.natural_digits count symbol member
    simp only [Text.isAsciiDigit, Text.asciiDigit?] at digit
    split at digit
    · next inside => simp [isParameter, inside]
    · simp at digit
  unfold countPart
  cases display.colors with
  | true => exact fresh_escape _
  | false => simpa [paint, Text.ofString] using fresh_bracketed parameters []

theorem strip_countPart (display : Display) (count : Nat) :
    strip (countPart display count) = ("[" : Text) ++ (Decimal.natural count ++ ("]" : Text)) := by
  have digits := escape_not_mem (Decimal.natural_visible count)
  rw [countPart, List.append_assoc, strip_paint_append (by decide), strip_paint_append digits,
    strip_paint (by decide)]

theorem fresh_contentPart (display : Display) (entries : Entries) :
    Fresh (contentPart display entries) := by
  unfold contentPart
  split
  · exact fresh_countPart display _
  · exact fresh_inert (by decide) _
  · exact fresh_nil

theorem strip_contentPart (display : Display) (entries : Entries) :
    strip (contentPart display entries) = strip (contentPart display.plain entries) := by
  unfold contentPart
  split
  · rw [strip_countPart, strip_countPart]
  · next payload _ _ =>
      have plain := escape_not_mem (Value.compactText_visible (.str payload))
      rw [strip_cons (by decide), strip_cons (by decide), strip_paint plain, strip_paint plain]
  · rfl

theorem fresh_rangePart (display : Display) (entries : Entries) :
    Fresh (rangePart display entries) := by
  unfold rangePart
  split
  · simp only
    split
    · exact fresh_nil
    · exact fresh_inert (by decide) _
  · exact fresh_nil

theorem strip_rangePart (display : Display) (entries : Entries) :
    strip (rangePart display entries) = strip (rangePart display.plain entries) := by
  have shown : ∀ enabled range,
      strip (.char ' ' :: paint .punctuation enabled "(" ++ range ++
        paint .punctuation enabled ")") = (" (" : Text) ++ (strip range ++ (")" : Text)) := by
    intro enabled range
    have enclosed : strip (paint .punctuation enabled "(" ++ range ++
        paint .punctuation enabled ")") = ("(" : Text) ++ (strip range ++ (")" : Text)) :=
      strip_enclosed (by decide) (by decide) .punctuation enabled range
    rw [List.cons_append, List.cons_append, strip_cons (by decide), enclosed]
    rfl
  unfold rangePart Display.plain
  split
  · simp only
    split
    · rfl
    · rw [shown, shown]
  · rfl

/-- The type may hold anything, but every part behind it is fresh. -/
theorem strip_header (display : Display) (typeText : Text) (entries : Entries) :
    strip (header display typeText entries) = strip (header display.plain typeText entries) := by
  have painted : ∀ enabled, strip (paint .nodeType enabled typeText) = strip typeText := by
    intro enabled
    cases typeText with
    | nil => simp [paint]
    | cons symbol more =>
        cases enabled with
        | false => rfl
        | true => simpa using strip_painted (List.cons_ne_nil symbol more) .nodeType [] []
  have shown : ∀ display : Display, strip (header display typeText entries) =
      strip typeText ++ strip (tagPart display entries) ++ strip (contentPart display entries) ++
        strip (rangePart display entries) := by
    intro display
    rw [header, strip_append_fresh (fresh_rangePart display entries),
      strip_append_fresh (fresh_contentPart display entries),
      strip_append_fresh (fresh_tagPart display entries), painted]
  rw [shown, shown, ← strip_tagPart, ← strip_contentPart, ← strip_rangePart]

end Header

section Layout

theorem strip_connector_append (display : Display) (total index : Nat) (line : Text) :
    strip (connector display total index ++ line) =
      connector display.plain total index ++ strip line := by
  have spaces : Text.Visible (Text.spaces (indexWidth total - (Decimal.natural index).length)) :=
    Text.visible_replicate _ (by decide)
  have glyphs : ∀ glyph : Symbol, 0x20 ≤ glyph.code →
      escape ∉ glyph :: .char '─' :: Text.padRight (indexWidth total) (Decimal.natural index) := by
    intro glyph shown
    apply escape_not_mem
    have dash : 0x20 ≤ (Symbol.char '─').code := by decide
    simp [Text.padRight, shown, dash, Decimal.natural_visible, spaces]
  have plain := glyphs (if index + 1 = total then .char '└' else .char '├') (by split <;> decide)
  rw [connector, List.append_assoc, strip_paint_append plain, List.singleton_append,
    strip_cons (by decide)]
  simp [connector, Display.plain, paint]

theorem strip_bar_append (display : Display) (line : Text) :
    strip (bar display ++ line) = bar display.plain ++ strip line :=
  strip_paint_append (by decide) _ _ _

theorem strip_spaces_append (count : Nat) (line : Text) :
    strip (Text.spaces count ++ line) = Text.spaces count ++ strip line :=
  strip_plain_append (escape_not_mem (Text.visible_replicate count (by decide))) line

theorem strip_continuation_append (display : Display) (total index : Nat) (line : Text) :
    strip (continuation display total index ++ line) =
      continuation display.plain total index ++ strip line := by
  simp only [continuation, List.append_assoc]
  split
  · rw [List.singleton_append, strip_cons (by decide), strip_spaces_append, List.singleton_append]
  · rw [strip_bar_append, strip_spaces_append]

theorem strip_margin_append (display : Display) (entries : Entries) (line : Text) :
    strip (margin display entries ++ line) = margin display.plain entries ++ strip line := by
  unfold margin
  split
  · rw [List.append_assoc, strip_bar_append, List.singleton_append, strip_cons (by decide)]
    simp
  · exact strip_spaces_append 2 line

theorem strip_hang (display : Display) (total index : Nat) (lines : List Text) :
    (hang (connector display total index) (continuation display total index) lines).map strip =
      hang (connector display.plain total index) (continuation display.plain total index)
        (lines.map strip) := by
  cases lines with
  | nil => rfl
  | cons line rest =>
      simp [hang, strip_connector_append, strip_continuation_append]

/-- A lead ends in a colon and a space, so the line behind it is stripped alone. -/
theorem strip_continueWith (name : Text) {lines others : List Text}
    (same : lines.map strip = others.map strip) :
    (continueWith (name ++ (": " : Text)) lines).map strip =
      (continueWith (name ++ (": " : Text)) others).map strip := by
  have lead : ∀ line, strip (name ++ (": " : Text) ++ line) =
      strip name ++ (": " : Text) ++ strip line := by
    intro line
    have colon : Fresh ((": " : Text) ++ line) := fresh_inert (by decide) _
    rw [List.append_assoc, strip_append_fresh colon, strip_plain_append (by decide),
      List.append_assoc]
  cases lines with
  | nil =>
      have none : others = [] := by simpa using same.symm
      rw [none]
  | cons line rest =>
      cases others with
      | nil => simp at same
      | cons other more =>
          simp only [List.map_cons, List.cons.injEq] at same
          simp only [continueWith, List.map_append, strip_lines, lead, same.1, same.2]

end Layout

-- The recursion is that of the report. No text of the value is looked into: what
-- is joined is always a raw text and a fresh one.
mutual

/-- Styled and plain lines strip alike, at every depth. -/
theorem strip_valueLines (display : Display) : (value : Value) →
    (valueLines display value).map strip = (valueLines display.plain value).map strip
  | .sequence _ [] => rfl
  | .sequence _ (item :: rest) =>
      strip_siblingLines display (item :: rest).length 0 (item :: rest)
  | .mapping form entries => by
      simp only [valueLines]
      split
      · next typeText _ =>
          have attributes := strip_attributeLines display (Node.tagKey entries) entries
          have margins : ∀ shown : Display, ∀ lines : List Text,
              (lines.map (margin shown entries ++ ·)).map strip =
                (lines.map strip).map (margin shown.plain entries ++ ·) := by
            intro shown lines
            simp [strip_margin_append]
          simp only [List.map_append, strip_lines, strip_header display, margins, attributes,
            strip_childLines display entries]
          rfl
      · rfl
  | .null | .bool _ | .int _ | .float _ | .str _ | .bytes _ | .set _ _ | .object _
  | .options _ _ => rfl
termination_by structural value => value

theorem strip_siblingLines (display : Display) (total index : Nat) : (items : List Value) →
    (siblingLines display total index items).map strip =
      (siblingLines display.plain total index items).map strip
  | [] => rfl
  | item :: rest => by
      have head := strip_valueLines display item
      have tail := strip_siblingLines display total (index + 1) rest
      simp only [siblingLines, List.map_append, strip_hang, head, tail]
      rfl
termination_by structural items => items

theorem strip_attributeLines (display : Display) (tagKey : Value) : (entries : Entries) →
    (attributeLines display tagKey entries).map strip =
      (attributeLines display.plain tagKey entries).map strip
  | [] => rfl
  | (key, value) :: rest => by
      have inner := strip_valueLines display value
      have tail := strip_attributeLines display tagKey rest
      simp only [attributeLines, List.map_append, tail, List.append_cancel_right_eq]
      split
      · split
        · exact strip_continueWith key.plain inner
        · rw [List.map_append, List.map_append, inner]
        · rfl
      · rfl
termination_by structural entries => entries

theorem strip_childLines (display : Display) : (entries : Entries) →
    (childLines display entries).map strip = (childLines display.plain entries).map strip
  | [] => rfl
  | (key, value) :: rest => by
      have inner := strip_valueLines display value
      have later := strip_childLines display rest
      simp only [childLines]
      split
      · split
        · exact inner
        · rfl
      · exact later
termination_by structural entries => entries

end

theorem strip_text (display : Display) (value : Value) :
    strip (text display value) = strip (text display.plain value) := by
  rw [text, text, strip_joinLines, strip_joinLines, strip_valueLines]

/-- A styled report comes about exactly when the plain one does. -/
theorem strip_render (display : Display) (value : Value) :
    (render display value).map strip = (render display.plain value).map strip := by
  have same : written display.plain.positions value = written display.positions value := rfl
  rw [render, render, same]
  unfold Decimal.write
  split
  · exact congrArg Except.ok (strip_text display value)
  · rfl

end TreeReport.Report

namespace TreeReport.Inspection

open Style

theorem display_always (base : Options) (overrides : Options.Overrides) :
    (displayOf (Options.settle base overrides ColorPolicy.always.forced)).plain =
      displayOf (Options.settle base overrides ColorPolicy.never.forced) := rfl

theorem strip_inspect (value options : Value) (overrides : Options.Overrides) :
    (inspect .always value options overrides).1.map strip =
      (inspect .never value options overrides).1.map strip := by
  cases read : Options.lenient options with
  | error overflow => rw [inspect_unread read, inspect_unread read]
  | ok found =>
      have positions :
          (Options.settle found.options overrides ColorPolicy.always.forced).showPositions =
            (Options.settle found.options overrides ColorPolicy.never.forced).showPositions := rfl
      rw [inspect_read read, inspect_read read, positions]
      split
      · rw [Report.strip_render, display_always]
      · rfl

/-- A styled report strips to what the plain one strips to, whatever stands in it, and if
one of them does not come about, neither does the other. So a styled report strips to the
plain one itself exactly when no sequence stands there. -/
theorem styled_report_strips_to_plain (value options : Value) (overrides : Options.Overrides) :
    (inspect .always value options overrides).1.map strip =
        (inspect .never value options overrides).1.map strip ∧
      ∀ styled plain, (inspect .always value options overrides).1 = .ok styled →
        (inspect .never value options overrides).1 = .ok plain →
        strip styled = strip plain ∧ (strip styled = plain ↔ ¬ HasSequence plain) := by
  have alike := strip_inspect value options overrides
  refine ⟨alike, fun styled plain colored uncolored => ?_⟩
  rw [colored, uncolored] at alike
  have same : strip styled = strip plain := Except.ok.inj alike
  refine ⟨same, ?_⟩
  rw [same]
  exact strip_eq_self_iff plain

end TreeReport.Inspection
