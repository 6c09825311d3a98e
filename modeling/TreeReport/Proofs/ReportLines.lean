import TreeReport.Proofs.StyledReport

/-!
The lines a report is joined from are the lines it is cut into. There is always
one at least, and none holds a newline: what a caller may spell with newlines,
types, tags and keys, is cut before it is placed, and all else is one line.
-/
namespace TreeReport.Report

open Style

section Free

theorem newline_not_mem_sequence (code : Nat) : Text.newline ∉ sequenceOf code := by
  have digits := Text.newline_not_mem (Decimal.natural_visible code)
  have parts : Text.newline ≠ escape ∧ Text.newline ≠ .char '[' ∧ Text.newline ≠ .char 'm' := by
    decide
  simp [sequenceOf, digits, parts]

theorem newline_not_mem_paint {text : Text} (free : Text.newline ∉ text) (role : Role)
    (enabled : Bool) : Text.newline ∉ paint role enabled text := by
  unfold paint
  split
  · simp [free, newline_not_mem_sequence]
  · exact free

theorem newline_not_mem_spaces (count : Nat) : Text.newline ∉ Text.spaces count :=
  Text.newline_not_mem (Text.visible_replicate count (by decide))

theorem newline_not_mem_connector (display : Display) (total index : Nat) :
    Text.newline ∉ connector display total index := by
  have digits := Text.newline_not_mem (Decimal.natural_visible index)
  have spaces := newline_not_mem_spaces (indexWidth total - (Decimal.natural index).length)
  have glyphs : ∀ glyph : Symbol, Text.newline ≠ glyph → Text.newline ∉
      glyph :: .char '─' :: Text.padRight (indexWidth total) (Decimal.natural index) := by
    intro glyph apart
    have dash : Text.newline ≠ .char '─' := by decide
    simp [Text.padRight, apart, dash, digits, spaces]
  have blank : Text.newline ∉ ([.char ' '] : Text) := by decide
  have painted := newline_not_mem_paint
    (glyphs (if index + 1 = total then .char '└' else .char '├') (by split <;> decide))
    .punctuation display.colors
  simp only [connector, List.mem_append, not_or]
  exact ⟨painted, blank⟩

theorem newline_not_mem_bar (display : Display) : Text.newline ∉ bar display :=
  newline_not_mem_paint (by decide) _ _

theorem newline_not_mem_continuation (display : Display) (total index : Nat) :
    Text.newline ∉ continuation display total index := by
  have blank : Text.newline ∉ ([.char ' '] : Text) := by decide
  simp only [continuation, List.mem_append, not_or]
  refine ⟨?_, newline_not_mem_spaces _⟩
  split
  · exact blank
  · exact newline_not_mem_bar display

theorem newline_not_mem_margin (display : Display) (entries : Entries) :
    Text.newline ∉ margin display entries := by
  unfold margin
  split
  · have blank : Text.newline ∉ ([.char ' '] : Text) := by decide
    simp only [List.mem_append, not_or]
    exact ⟨newline_not_mem_bar display, blank⟩
  · exact newline_not_mem_spaces 2

def Uncut (lines : List Text) : Prop := ∀ line ∈ lines, Text.newline ∉ line

@[simp] theorem uncut_nil : Uncut [] := by simp [Uncut]

theorem uncut_append {first second : List Text} :
    Uncut (first ++ second) ↔ Uncut first ∧ Uncut second := by
  simp [Uncut, or_imp, forall_and]

theorem uncut_lines (text : Text) : Uncut (Text.lines text) := Text.splitOn_free _ text

theorem uncut_prefixed {lead : Text} {lines : List Text} (free : Text.newline ∉ lead)
    (uncut : Uncut lines) : Uncut (lines.map (lead ++ ·)) := by
  intro line member
  obtain ⟨rest, inside, rfl⟩ := List.mem_map.mp member
  simp only [List.mem_append, not_or]
  exact ⟨free, uncut rest inside⟩

theorem uncut_hang {first further : Text} {lines : List Text} (head : Text.newline ∉ first)
    (tail : Text.newline ∉ further) (uncut : Uncut lines) : Uncut (hang first further lines) := by
  cases lines with
  | nil => exact uncut
  | cons line rest =>
      have shape : line :: rest = [line] ++ rest := rfl
      rw [shape, uncut_append] at uncut
      have hung : hang first further (line :: rest) =
          [line].map (first ++ ·) ++ rest.map (further ++ ·) := rfl
      rw [hung, uncut_append]
      exact ⟨uncut_prefixed head uncut.1, uncut_prefixed tail uncut.2⟩

theorem uncut_continueWith {lead : Text} {lines : List Text} (uncut : Uncut lines) :
    Uncut (continueWith lead lines) := by
  cases lines with
  | nil => exact uncut_lines lead
  | cons line rest =>
      rw [continueWith, uncut_append]
      exact ⟨uncut_lines _, fun other member => uncut other (List.mem_cons_of_mem line member)⟩

theorem uncut_compactText (value : Value) : Uncut [value.compactText] := by
  simpa [Uncut] using Text.newline_not_mem (Value.compactText_visible value)

end Free

mutual

theorem uncut_valueLines (display : Display) : (value : Value) → Uncut (valueLines display value)
  | .sequence _ [] => by simp [valueLines, Uncut]
  | .sequence _ (item :: rest) =>
      uncut_siblingLines display (item :: rest).length 0 (item :: rest)
  | .mapping form entries => by
      have attributes := uncut_attributeLines display (Node.tagKey entries) entries
      have children := uncut_childLines display entries
      simp only [valueLines]
      split
      · rw [uncut_append, uncut_append]
        exact ⟨⟨uncut_lines _, uncut_prefixed (newline_not_mem_margin display entries) attributes⟩,
          children⟩
      · exact uncut_compactText (.mapping form entries)
  | .null => uncut_compactText .null
  | .bool b => uncut_compactText (.bool b)
  | .int n => uncut_compactText (.int n)
  | .float x => uncut_compactText (.float x)
  | .str text => uncut_compactText (.str text)
  | .bytes content => uncut_compactText (.bytes content)
  | .set form items => uncut_compactText (.set form items)
  | .object label => uncut_compactText (.object label)
  | .options showPositions colors => uncut_compactText (.options showPositions colors)
termination_by structural value => value

theorem uncut_siblingLines (display : Display) (total index : Nat) :
    (items : List Value) → Uncut (siblingLines display total index items)
  | [] => uncut_nil
  | item :: rest => by
      have head := uncut_valueLines display item
      have tail := uncut_siblingLines display total (index + 1) rest
      rw [siblingLines, uncut_append]
      exact ⟨uncut_hang (newline_not_mem_connector display total index)
        (newline_not_mem_continuation display total index) head, tail⟩
termination_by structural items => items

theorem uncut_attributeLines (display : Display) (tagKey : Value) :
    (entries : Entries) → Uncut (attributeLines display tagKey entries)
  | [] => uncut_nil
  | (key, value) :: rest => by
      have inner := uncut_valueLines display value
      have tail := uncut_attributeLines display tagKey rest
      rw [attributeLines, uncut_append]
      refine ⟨?_, tail⟩
      split
      · simp only
        split
        · exact uncut_continueWith inner
        · exact uncut_append.mpr ⟨uncut_lines _, inner⟩
        · exact uncut_lines _
      · exact uncut_nil
termination_by structural entries => entries

theorem uncut_childLines (display : Display) :
    (entries : Entries) → Uncut (childLines display entries)
  | [] => uncut_nil
  | (key, value) :: rest => by
      have inner := uncut_valueLines display value
      have later := uncut_childLines display rest
      rw [childLines]
      split
      · split
        · exact inner
        · exact uncut_nil
      · exact later
termination_by structural entries => entries

end

mutual

theorem valueLines_ne_nil (display : Display) : (value : Value) → valueLines display value ≠ []
  | .sequence _ [] => by simp [valueLines]
  | .sequence _ (item :: rest) =>
      siblingLines_ne_nil display (item :: rest).length 0 (item :: rest) (by simp)
  | .mapping form entries => by
      simp only [valueLines]
      split
      · simp [Text.lines, Text.splitOn_ne_nil]
      · exact List.cons_ne_nil _ _
  | .null | .bool _ | .int _ | .float _ | .str _ | .bytes _ | .set _ _ | .object _
  | .options _ _ => List.cons_ne_nil _ _
termination_by structural value => value

theorem siblingLines_ne_nil (display : Display) (total index : Nat) :
    (items : List Value) → items ≠ [] → siblingLines display total index items ≠ []
  | [], nonempty => absurd rfl nonempty
  | item :: rest, _ => by
      obtain ⟨line, more, shape⟩ := List.exists_cons_of_ne_nil (valueLines_ne_nil display item)
      simp [siblingLines, shape, hang]
termination_by structural items => items

end

/-- Cutting a report gives back the lines it was joined from. -/
theorem lines_text (display : Display) (value : Value) :
    Text.lines (text display value) = valueLines display value :=
  Text.splitOn_joinWith (valueLines_ne_nil display value) (uncut_valueLines display value)

end TreeReport.Report
