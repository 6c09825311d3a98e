import TreeReport.Proofs.LineCount
import TreeReport.Proofs.RangeText

/-!
What ranges add to a plain report. A line on which the header of a node ends takes
the range of that node behind it, if it has one; every other line stays as it is.
So with and without ranges a report has the same lines, one for one. A range in which a
number is too long to be written takes the report with it.
-/
namespace TreeReport

namespace Text

def lastLine (text : Text) : Text := (lines text).getLast (splitOn_ne_nil newline text)

theorem lines_split (text : Text) : lines text = (lines text).dropLast ++ [lastLine text] :=
  (List.dropLast_concat_getLast _).symm

theorem dropLast_lines_length (text : Text) : (lines text).dropLast.length = text.newlines := by
  rw [List.length_dropLast, lines_length, Nat.add_sub_cancel]

theorem lines_append {after : Text} (free : newline ∉ after) (text : Text) :
    lines (text ++ after) = (lines text).dropLast ++ [lastLine text ++ after] := by
  have pieces : ∀ piece ∈ (lines text).dropLast ++ [lastLine text ++ after], newline ∉ piece := by
    have cut := splitOn_free newline text
    intro piece member
    rcases List.mem_append.mp member with early | late
    · exact cut piece (List.dropLast_subset _ early)
    · rw [List.mem_singleton.mp late, List.mem_append, not_or]
      exact ⟨cut _ (List.getLast_mem _), free⟩
  have joined : ∀ early : List Text, joinLines (early ++ [lastLine text ++ after]) =
      joinLines (early ++ [lastLine text]) ++ after := by
    intro early
    induction early with
    | nil => rfl
    | cons first rest ih =>
        rw [List.cons_append, List.cons_append, joinLines, joinLines,
          joinWith_cons _ _ (by simp), joinWith_cons _ _ (by simp), ← joinLines, ← joinLines, ih]
        simp
  have whole : joinLines (lines text) = text := joinWith_splitOn newline text
  have source : text ++ after = joinLines ((lines text).dropLast ++ [lastLine text ++ after]) := by
    rw [joined, ← lines_split, whole]
  rw [source]
  exact splitOn_joinWith (by simp) pieces

end Text

namespace Report

def rangeOf (entries : Entries) : Text :=
  SourceRange.text ((entries.get? "position").getD .null)

def rangeSuffix (entries : Entries) : Text :=
  if rangeOf entries = [] then [] else (" (" : Text) ++ rangeOf entries ++ (")" : Text)

-- Keys, types and tags may hold newlines. Only the last line of a header counts.
mutual

/-- For each line of a report the node whose header ends there, if one does. -/
def headerEnds : Value → List (Option Entries)
  | .sequence _ [] => [none]
  | .sequence _ items => itemEnds items
  | .mapping _ entries =>
      match Node.typeText? entries with
      | some typeText =>
          List.replicate (typeText.newlines + tagNewlines entries) none ++
            some entries :: (attributeEnds (Node.tagKey entries) entries ++ childEnds entries)
      | none => [none]
  | _ => [none]
termination_by structural value => value

def itemEnds : List Value → List (Option Entries)
  | [] => []
  | item :: rest => headerEnds item ++ itemEnds rest
termination_by structural items => items

def attributeEnds (tagKey : Value) : List (Value × Value) → List (Option Entries)
  | [] => []
  | (key, value) :: rest =>
      (if Node.isAttributeKey tagKey key then
        let keyLines := List.replicate key.plain.newlines none
        match expansion key.plain value with
        | .node => keyLines ++ headerEnds value
        | .listing => keyLines ++ none :: headerEnds value
        | .text => keyLines ++ [none]
      else []) ++ attributeEnds tagKey rest
termination_by structural entries => entries

def childEnds : List (Value × Value) → List (Option Entries)
  | [] => []
  | (key, value) :: rest =>
      if key.isText "children" then
        (if value.isSequence && value.truth then headerEnds value else [])
      else childEnds rest
termination_by structural entries => entries

end

/-- Behind what stands before it, the line is the last line of the node's header. -/
def EndsHeader (line : Text) (entries : Entries) : Prop :=
  ∃ lead typeText, Node.typeText? entries = some typeText ∧
    line = lead ++ Text.lastLine (header ⟨false, false⟩ typeText entries)

/-- Line by line, the first report with the ranges of the nodes is the second one. -/
inductive Ranged : List Text → List (Option Entries) → List Text → Prop where
  | nil : Ranged [] [] []
  | inner {bare : List Text} {ends : List (Option Entries)} {shown : List Text} (line : Text)
      (rest : Ranged bare ends shown) : Ranged (line :: bare) (none :: ends) (line :: shown)
  | closing {bare : List Text} {ends : List (Option Entries)} {shown : List Text} {line : Text}
      {entries : Entries} (ended : EndsHeader line entries) (rest : Ranged bare ends shown) :
      Ranged (line :: bare) (some entries :: ends) ((line ++ rangeSuffix entries) :: shown)

section Layout

variable {bare shown : List Text} {ends : List (Option Entries)}

theorem EndsHeader.behind {line : Text} {entries : Entries} (ended : EndsHeader line entries)
    (lead : Text) : EndsHeader (lead ++ line) entries := by
  obtain ⟨before, typeText, typed, rfl⟩ := ended
  exact ⟨lead ++ before, typeText, typed, (List.append_assoc ..).symm⟩

theorem ranged_plain (lines : List Text) :
    Ranged lines (List.replicate lines.length none) lines := by
  induction lines with
  | nil => exact .nil
  | cons line rest ih => exact .inner line ih

theorem Ranged.append {moreBare moreShown : List Text} {moreEnds : List (Option Entries)}
    (first : Ranged bare ends shown) (second : Ranged moreBare moreEnds moreShown) :
    Ranged (bare ++ moreBare) (ends ++ moreEnds) (shown ++ moreShown) := by
  induction first with
  | nil => exact second
  | inner line rest ih => exact .inner line ih
  | closing ended rest ih => exact .closing ended ih

theorem Ranged.prefixed (ranged : Ranged bare ends shown) (lead : Text) :
    Ranged (bare.map (lead ++ ·)) ends (shown.map (lead ++ ·)) := by
  induction ranged with
  | nil => exact .nil
  | inner line rest ih => exact .inner (lead ++ line) ih
  | closing ended rest ih =>
      rw [List.map_cons, List.map_cons, ← List.append_assoc]
      exact .closing (ended.behind lead) ih

theorem Ranged.hang (ranged : Ranged bare ends shown) (first further : Text) :
    Ranged (hang first further bare) ends (hang first further shown) := by
  cases ranged with
  | nil => exact .nil
  | inner line rest => exact .inner (first ++ line) (rest.prefixed further)
  | closing ended rest =>
      simp only [Report.hang, ← List.append_assoc]
      exact .closing (ended.behind first) (rest.prefixed further)

theorem newline_not_mem_rangeSuffix (entries : Entries) :
    Text.newline ∉ rangeSuffix entries := by
  have range := Text.newline_not_mem
    (SourceRange.text_visible ((entries.get? "position").getD .null))
  unfold rangeSuffix
  split
  · exact List.not_mem_nil
  · have opening : Text.newline ∉ (" (" : Text) := by decide
    have closing : Text.newline ∉ (")" : Text) := by decide
    simp only [rangeOf, List.mem_append, not_or]
    exact ⟨⟨opening, range⟩, closing⟩

/-- The newlines of the lead come first, then the line that goes on with it. -/
theorem Ranged.continued (ranged : Ranged bare ends shown) (nonempty : bare ≠ [])
    (uncut : Uncut bare) (lead : Text) :
    Ranged (continueWith lead bare) (List.replicate lead.newlines none ++ ends)
      (continueWith lead shown) := by
  have front := ranged_plain (Text.lines lead).dropLast
  rw [Text.dropLast_lines_length] at front
  cases ranged with
  | nil => exact absurd rfl nonempty
  | inner line rest =>
      have free : Text.newline ∉ line := uncut line (by simp)
      simp only [continueWith, Text.lines_append free, List.append_assoc]
      exact front.append (.inner _ rest)
  | @closing more moreEnds moreShown line entries ended rest =>
      have free : Text.newline ∉ line := uncut line (by simp)
      have both : Text.newline ∉ line ++ rangeSuffix entries := by
        rw [List.mem_append, not_or]
        exact ⟨free, newline_not_mem_rangeSuffix entries⟩
      simp only [continueWith, Text.lines_append free, Text.lines_append both, List.append_assoc]
      rw [List.singleton_append, List.singleton_append, ← List.append_assoc _ line]
      exact front.append (.closing (ended.behind _) rest)

end Layout

section Header

theorem rangePart_plain (entries : Entries) :
    rangePart ⟨true, false⟩ entries = rangeSuffix entries := by
  by_cases none : rangeOf entries = []
  · have empty : (SourceRange.text ((entries.get? "position").getD .null)).isEmpty = true :=
      List.isEmpty_iff.mpr none
    simp only [rangePart, rangeSuffix, none, empty, ↓reduceIte]
  · have shown : (SourceRange.text ((entries.get? "position").getD .null)).isEmpty = false :=
      List.isEmpty_eq_false_iff.mpr none
    simp only [rangePart, rangeSuffix, none, shown, ↓reduceIte, Bool.false_eq_true]
    rfl

theorem header_ranged (typeText : Text) (entries : Entries) :
    header ⟨true, false⟩ typeText entries =
      header ⟨false, false⟩ typeText entries ++ rangeSuffix entries := by
  have bare : rangePart ⟨false, false⟩ entries = [] := rfl
  rw [header, header, rangePart_plain, bare, List.append_nil]
  rfl

theorem ranged_header {typeText : Text} {entries : Entries}
    (typed : Node.typeText? entries = some typeText) :
    Ranged (Text.lines (header ⟨false, false⟩ typeText entries))
      (List.replicate (typeText.newlines + tagNewlines entries) none ++ [some entries])
      (Text.lines (header ⟨true, false⟩ typeText entries)) := by
  have front := ranged_plain (Text.lines (header ⟨false, false⟩ typeText entries)).dropLast
  rw [Text.dropLast_lines_length, newlines_header] at front
  have bare := Text.lines_split (header ⟨false, false⟩ typeText entries)
  have shown := Text.lines_append (newline_not_mem_rangeSuffix entries)
    (header ⟨false, false⟩ typeText entries)
  rw [← header_ranged] at shown
  have whole := front.append (.closing ⟨[], typeText, typed, rfl⟩ .nil)
  rwa [List.nil_append, ← bare, ← shown] at whole

end Header

-- The recursion is that of the report; connectors and margins show no range.
mutual

theorem ranged_valueLines : (value : Value) →
    Ranged (valueLines ⟨false, false⟩ value) (headerEnds value) (valueLines ⟨true, false⟩ value)
  | .sequence _ [] => .inner [] .nil
  | .sequence _ (item :: rest) => ranged_siblingLines (item :: rest).length 0 (item :: rest)
  | .mapping form entries => by
      have attributes := ranged_attributeLines (Node.tagKey entries) entries
      have children := ranged_childLines entries
      simp only [valueLines, headerEnds]
      cases typed : Node.typeText? entries with
      | none => exact .inner _ .nil
      | some typeText =>
          have inside := (attributes.prefixed (margin ⟨false, false⟩ entries)).append children
          have whole := (ranged_header typed).append inside
          simp only [List.append_assoc] at whole ⊢
          exact whole
  | .null | .bool _ | .int _ | .float _ | .str _ | .bytes _ | .set _ _ | .object _
  | .options _ _ => .inner _ .nil
termination_by structural value => value

theorem ranged_siblingLines (total index : Nat) : (items : List Value) →
    Ranged (siblingLines ⟨false, false⟩ total index items) (itemEnds items)
      (siblingLines ⟨true, false⟩ total index items)
  | [] => .nil
  | item :: rest => by
      have head := ranged_valueLines item
      have tail := ranged_siblingLines total (index + 1) rest
      exact (head.hang _ _).append tail
termination_by structural items => items

theorem ranged_attributeLines (tagKey : Value) : (entries : Entries) →
    Ranged (attributeLines ⟨false, false⟩ tagKey entries) (attributeEnds tagKey entries)
      (attributeLines ⟨true, false⟩ tagKey entries)
  | [] => .nil
  | (key, value) :: rest => by
      have inner := ranged_valueLines value
      have tail := ranged_attributeLines tagKey rest
      have colon : Text.newlines ":" = 0 := by decide
      have lead : Text.newlines ": " = 0 := by decide
      have compact := Text.newlines_of_visible value.compactText_visible
      rw [attributeLines, attributeEnds, attributeLines]
      apply Ranged.append _ tail
      split
      · simp only
        cases expansion key.plain value with
        | node =>
            have continued := inner.continued (valueLines_ne_nil ⟨false, false⟩ value)
              (uncut_valueLines ⟨false, false⟩ value) (key.plain ++ (": " : Text))
            rwa [Text.newlines_append, lead, Nat.add_zero] at continued
        | listing =>
            have front := ranged_plain (Text.lines (key.plain ++ (":" : Text)))
            rw [Text.lines_length, Text.newlines_append, colon, Nat.add_zero,
              List.replicate_succ'] at front
            have whole := front.append inner
            rwa [List.append_assoc, List.singleton_append] at whole
        | text =>
            have line := ranged_plain (Text.lines (key.plain ++ (": " : Text) ++ value.compactText))
            rwa [Text.lines_length, Text.newlines_append, Text.newlines_append, lead, compact,
              List.replicate_succ'] at line
      · exact .nil
termination_by structural entries => entries

theorem ranged_childLines : (entries : Entries) →
    Ranged (childLines ⟨false, false⟩ entries) (childEnds entries)
      (childLines ⟨true, false⟩ entries)
  | [] => .nil
  | (key, value) :: rest => by
      have inner := ranged_valueLines value
      have later := ranged_childLines rest
      simp only [childLines, childEnds]
      split
      · split
        · exact inner
        · exact .nil
      · exact later
termination_by structural entries => entries

end

section Places

variable {bare shown : List Text} {ends : List (Option Entries)}

theorem Ranged.length (ranged : Ranged bare ends shown) :
    shown.length = bare.length ∧ ends.length = bare.length := by
  induction ranged with
  | nil => exact ⟨rfl, rfl⟩
  | inner line rest ih => exact ⟨congrArg (· + 1) ih.1, congrArg (· + 1) ih.2⟩
  | closing ended rest ih => exact ⟨congrArg (· + 1) ih.1, congrArg (· + 1) ih.2⟩

/-- At each place no header ends and the line is the same, or a header ends and the
range of its node stands behind the line. -/
theorem Ranged.at_place (ranged : Ranged bare ends shown) (place : Nat) {line : Text}
    (here : bare[place]? = some line) :
    ends[place]? = some none ∧ shown[place]? = some line ∨
      ∃ entries, ends[place]? = some (some entries) ∧ EndsHeader line entries ∧
        shown[place]? = some (line ++ rangeSuffix entries) := by
  induction ranged generalizing place with
  | nil => contradiction
  | inner first rest ih =>
      cases place with
      | zero =>
          cases here
          exact .inl ⟨rfl, rfl⟩
      | succ place => exact ih place here
  | closing ended rest ih =>
      cases place with
      | zero =>
          cases here
          exact .inr ⟨_, rfl, ended, rfl⟩
      | succ place => exact ih place here

end Places

section Integers

theorem mem_rangeWritten {positions : Bool} {entries : Entries} {n : Int} :
    n ∈ rangeWritten positions entries ↔
      positions = true ∧ n ∈ SourceRange.written ((entries.get? "position").getD .null) := by
  cases positions <;> simp [rangeWritten]

def InRange (ends : List (Option Entries)) (n : Int) : Prop :=
  ∃ entries, some entries ∈ ends ∧
    n ∈ SourceRange.written ((entries.get? "position").getD .null)

variable {n : Int}

theorem inRange_append (first second : List (Option Entries)) :
    InRange (first ++ second) n ↔ InRange first n ∨ InRange second n := by
  simp only [InRange, List.mem_append, or_and_right, exists_or]

theorem inRange_cons_none (rest : List (Option Entries)) :
    InRange (none :: rest) n ↔ InRange rest n := by
  simp [InRange]

theorem inRange_replicate (many : Nat) : ¬ InRange (List.replicate many none) n := by
  simp [InRange, List.mem_replicate]

theorem inRange_cons_some (entries : Entries) (rest : List (Option Entries)) :
    InRange (some entries :: rest) n ↔
      n ∈ SourceRange.written ((entries.get? "position").getD .null) ∨ InRange rest n := by
  simp [InRange, or_and_right, exists_or]

-- The recursion is that of the report; what is no range is written either way.
mutual

theorem written_ranges : (value : Value) →
    (n ∈ written true value ↔ n ∈ written false value ∨ InRange (headerEnds value) n)
  | .sequence _ [] => by simp [written, writtenItems, headerEnds, InRange]
  | .sequence _ (item :: rest) => writtenItems_ranges (item :: rest)
  | .mapping form entries => by
      have attributes := writtenAttributes_ranges (Node.tagKey entries) entries
      have children := writtenChildren_ranges entries
      simp only [written, headerEnds]
      cases Node.typeText? entries with
      | none => simp [InRange]
      | some typeText =>
          simp only [List.mem_append, mem_rangeWritten, attributes, children, inRange_append,
            inRange_cons_some, inRange_replicate]
          grind
  | .null | .bool _ | .int _ | .float _ | .str _ | .bytes _ | .set _ _ | .object _
  | .options _ _ => by simp [written, headerEnds, InRange]
termination_by structural value => value

theorem writtenItems_ranges : (items : List Value) →
    (n ∈ writtenItems true items ↔ n ∈ writtenItems false items ∨ InRange (itemEnds items) n)
  | [] => by simp [writtenItems, itemEnds, InRange]
  | item :: rest => by
      have head := written_ranges item
      have tail := writtenItems_ranges rest
      simp only [writtenItems, itemEnds, List.mem_append, inRange_append, head, tail]
      grind
termination_by structural items => items

theorem writtenAttributes_ranges (tagKey : Value) : (entries : Entries) →
    (n ∈ writtenAttributes true tagKey entries ↔
      n ∈ writtenAttributes false tagKey entries ∨ InRange (attributeEnds tagKey entries) n)
  | [] => by simp [writtenAttributes, attributeEnds, InRange]
  | (key, value) :: rest => by
      have inner := written_ranges value
      have tail := writtenAttributes_ranges tagKey rest
      simp only [writtenAttributes, attributeEnds, List.mem_append, inRange_append, tail]
      split
      · cases expansion key.plain value <;>
          simp only [List.mem_append, inRange_append, inRange_cons_none, inRange_replicate, inner]
        · grind
        · grind
        · simp [InRange]
          grind
      · simp [InRange]
termination_by structural entries => entries

theorem writtenChildren_ranges : (entries : Entries) →
    (n ∈ writtenChildren true entries ↔
      n ∈ writtenChildren false entries ∨ InRange (childEnds entries) n)
  | [] => by simp [writtenChildren, childEnds, InRange]
  | (key, value) :: rest => by
      have inner := written_ranges value
      have later := writtenChildren_ranges rest
      simp only [writtenChildren, childEnds]
      split
      · split
        · exact inner
        · simp [InRange]
      · exact later
termination_by structural entries => entries

end

/-- A report with ranges fails where the one without fails, and by a range of its own. -/
theorem render_positions_error_iff (value : Value) :
    render ⟨true, false⟩ value = .error ⟨⟩ ↔
      render ⟨false, false⟩ value = .error ⟨⟩ ∨
        ∃ entries, some entries ∈ headerEnds value ∧
          SourceRange.stringify ((entries.get? "position").getD .null) = .error ⟨⟩ := by
  simp only [render_eq_error_iff, SourceRange.stringify, Decimal.write_eq_error_iff, written_ranges,
    InRange]
  grind

end Integers

/-- A report with ranges has the lines of the report without, and no others. A line stays
as it is, unless the header of a node with a range ends on it; then a space and the range
in parentheses stand behind it, and nothing else changes. There is no report with ranges
exactly where there is none without, or where the range of a node that has a header in it
has no text. -/
theorem positions_only_add_ranges (value : Value) :
    (∀ shown, render ⟨true, false⟩ value = .ok shown →
      ∃ bare, render ⟨false, false⟩ value = .ok bare ∧
        (Text.lines shown).length = (Text.lines bare).length ∧
        (headerEnds value).length = (Text.lines bare).length ∧
        ∀ (place : Nat) (line : Text), (Text.lines bare)[place]? = some line →
          (headerEnds value)[place]? = some none ∧ (Text.lines shown)[place]? = some line ∨
            ∃ entries range, (headerEnds value)[place]? = some (some entries) ∧
              EndsHeader line entries ∧
              SourceRange.stringify ((entries.get? "position").getD .null) = .ok range ∧
              (Text.lines shown)[place]? = some (if range = [] then line
                else line ++ ((" (" : Text) ++ range ++ (")" : Text)))) ∧
    (render ⟨true, false⟩ value = .error ⟨⟩ ↔
      render ⟨false, false⟩ value = .error ⟨⟩ ∨
        ∃ entries, some entries ∈ headerEnds value ∧
          SourceRange.stringify ((entries.get? "position").getD .null) = .error ⟨⟩) := by
  refine ⟨fun shown came => ?_, render_positions_error_iff value⟩
  obtain ⟨short, rfl⟩ := render_eq_ok_iff.mp came
  have ranged : Ranged (Text.lines (text ⟨false, false⟩ value)) (headerEnds value)
      (Text.lines (text ⟨true, false⟩ value)) := by
    rw [lines_text, lines_text]
    exact ranged_valueLines value
  refine ⟨_, render_ok fun n member => short n ((written_ranges value).mpr (.inl member)),
    ranged.length.1, ranged.length.2, fun place line here => ?_⟩
  rcases ranged.at_place place here with plain | ⟨entries, found, ended, behind⟩
  · exact .inl plain
  · have stringified : SourceRange.stringify ((entries.get? "position").getD .null) =
        .ok (rangeOf entries) := by
      apply Decimal.write_ok
      intro n member
      exact short n
        ((written_ranges value).mpr (.inr ⟨entries, List.mem_of_getElem? found, member⟩))
    refine .inr ⟨entries, rangeOf entries, found, ended, stringified, ?_⟩
    rw [behind, rangeSuffix]
    split
    · rw [List.append_nil]
    · rfl

/-- A header of two lines, and a node that begins behind a key of two lines. -/
example : (headerEnds (.mapping .dictionary [(.str "type", .str "a\nb"), (.str "k\nl",
    .mapping .view [(.str "type", .str "c")])])).map Option.isSome =
      [false, true, false, true] := by decide

/-- A node whose report comes about without its range only. -/
theorem long_range_hides_node :
    let value : Value := .mapping .dictionary [(.str "type", .str "a"),
      (.str "position", .mapping .dictionary [(.str "start", .mapping .dictionary
        [(.str "line", .int Decimal.leastLong)])])]
    render ⟨false, false⟩ value = .ok "a" ∧ render ⟨true, false⟩ value = .error ⟨⟩ := by
  intro value
  have bare : ∀ n : Int, render ⟨false, false⟩ (.mapping .dictionary [(.str "type", .str "a"),
      (.str "position", .mapping .dictionary [(.str "start", .mapping .dictionary
        [(.str "line", .int n)])])]) = .ok "a" := fun n => rfl
  have failed := (SourceRange.stringify_long_line Decimal.not_short_leastLong).2
  have ended : some _ ∈ headerEnds value := List.mem_cons_self
  exact ⟨bare _, (render_positions_error_iff value).mpr (.inr ⟨_, ended, failed⟩)⟩

end Report

end TreeReport
