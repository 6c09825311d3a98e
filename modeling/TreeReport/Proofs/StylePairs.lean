import TreeReport.Proofs.EntryPoints
import TreeReport.Proofs.NodeAttributes
import TreeReport.Proofs.RangeSuffixes
import TreeReport.Proofs.StyleSequences
import TreeReport.Proofs.StyledReport

/-!
Styles come in pairs. Where the texts of a value hold no escapes, the sequences in its
styled report are those of the painted tokens alone: each opens a style and is followed
by the one that ends it, and no line ends in between. The one token that can run over
the end of a line is a type with a newline in it. Its style stays open there, so the
bars of the lines below are painted inside of it.
-/
namespace TreeReport

open Style

section Quoted

theorem escape_not_mem_hex (width value : Nat) : escape ∉ Text.hex width value :=
  Report.escape_not_mem (Json.hex_visible width value)

theorem escape_not_mem_escapedCode (code : Nat) : escape ∉ Text.escapedCode code := by
  have slash : escape ≠ Text.backslash := by decide
  unfold Text.escapedCode
  repeat' split
  all_goals simp [slash, escape_not_mem_hex]

theorem escape_not_mem_quotedSymbol {mark : Symbol} (plain : escape ≠ mark) (symbol : Symbol) :
    escape ∉ Text.quotedSymbol mark symbol := by
  have slash : escape ≠ Text.backslash := by decide
  have printed : Text.isPrintable escape = false := by decide
  unfold Text.quotedSymbol
  split
  · next special =>
      rcases special with rfl | rfl
      · simp [slash, plain]
      · simp [slash]
  · repeat' split
    · simp [slash]
    · simp [slash]
    · simp [slash]
    · next shown =>
        intro same
        rw [List.mem_singleton] at same
        rw [← same, printed] at shown
        contradiction
    · exact escape_not_mem_escapedCode _

theorem escape_ne_quoteMark (text : Text) : escape ≠ Text.quoteMark text := by
  unfold Text.quoteMark
  split <;> decide

theorem escape_not_mem_quoted (text : Text) : escape ∉ text.quoted := by
  have mark := escape_ne_quoteMark text
  simp [Text.quoted, mark, escape_not_mem_quotedSymbol mark]

theorem escape_not_mem_quotedBytes (content : List UInt8) : escape ∉ Text.quotedBytes content := by
  have mark := escape_ne_quoteMark (content.map fun byte => .char (Char.ofNat byte.toNat))
  have letter : escape ≠ .char 'b' := by decide
  have spelled : ∀ byte, escape ∉ Text.quotedByte
      (Text.quoteMark (content.map fun byte => .char (Char.ofNat byte.toNat))) byte := by
    intro byte
    simp only [Text.quotedByte]
    split
    · exact escape_not_mem_quotedSymbol mark _
    · exact escape_not_mem_escapedCode _
  simp [Text.quotedBytes, mark, letter, spelled]

end Quoted

namespace Value

/-- No escape stands in the strings of the value, at any depth, nor in what its objects
call themselves. Keys are such values. -/
inductive Unescaped : Value → Prop where
  | null : Unescaped .null
  | bool (b : Bool) : Unescaped (.bool b)
  | int (n : Int) : Unescaped (.int n)
  | float (x : Binary64) : Unescaped (.float x)
  | bytes (content : List UInt8) : Unescaped (.bytes content)
  | str {text : Text} (free : escape ∉ text) : Unescaped (.str text)
  | object {label : Text} (free : escape ∉ label) : Unescaped (.object label)
  | sequence (form : SequenceForm) {items : List Value} (all : ∀ item ∈ items, Unescaped item) :
      Unescaped (.sequence form items)
  | set (form : SetForm) {items : List Value} (all : ∀ item ∈ items, Unescaped item) :
      Unescaped (.set form items)
  | mapping (form : MappingForm) {entries : Entries}
      (keys : ∀ entry ∈ entries, Unescaped entry.1)
      (values : ∀ entry ∈ entries, Unescaped entry.2) : Unescaped (.mapping form entries)
  | options {showPositions colors : Value} (positions : Unescaped showPositions)
      (styled : Unescaped colors) : Unescaped (.options showPositions colors)

/-- No escape stands in the strings and keys of the value. Only what is shown as it is
counts: the elements of a set, and objects that are no keys, are shown as compact text. -/
inductive EscapeFree : Value → Prop where
  | null : EscapeFree .null
  | bool (b : Bool) : EscapeFree (.bool b)
  | int (n : Int) : EscapeFree (.int n)
  | float (x : Binary64) : EscapeFree (.float x)
  | bytes (content : List UInt8) : EscapeFree (.bytes content)
  | str {text : Text} (free : escape ∉ text) : EscapeFree (.str text)
  | object (label : Text) : EscapeFree (.object label)
  | set (form : SetForm) (items : List Value) : EscapeFree (.set form items)
  | options (showPositions colors : Value) : EscapeFree (.options showPositions colors)
  | sequence (form : SequenceForm) {items : List Value} (all : ∀ item ∈ items, EscapeFree item) :
      EscapeFree (.sequence form items)
  | mapping (form : MappingForm) {entries : Entries}
      (keys : ∀ entry ∈ entries, Unescaped entry.1)
      (values : ∀ entry ∈ entries, EscapeFree entry.2) : EscapeFree (.mapping form entries)

section Literals

theorem not_mem_bracketed {symbol : Symbol} {opening closing : Text} {pieces : List Text}
    (opens : symbol ∉ opening) (closes : symbol ∉ closing) (apart : symbol ∉ (", " : Text))
    (all : ∀ piece ∈ pieces, symbol ∉ piece) : symbol ∉ bracketed opening pieces closing := by
  have inner : symbol ∉ commas pieces := by
    intro member
    rcases Text.mem_joinWith member with between | ⟨piece, listed, inside⟩
    · exact apart between
    · exact all piece listed inside
  simp only [bracketed, List.mem_append, not_or]
  exact ⟨⟨opens, inner⟩, closes⟩

theorem Unescaped.literal {value : Value} (unescaped : Unescaped value) :
    escape ∉ value.literal := by
  have comma : escape ∉ (", " : Text) := by decide
  induction unescaped with
  | null => decide
  | bool b => cases b <;> decide
  | int n => exact Report.escape_not_mem (Decimal.integer_visible n)
  | float x => exact Report.escape_not_mem (Binary64.text_visible x)
  | bytes content => exact escape_not_mem_quotedBytes content
  | @str text free => exact escape_not_mem_quoted text
  | object free => exact free
  | @sequence form items all ih =>
      have pieces : ∀ piece ∈ literals items, escape ∉ piece := by
        rw [literals_map]
        simpa using ih
      cases form with
      | list => exact not_mem_bracketed (by decide) (by decide) comma pieces
      | tuple =>
          rw [Value.literal]
          unfold tupleText
          have brackets :
              escape ∉ ("(" : Text) ∧ escape ∉ (",)" : Text) ∧ escape ∉ (")" : Text) := by
            decide
          split
          · next only shape =>
              rw [shape] at pieces
              simpa [brackets] using pieces
          · exact not_mem_bracketed (by decide) (by decide) comma pieces
  | @set form items all ih =>
      have pieces : ∀ piece ∈ literals items, escape ∉ piece := by
        rw [literals_map]
        simpa using ih
      rw [Value.literal]
      unfold setText
      split
      · decide
      · exact not_mem_bracketed (by decide) (by decide) comma pieces
      · decide
      · exact not_mem_bracketed (by decide) (by decide) comma pieces
  | @mapping form entries keys values keyTexts valueTexts =>
      have colon : escape ∉ (": " : Text) := by decide
      have pieces : ∀ piece ∈ literalEntries entries, escape ∉ piece := by
        rw [literalEntries_map]
        intro piece member
        obtain ⟨entry, inside, rfl⟩ := List.mem_map.mp member
        simp [colon, keyTexts entry inside, valueTexts entry inside]
      rw [Value.literal]
      cases form with
      | dictionary => exact not_mem_bracketed (by decide) (by decide) comma pieces
      | view => exact not_mem_bracketed (by decide) (by decide) comma pieces
  | options positions styled one two =>
      have words : escape ∉ ("InspectOptions(show_positions=" : Text) ∧
          escape ∉ (", colors=" : Text) ∧ escape ∉ (")" : Text) := by decide
      simp [Value.literal, words, one, two]

theorem Unescaped.plain {value : Value} (unescaped : Unescaped value) : escape ∉ value.plain := by
  have literal := unescaped.literal
  cases unescaped with
  | str free => exact free
  | _ => exact literal

end Literals

theorem EscapeFree.text {form : MappingForm} {entries : Entries} {key text : Text}
    (free : EscapeFree (.mapping form entries)) (found : entries.get? key = some (.str text)) :
    escape ∉ text := by
  obtain ⟨name, inside⟩ := get?_mem found
  cases free with
  | mapping _ keys values =>
      cases values _ inside with
      | str free => exact free

end Value

namespace Report

section Lines

theorem lines_behind {lead : Text} (uncut : Text.newline ∉ lead) (rest : Text) :
    ∃ first more, Text.lines rest = first :: more ∧
      Text.lines (lead ++ rest) = (lead ++ first) :: more := by
  induction lead with
  | nil =>
      obtain ⟨first, more, shape⟩ :=
        List.exists_cons_of_ne_nil (Text.splitOn_ne_nil Text.newline rest)
      exact ⟨first, more, shape, shape⟩
  | cons symbol lead ih =>
      rw [List.mem_cons, not_or] at uncut
      obtain ⟨first, more, shape, whole⟩ := ih uncut.2
      refine ⟨first, more, shape, ?_⟩
      rw [Text.lines] at whole
      rw [List.cons_append, Text.lines, Text.splitOn, if_neg (Ne.symm uncut.1), whole]
      rfl

theorem closed_lines_lead {lead : Text} (leads : Lead lead) (uncut : Text.newline ∉ lead)
    (rest : Text) : AllClosed (Text.lines (lead ++ rest)) ↔ AllClosed (Text.lines rest) := by
  obtain ⟨first, more, shape, whole⟩ := lines_behind uncut rest
  rw [whole, shape, allClosed_cons, allClosed_cons, closed_lead_append leads]

theorem closed_lines_raw {raw : Text} (plain : escape ∉ raw) (rest : Text) :
    AllClosed (Text.lines (raw ++ rest)) ↔ AllClosed (Text.lines rest) := by
  induction raw with
  | nil => exact Iff.rfl
  | cons symbol raw ih =>
      rw [List.mem_cons, not_or] at plain
      by_cases cut : symbol = Text.newline
      · have empty : Text.lines (symbol :: raw ++ rest) = [] :: Text.lines (raw ++ rest) := by
          simp [Text.lines, Text.splitOn, cut]
        rw [empty, allClosed_cons, ih plain.2]
        exact and_iff_right closed_nil
      · have single : escape ∉ [symbol] := by simpa using plain.1
        rw [← ih plain.2, ← List.singleton_append, List.append_assoc]
        exact closed_lines_lead (lead_plain single) (by simpa using Ne.symm cut) _

theorem closed_raw {raw : Text} (plain : escape ∉ raw) : AllClosed (Text.lines raw) := by
  have whole := closed_lines_raw plain []
  rw [List.append_nil] at whole
  exact whole.mpr (by simp [Text.lines, Text.splitOn, closed_nil])

theorem closed_lines_uncut {line : Text} (uncut : Text.newline ∉ line) :
    AllClosed (Text.lines line) ↔ Closed line := by
  rw [Text.lines, Text.splitOn_of_free uncut]
  simp

end Lines

section Header

variable {form : MappingForm} {entries : Entries}

theorem closed_tagPart (display : Display) (free : Value.EscapeFree (.mapping form entries))
    (rest : Text) : AllClosed (Text.lines (tagPart display entries ++ rest)) ↔
      AllClosed (Text.lines rest) := by
  unfold tagPart
  split
  · next key name named =>
      have raw : escape ∉ name := free.text (Node.elementName_iff.mp named).2.1
      rw [List.append_assoc, List.append_assoc,
        closed_lines_lead (lead_paint (by decide) _ _) (newline_not_mem_paint (by decide) _ _),
        closed_lines_raw raw,
        closed_lines_lead (lead_paint (by decide) _ _) (newline_not_mem_paint (by decide) _ _)]
  · exact Iff.rfl

theorem lead_contentPart (display : Display) (entries : Entries) :
    Lead (contentPart display entries) := by
  have digits := fun n => escape_not_mem (Decimal.natural_visible n)
  have compact := fun value => escape_not_mem (Value.compactText_visible value)
  unfold contentPart
  split
  · exact ((lead_paint (by decide) _ _).append (lead_paint (digits _) _ _)).append
      (lead_paint (by decide) _ _)
  · have blank : escape ∉ ([.char ' '] : Text) := by decide
    exact (lead_plain blank).append (lead_paint (compact _) _ _)
  · exact lead_plain List.not_mem_nil

theorem lead_rangePart (display : Display) (entries : Entries) :
    Lead (rangePart display entries) := by
  have range := fun value => escape_not_mem (SourceRange.text_visible value)
  unfold rangePart
  split
  · simp only
    split
    · exact lead_plain List.not_mem_nil
    · have opening : Lead ([.char ' '] ++ paint .punctuation display.colors "(") :=
        (lead_plain (by decide)).append (lead_paint (by decide) _ _)
      exact (opening.append (lead_plain (range _))).append (lead_paint (by decide) _ _)
  · exact lead_plain List.not_mem_nil

theorem uncut_contentPart (display : Display) (entries : Entries) :
    Text.newline ∉ contentPart display entries :=
  List.count_eq_zero.mp (newlines_contentPart display entries)

theorem uncut_rangePart (display : Display) (entries : Entries) :
    Text.newline ∉ rangePart display entries :=
  List.count_eq_zero.mp (newlines_rangePart display entries)

-- The style of the type ends on its line, if the type ends there. Otherwise the line
-- where the type is cut holds the code that opens the style and no other.
theorem closed_header (positions : Bool) (free : Value.EscapeFree (.mapping form entries))
    {typeText : Text} (typed : Node.typeText? entries = some typeText) :
    AllClosed (Text.lines (header ⟨positions, true⟩ typeText entries)) ↔
      Text.newline ∉ typeText := by
  have plain : escape ∉ typeText := free.text (Value.typeText_get typed)
  constructor
  · intro closed cut
    obtain ⟨piece, after, shape, uncut⟩ := List.eq_append_cons_of_mem cut
    obtain ⟨tail, whole⟩ : ∃ tail, header ⟨positions, true⟩ typeText entries =
        (sequenceOf 1 ++ piece) ++ Text.newline :: tail := by
      simp [header, paint, shape, Role.openingCode]
    have begun : Text.newline ∉ sequenceOf 1 ++ piece := by
      rw [List.mem_append, not_or]
      exact ⟨newline_not_mem_sequence 1, uncut⟩
    rw [whole, Text.lines, Text.splitOn_append begun, allClosed_cons] at closed
    have bare : escape ∉ piece := fun inside => plain (by simp [shape, inside])
    have holds := (holds_sequenceOf (sequenceOf_parameters .nodeType).1).append (holds_plain bare)
    have single : Closed (sequenceOf Role.nodeType.openingCode ++ piece) := closed.1
    rw [Closed, holds.sequences] at single
    exact not_paired_single _ single
  · intro uncut
    have behind : AllClosed (Text.lines (rangePart ⟨positions, true⟩ entries)) := by
      rw [closed_lines_uncut (uncut_rangePart _ _)]
      exact closed_lead (lead_rangePart _ _)
    rw [header, List.append_assoc, List.append_assoc,
      closed_lines_lead (lead_paint plain _ _) (newline_not_mem_paint uncut _ _),
      closed_tagPart _ free, closed_lines_lead (lead_contentPart _ _) (uncut_contentPart _ _)]
    exact behind

end Header

/-- The type of each of the nodes is a single line. -/
def SingleLineTypes (nodes : List (Option Entries)) : Prop :=
  ∀ node ∈ nodes, ∀ entries ∈ node, ∀ typeText ∈ Node.typeText? entries,
    Text.newline ∉ typeText

instance (nodes : List (Option Entries)) : Decidable (SingleLineTypes nodes) := by
  unfold SingleLineTypes
  infer_instance

section Layout

theorem singleLineTypes_nil : SingleLineTypes [] := by simp [SingleLineTypes]

theorem singleLineTypes_append (first second : List (Option Entries)) :
    SingleLineTypes (first ++ second) ↔ SingleLineTypes first ∧ SingleLineTypes second :=
  List.forall_mem_append

theorem singleLineTypes_cons_none (rest : List (Option Entries)) :
    SingleLineTypes (none :: rest) ↔ SingleLineTypes rest := by
  simp [SingleLineTypes]

theorem singleLineTypes_none (count : Nat) : SingleLineTypes (List.replicate count none) := by
  simp [SingleLineTypes]

theorem singleLineTypes_some {entries : Entries} {typeText : Text}
    (typed : Node.typeText? entries = some typeText) (rest : List (Option Entries)) :
    SingleLineTypes (some entries :: rest) ↔ Text.newline ∉ typeText ∧ SingleLineTypes rest := by
  simp [SingleLineTypes, typed]

theorem closed_hang {lead further : Text} (opening : Lead lead) (continued : Lead further)
    (lines : List Text) : AllClosed (hang lead further lines) ↔ AllClosed lines := by
  cases lines with
  | nil => exact Iff.rfl
  | cons line rest =>
      rw [hang, allClosed_cons, allClosed_cons, closed_lead_append opening,
        allClosed_prefixed continued]

theorem closed_continueWith {raw : Text} (plain : escape ∉ raw) {lines : List Text}
    (uncut : Uncut lines) : AllClosed (continueWith raw lines) ↔ AllClosed lines := by
  cases lines with
  | nil => exact iff_of_true (closed_raw plain) allClosed_nil
  | cons line rest =>
      rw [continueWith, allClosed_append, closed_lines_raw plain,
        closed_lines_uncut (uncut line (by simp)), allClosed_cons]

theorem lead_spaces (count : Nat) : Lead (Text.spaces count) :=
  lead_plain (escape_not_mem (Text.visible_replicate count (by decide)))

theorem lead_connector (display : Display) (total index : Nat) :
    Lead (connector display total index) := by
  have digits := escape_not_mem (Decimal.natural_visible index)
  have spaces := escape_not_mem (Text.visible_replicate
    (indexWidth total - (Decimal.natural index).length)
    (show 0x20 ≤ (Symbol.char ' ').code by decide))
  have glyph : escape ≠ (if index + 1 = total then .char '└' else .char '├') := by
    split <;> decide
  have bar : escape ≠ .char '─' := by decide
  exact (lead_paint (by simp [Text.padRight, Text.spaces, digits, spaces, glyph, bar]) _ _).append
    (lead_plain (by decide))

theorem lead_bar (display : Display) : Lead (bar display) := lead_paint (by decide) _ _

theorem lead_continuation (display : Display) (total index : Nat) :
    Lead (continuation display total index) := by
  unfold continuation
  split
  · exact (lead_plain (by decide)).append (lead_spaces _)
  · exact (lead_bar display).append (lead_spaces _)

theorem lead_margin (display : Display) (entries : Entries) : Lead (margin display entries) := by
  unfold margin
  split
  · exact (lead_bar display).append (lead_plain (by decide))
  · exact lead_spaces 2

theorem closed_compactText (value : Value) : Closed value.compactText :=
  closed_lead (lead_plain (escape_not_mem value.compactText_visible))

end Layout

-- The recursion is that of the report; what stands before its lines leaves no style open.
mutual

theorem closed_valueLines (positions : Bool) : (value : Value) → value.EscapeFree →
    (AllClosed (valueLines ⟨positions, true⟩ value) ↔ SingleLineTypes (headerEnds value))
  | .sequence _ [], _ => by
      simp [valueLines, headerEnds, closed_nil, singleLineTypes_cons_none, singleLineTypes_nil]
  | .sequence _ (item :: rest), free => by
      cases free with
      | sequence _ all =>
          exact closed_siblingLines positions (item :: rest).length 0 (item :: rest) all
  | .mapping form entries, free => by
      have attributes := closed_attributeLines positions (Node.tagKey entries) entries
      have children := closed_childLines positions entries
      simp only [valueLines, headerEnds]
      cases typed : Node.typeText? entries with
      | none => simp [closed_compactText, singleLineTypes_cons_none, singleLineTypes_nil]
      | some typeText =>
          have header := closed_header positions free typed
          cases free with
          | mapping _ keys values =>
              rw [allClosed_append, allClosed_append, header, allClosed_prefixed (lead_margin _ _),
                attributes keys values, children values, singleLineTypes_append,
                singleLineTypes_some typed, singleLineTypes_append, and_assoc]
              exact (and_iff_right (singleLineTypes_none _)).symm
  | .null, _ | .bool _, _ | .int _, _ | .float _, _ | .str _, _ | .bytes _, _ | .set _ _, _
  | .object _, _ | .options _ _, _ => by
      simp [valueLines, headerEnds, closed_compactText, singleLineTypes_cons_none,
        singleLineTypes_nil]
termination_by structural value => value

theorem closed_siblingLines (positions : Bool) (total index : Nat) : (items : List Value) →
    (∀ item ∈ items, item.EscapeFree) →
    (AllClosed (siblingLines ⟨positions, true⟩ total index items) ↔
      SingleLineTypes (itemEnds items))
  | [], _ => by simp [siblingLines, itemEnds, singleLineTypes_nil]
  | item :: rest, all => by
      have head := closed_valueLines positions item (all item (by simp))
      have tail := closed_siblingLines positions total (index + 1) rest
        fun other member => all other (List.mem_cons_of_mem item member)
      rw [siblingLines, itemEnds, allClosed_append, singleLineTypes_append, tail, ← head,
        closed_hang (lead_connector _ _ _) (lead_continuation _ _ _)]
termination_by structural items => items

theorem closed_attributeLines (positions : Bool) (tagKey : Value) : (entries : Entries) →
    (∀ entry ∈ entries, entry.1.Unescaped) → (∀ entry ∈ entries, entry.2.EscapeFree) →
    (AllClosed (attributeLines ⟨positions, true⟩ tagKey entries) ↔
      SingleLineTypes (attributeEnds tagKey entries))
  | [], _, _ => by simp [attributeLines, attributeEnds, singleLineTypes_nil]
  | (key, value) :: rest, keys, values => by
      have inner := closed_valueLines positions value (values (key, value) (by simp))
      have tail := closed_attributeLines positions tagKey rest
        (fun other member => keys other (List.mem_cons_of_mem _ member))
        (fun other member => values other (List.mem_cons_of_mem _ member))
      have name : escape ∉ key.plain := (keys (key, value) (by simp)).plain
      have raw : ∀ lead : Text, escape ∉ lead → escape ∉ key.plain ++ lead := by
        intro lead plain
        simp [name, plain]
      rw [attributeLines, attributeEnds, allClosed_append, singleLineTypes_append, tail]
      refine and_congr_left fun _ => ?_
      split
      · simp only
        cases expansion key.plain value with
        | node =>
            rw [closed_continueWith (raw _ (by decide)) (uncut_valueLines _ value), inner,
              singleLineTypes_append]
            exact (and_iff_right (singleLineTypes_none _)).symm
        | listing =>
            simp only
            rw [allClosed_append, inner, singleLineTypes_append, singleLineTypes_cons_none]
            exact and_congr (iff_of_true (closed_raw (raw _ (by decide))) (singleLineTypes_none _))
              Iff.rfl
        | text =>
            simp only
            rw [closed_lines_raw (raw _ (by decide)),
              closed_lines_uncut (Text.newline_not_mem value.compactText_visible),
              singleLineTypes_append, singleLineTypes_cons_none]
            exact iff_of_true (closed_compactText value)
              ⟨singleLineTypes_none _, singleLineTypes_nil⟩
      · simp [singleLineTypes_nil]
termination_by structural entries => entries

theorem closed_childLines (positions : Bool) : (entries : Entries) →
    (∀ entry ∈ entries, entry.2.EscapeFree) →
    (AllClosed (childLines ⟨positions, true⟩ entries) ↔ SingleLineTypes (childEnds entries))
  | [], _ => by simp [childLines, childEnds, singleLineTypes_nil]
  | (key, value) :: rest, values => by
      have inner := closed_valueLines positions value (values (key, value) (by simp))
      have later := closed_childLines positions rest
        fun other member => values other (List.mem_cons_of_mem _ member)
      simp only [childLines, childEnds]
      split
      · split
        · exact inner
        · simp [singleLineTypes_nil]
      · exact later
termination_by structural entries => entries

end

end Report

namespace Inspection

theorem report_always {value options : Value} {overrides : Options.Overrides} {report : Text}
    (shown : (inspect .always value options overrides).1 = .ok report) :
    ∃ positions, report = Report.text ⟨positions, true⟩ value := by
  cases read : Options.validate false options with
  | error refusal =>
      rw [report_unread read] at shown
      cases shown
  | ok found =>
      by_cases spoken : Announceable found.options overrides
      · rw [report_announced read spoken] at shown
        exact ⟨_, (Report.render_eq_ok_iff.mp shown).2⟩
      · rw [report_unannounced read spoken] at shown
        cases shown

/-- In a styled report of a value without escapes no line ends while a style is open,
exactly when the type of every node that has a header in it is a single line. Then the
sequences of the whole report are pairs of a code that opens a style and the code that
ends this style. -/
theorem styles_pair_up {value : Value} (free : value.EscapeFree) (options : Value)
    (overrides : Options.Overrides) :
    ∀ report, (inspect .always value options overrides).1 = .ok report →
      (AllClosed (Text.lines report) ↔ Report.SingleLineTypes (Report.headerEnds value)) ∧
        (Report.SingleLineTypes (Report.headerEnds value) → Paired (sequences report)) := by
  intro report shown
  obtain ⟨positions, rfl⟩ := report_always shown
  have closed := Report.closed_valueLines positions value free
  simp only [Report.lines_text]
  exact ⟨closed, fun single => paired_joinLines (closed.mpr single)⟩

/-- A tag and a key of two lines, a payload, and an object with an escape in its text. -/
theorem styles_pair_up_nested :
    let value : Value := .sequence .tuple [.mapping .view [(.str "type", .str "element"),
      (.str "tagName", .str "a\nb"), (.sequence .tuple [.str "k"], .null),
      (.str "m\nn", .mapping .dictionary [(.str "type", .str "c"), (.str "value", .str "\n")])],
      .object "\x1b[1m"]
    value.EscapeFree ∧ ∃ report, (inspect .always value .null {}).1 = .ok report ∧
      AllClosed (Text.lines report) ∧ Paired (sequences report) := by
  intro value
  have inner : Value.EscapeFree (.mapping .dictionary [(.str "type", .str "c"),
      (.str "value", .str "\n")]) := by
    constructor <;> simp only [List.forall_mem_cons, List.not_mem_nil, false_implies, implies_true]
    · exact ⟨.str (by decide), .str (by decide), trivial⟩
    · exact ⟨.str (by decide), .str (by decide), trivial⟩
  have node : Value.EscapeFree (.mapping .view [(.str "type", .str "element"),
      (.str "tagName", .str "a\nb"), (.sequence .tuple [.str "k"], .null), (.str "m\nn",
        .mapping .dictionary [(.str "type", .str "c"), (.str "value", .str "\n")])]) := by
    constructor <;> simp only [List.forall_mem_cons, List.not_mem_nil, false_implies, implies_true]
    · refine ⟨.str (by decide), .str (by decide), .sequence _ ?_, .str (by decide), trivial⟩
      simpa using .str (by decide)
    · exact ⟨.str (by decide), .str (by decide), .null, inner, trivial⟩
  have free : value.EscapeFree := .sequence _ (by simpa [node] using .object _)
  have single : Report.SingleLineTypes (Report.headerEnds value) := by decide +kernel
  have shown : (inspect .always value .null {}).1 = .ok (Report.text ⟨true, true⟩ value) := by
    decide +kernel
  obtain ⟨lines, whole⟩ := styles_pair_up free .null {} _ shown
  exact ⟨free, _, shown, lines.mpr single, whole single⟩

/-- The style of a type of two lines is still open where its first line ends. The bar
before the second line is painted inside of it, and the code that ends the bar's style
ends that of the type as well. -/
theorem type_of_two_lines_stays_open :
    let value : Value := .sequence .list [.mapping .dictionary [(.str "type", .str "a\nb")], .null]
    value.EscapeFree ∧ ∃ report, (inspect .always value .null {}).1 = .ok report ∧
      ¬ Paired (sequences report) ∧ ¬ AllClosed (Text.lines report) := by
  intro value
  have shown : (inspect .always value .null {}).1 = .ok (Report.text ⟨true, true⟩ value) := by
    decide +kernel
  have found : sequences (Report.text ⟨true, true⟩ value) =
      ["2", "22", "1", "2", "22", "22", "2", "22"] := by decide +kernel
  have unpaired : ¬ Paired (sequences (Report.text ⟨true, true⟩ value)) := by
    rw [found]
    rintro (_ | ⟨_, _ | ⟨closes, _⟩⟩)
    exact absurd closes (by decide)
  have node : Value.EscapeFree (.mapping .dictionary [(.str "type", .str "a\nb")]) :=
    .mapping _ (by simpa using .str (by decide)) (by simpa using .str (by decide))
  refine ⟨.sequence _ (by simpa [node] using .null), _, shown, unpaired, fun closed => unpaired ?_⟩
  have whole := paired_joinLines closed
  rwa [Text.lines, Text.joinLines, Text.joinWith_splitOn] at whole

end Inspection

end TreeReport
