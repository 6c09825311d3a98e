import TreeReport.Proofs.FirstLines

/-!
The lines of a plain node: its header, the lines of each attribute behind a margin,
and the listing of its children. Behind the header no line begins with a letter,
and of the lines of an attribute only the first one does, with the name.
-/
namespace TreeReport.Report

open Value (Canonical PlainNode IsJson isOwn)

section Nodes

variable {positions : Bool} {entries : Entries} {typeText : Text}

theorem children_get (plain : PlainNode entries typeText) :
    Node.children? entries = none ∧ entries.get? "children" = none ∨
      ∃ items, Node.children? entries = some items ∧
        entries.get? "children" = some (.sequence .list items) := by
  cases found : entries.get? "children" with
  | none => exact Or.inl ⟨by simp [Node.children?, found], rfl⟩
  | some value =>
      obtain ⟨items, rfl⟩ := plain.listed value found
      exact Or.inr ⟨items, by simp [Node.children?, found], rfl⟩

theorem payload_get (plain : PlainNode entries typeText) :
    Node.payload? entries = none ∧ entries.get? "value" = none ∨
      ∃ text, Node.payload? entries = some text ∧ entries.get? "value" = some (.str text) := by
  cases found : entries.get? "value" with
  | none => exact Or.inl ⟨by simp [Node.payload?, found], rfl⟩
  | some value =>
      obtain ⟨text, rfl⟩ := plain.payload value found
      exact Or.inr ⟨text, by simp [Node.payload?, found], rfl⟩

theorem header_plain (plain : PlainNode entries typeText) :
    header ⟨positions, false⟩ typeText entries =
      typeText ++ contentPart ⟨positions, false⟩ entries := by
  have untagged : typeText ≠ "element" := by
    rintro rfl
    exact plain.free (by decide)
  have tag : Node.elementName? entries = none := by
    simp [Node.elementName?, plain.typed, untagged]
  have range : rangePart ⟨positions, false⟩ entries = [] := by
    simp [rangePart, plain.unplaced, SourceRange.text]
  simp [header, tagPart, tag, range, Style.paint]

theorem content_count {items : List Value} (children : Node.children? entries = some items) :
    contentPart ⟨positions, false⟩ entries =
      .char '[' :: (Decimal.natural items.length ++ [.char ']']) := by
  simp [contentPart, children, countPart, Style.paint, Text.ofString]

theorem content_payload {text : Text} (childless : Node.children? entries = none)
    (payload : Node.payload? entries = some text) :
    contentPart ⟨positions, false⟩ entries = .char ' ' :: Json.quotedText text := by
  simp only [contentPart, childless, payload, Style.paint]
  rfl

theorem content_none (childless : Node.children? entries = none)
    (bare : Node.payload? entries = none) : contentPart ⟨positions, false⟩ entries = [] := by
  simp [contentPart, childless, bare]

theorem content_stops : ∀ symbol ∈ (contentPart ⟨positions, false⟩ entries).head?,
    Text.isAsciiLetter symbol = false := by
  have bracket : Text.isAsciiLetter (.char '[') = false := by decide
  have blank : Text.isAsciiLetter (.char ' ') = false := by decide
  cases children : Node.children? entries with
  | some items => simp [content_count children, bracket]
  | none =>
      cases payload : Node.payload? entries with
      | some text => simp [content_payload children payload, blank]
      | none => simp [content_none children payload]

theorem content_visible : Text.Visible (contentPart ⟨positions, false⟩ entries) := by
  have brackets : Text.Visible [.char '['] ∧ Text.Visible [.char ']'] := by decide
  have blank : Text.Visible [.char ' '] := by decide
  cases children : Node.children? entries with
  | some items =>
      rw [content_count children, ← List.singleton_append, Text.visible_append,
        Text.visible_append]
      exact ⟨brackets.1, Decimal.natural_visible _, brackets.2⟩
  | none =>
      cases payload : Node.payload? entries with
      | some text =>
          rw [content_payload children payload, ← List.singleton_append, Text.visible_append]
          exact ⟨blank, Json.quotedText_visible text⟩
      | none =>
          rw [content_none children payload]
          exact Text.visible_nil

theorem content_cases (positions : Bool) (plain : PlainNode entries typeText) :
    (∃ items, Node.children? entries = some items ∧ entries.get? "value" = none ∧
      contentPart ⟨positions, false⟩ entries =
        .char '[' :: (Decimal.natural items.length ++ [.char ']'])) ∨
    (∃ text, Node.children? entries = none ∧ entries.get? "value" = some (.str text) ∧
      contentPart ⟨positions, false⟩ entries = .char ' ' :: Json.quotedText text) ∨
    (Node.children? entries = none ∧ entries.get? "value" = none ∧
      contentPart ⟨positions, false⟩ entries = []) := by
  rcases children_get plain with ⟨missing, -⟩ | ⟨items, children, found⟩
  · right
    rcases payload_get plain with ⟨bare, free⟩ | ⟨text, payload, held⟩
    · exact Or.inr ⟨missing, free, content_none missing bare⟩
    · exact Or.inl ⟨text, missing, held, content_payload missing payload⟩
  · left
    refine ⟨items, children, ?_, content_count children⟩
    rcases plain.single with free | free
    · exact free
    · rw [free] at found
      contradiction

theorem content_cut {others : Entries} {otherType : Text} (one : PlainNode entries typeText)
    (two : PlainNode others otherType)
    (same : contentPart ⟨positions, false⟩ entries = contentPart ⟨positions, false⟩ others) :
    entries.get? "value" = others.get? "value" ∧
      (Node.children? entries).map List.length = (Node.children? others).map List.length := by
  have apart : Symbol.char '[' ≠ .char ' ' := by decide
  rcases content_cases positions one with
    ⟨items, children, free, shape⟩ | ⟨text, missing, held, shape⟩ | ⟨missing, free, shape⟩
  · rcases content_cases positions two with
      ⟨more, otherChildren, otherFree, otherShape⟩ | ⟨_, -, -, otherShape⟩ | ⟨-, -, otherShape⟩
    · rw [shape, otherShape] at same
      have counts := Decimal.natural_injective (List.append_cancel_right (List.cons.inj same).2)
      rw [free, otherFree, children, otherChildren, Option.map_some, Option.map_some, counts]
      exact ⟨rfl, rfl⟩
    · rw [shape, otherShape] at same
      exact absurd (List.cons.inj same).1 apart
    · rw [shape, otherShape] at same
      contradiction
  · rcases content_cases positions two with
      ⟨_, -, -, otherShape⟩ | ⟨other, otherMissing, otherHeld, otherShape⟩ | ⟨-, -, otherShape⟩
    · rw [shape, otherShape] at same
      exact absurd (List.cons.inj same).1.symm apart
    · rw [shape, otherShape] at same
      have quoted : Json.quotedText text ++ [] = Json.quotedText other ++ [] := by
        rw [(List.cons.inj same).2]
      rw [held, otherHeld, missing, otherMissing, (Json.quotedText_cut quoted).1]
      exact ⟨rfl, rfl⟩
    · rw [shape, otherShape] at same
      contradiction
  · rcases content_cases positions two with
      ⟨_, -, -, otherShape⟩ | ⟨_, -, -, otherShape⟩ | ⟨otherMissing, otherFree, -⟩
    · rw [shape, otherShape] at same
      contradiction
    · rw [shape, otherShape] at same
      contradiction
    · rw [free, otherFree, missing, otherMissing]
      exact ⟨rfl, rfl⟩

def entryLines (display : Display) (name : Text) (value : Value) : List Text :=
  match expansion name value with
  | .node => continueWith (name ++ (": " : Text)) (valueLines display value)
  | .listing => Text.lines (name ++ (":" : Text)) ++ valueLines display value
  | .text => Text.lines (name ++ (": " : Text) ++ value.compactText)

def entriesLines (display : Display) (entries : Entries) : List Text :=
  entries.flatMap fun entry => entryLines display entry.1.plain entry.2

theorem attributeLines_entries (display : Display) (tagKey : Value) (entries : Entries) :
    attributeLines display tagKey entries =
      entriesLines display (entries.filter fun entry => Node.isAttributeKey tagKey entry.1) := by
  induction entries with
  | nil => rfl
  | cons entry rest ih =>
      obtain ⟨key, value⟩ := entry
      rw [attributeLines, ih, List.filter_cons]
      by_cases listed : Node.isAttributeKey tagKey key = true
      · simp only [listed, ↓reduceIte, entriesLines, List.flatMap_cons]
        rfl
      · simp [listed]

def attributesOf (entries : Entries) : Entries := entries.filter fun entry => !isOwn entry.1

theorem node_lines (plain : PlainNode entries typeText) (form : MappingForm) :
    valueLines ⟨positions, false⟩ (.mapping form entries) =
      (typeText ++ contentPart ⟨positions, false⟩ entries) ::
        (entriesLines ⟨positions, false⟩ (attributesOf entries)).map
          (margin ⟨positions, false⟩ entries ++ ·) ++
        childLines ⟨positions, false⟩ entries := by
  have untagged : Node.tagKey entries = .null := by
    have apart : typeText ≠ "element" := by
      rintro rfl
      exact plain.free (by decide)
    simp [Node.tagKey, Node.elementName?, plain.typed, apart]
  have uncut : Text.newline ∉ typeText ++ contentPart ⟨positions, false⟩ entries :=
    Text.newline_not_mem ((Text.visible_append _ _).mpr ⟨word_visible plain.word, content_visible⟩)
  simp only [valueLines, plain.typed, header_plain plain, Text.lines, Text.splitOn_of_free uncut,
    untagged, attributeLines_entries, plain.attributes, attributesOf]
  rfl

theorem childLines_get (display : Display) (entries : Entries) :
    childLines display entries =
      ((entries.get? "children").map fun value =>
        if value.isSequence && value.truth then valueLines display value else []).getD [] := by
  induction entries with
  | nil => rfl
  | cons entry rest ih =>
      obtain ⟨key, value⟩ := entry
      by_cases here : key.isText "children" = true
      · simp only [childLines, Entries.get?, here, ↓reduceIte, Option.map_some, Option.getD_some]
      · simp only [childLines, Entries.get?, here]
        exact ih

theorem childLines_cases (display : Display) (plain : PlainNode entries typeText) :
    (childLines display entries = [] ∧ hasChildren entries = false) ∨
      ∃ items, Node.children? entries = some items ∧ hasChildren entries = true ∧
        childLines display entries = siblingLines display items.length 0 items := by
  rcases children_get plain with ⟨missing, absent⟩ | ⟨items, children, found⟩
  · left
    rw [childLines_get, absent, hasChildren, missing]
    exact ⟨rfl, rfl⟩
  · cases items with
    | nil =>
        left
        rw [childLines_get, found, hasChildren, children]
        exact ⟨rfl, rfl⟩
    | cons item rest =>
        right
        refine ⟨item :: rest, children, ?_, ?_⟩
        · rw [hasChildren, children]
        · exact childLines_of_children display children (by simp)

end Nodes

section Siblings

theorem margin_plain (positions : Bool) (entries : Entries) :
    margin ⟨positions, false⟩ entries =
      [if hasChildren entries then .char '│' else .char ' ', .char ' '] := by
  unfold margin
  split
  · simp [bar, Style.paint]
  · simp [Text.spaces]

theorem margin_closed (positions : Bool) (entries : Entries) (line : Text) :
    opensSibling (margin ⟨positions, false⟩ entries ++ line) = false ∧
      opensAttribute (margin ⟨positions, false⟩ entries ++ line) = false := by
  rw [margin_plain]
  cases hasChildren entries with
  | true => exact ⟨rfl, opensAttribute_cons rfl _⟩
  | false => exact ⟨rfl, opensAttribute_cons rfl _⟩

theorem firstLead_inside (total index : Nat) (line : Text) :
    opensAttribute (firstLead total index ++ line) = false := by
  unfold firstLead
  split
  · exact opensAttribute_cons rfl _
  · exact opensAttribute_cons rfl _

theorem furtherLead_inside (total index : Nat) (line : Text) :
    opensAttribute (furtherLead total index ++ line) = false := by
  unfold furtherLead
  split
  · exact opensAttribute_cons rfl _
  · exact opensAttribute_cons rfl _

theorem siblingLines_cons (positions : Bool) (total index : Nat) (item : Value)
    (rest : List Value) :
    ∃ line more, valueLines ⟨positions, false⟩ item = line :: more ∧
      siblingLines ⟨positions, false⟩ total index (item :: rest) =
        ((firstLead total index ++ line) :: more.map (furtherLead total index ++ ·)) ++
          siblingLines ⟨positions, false⟩ total (index + 1) rest := by
  obtain ⟨line, more, shape⟩ :=
    List.exists_cons_of_ne_nil (valueLines_ne_nil ⟨positions, false⟩ item)
  exact ⟨line, more, shape, by rw [siblingLines, connector_plain, continuation_plain, shape, hang]⟩

theorem siblingLines_inside (positions : Bool) (total index : Nat) (items : List Value) :
    ∀ line ∈ siblingLines ⟨positions, false⟩ total index items, opensAttribute line = false := by
  induction items generalizing index with
  | nil => simp [siblingLines]
  | cons item rest ih =>
      obtain ⟨line, more, -, lines⟩ := siblingLines_cons positions total index item rest
      rw [lines]
      intro other inside
      rcases List.mem_append.mp inside with own | later
      · rcases List.mem_cons.mp own with rfl | further
        · exact firstLead_inside total index line
        · obtain ⟨tail, -, rfl⟩ := List.mem_map.mp further
          exact furtherLead_inside total index tail
      · exact ih (index + 1) other later

theorem siblingLines_open (positions : Bool) (total index : Nat) (items : List Value) :
    ∀ line ∈ (siblingLines ⟨positions, false⟩ total index items).head?,
      opensSibling line = true := by
  cases items with
  | nil => simp [siblingLines]
  | cons item rest =>
      obtain ⟨line, more, -, lines⟩ := siblingLines_cons positions total index item rest
      rw [lines]
      simp [firstLead_opens]

end Siblings

section Entries

structure PlainEntry (entry : Value × Value) : Prop where
  named : ∃ name, entry.1 = .str name ∧ Text.IsWord name
  held : IsJson entry.2
  shown : expansion entry.1.plain entry.2 ≠ .text → Canonical entry.2

theorem lines_visible {text : Text} (visible : Text.Visible text) : Text.lines text = [text] :=
  Text.splitOn_of_free (Text.newline_not_mem visible)

theorem expansion_node {name : Text} {value : Value} (node : expansion name value = .node) :
    lookOf value = .node := by
  cases value with
  | mapping form entries =>
      simp only [expansion] at node
      split at node
      · next found =>
          rw [lookOf, if_pos (Bool.and_eq_true_iff.mp found).1]
      · contradiction
  | sequence form items =>
      simp only [expansion] at node
      split at node
      · contradiction
      · contradiction
  | _ => contradiction

theorem expansion_listing {name : Text} {value : Value}
    (listing : expansion name value = .listing) :
    ∃ form items, items ≠ [] ∧ value = .sequence form items := by
  cases value with
  | mapping form entries =>
      simp only [expansion] at listing
      split at listing
      · contradiction
      · contradiction
  | sequence form items =>
      simp only [expansion] at listing
      split at listing
      · next found => exact ⟨form, items, by rintro rfl; simp at found, rfl⟩
      · contradiction
  | _ => contradiction

inductive Behind (positions : Bool) (value : Value) : Expansion → Text → List Text → Prop where
  | node {line : Text} {more : List Text}
      (lines : valueLines ⟨positions, false⟩ value = line :: more) :
      Behind positions value .node (.char ' ' :: line) more
  | listing {more : List Text} (lines : valueLines ⟨positions, false⟩ value = more) :
      Behind positions value .listing [] more
  | text {line : Text} (compact : value.compactText = line) :
      Behind positions value .text (.char ' ' :: line) []

/-- The first line of an attribute has its name, a colon and what is shown behind
it; a listing begins on the next line. -/
theorem entryLines_behind (positions : Bool) {name : Text} (named : Text.IsWord name)
    (value : Value) :
    ∃ line more, entryLines ⟨positions, false⟩ name value = (name ++ .char ':' :: line) :: more ∧
      Behind positions value (expansion name value) line more := by
  have shown := word_visible named
  have colon : Text.Visible (":" : Text) := by decide
  have blank : Text.Visible (": " : Text) := by decide
  cases kind : expansion name value with
  | node =>
      obtain ⟨line, more, shape⟩ :=
        List.exists_cons_of_ne_nil (valueLines_ne_nil ⟨positions, false⟩ value)
      refine ⟨.char ' ' :: line, more, ?_, .node shape⟩
      have uncut := uncut_valueLines ⟨positions, false⟩ value line (by simp [shape])
      have whole : Text.newline ∉ name ++ ((": " : Text) ++ line) := by
        rw [List.mem_append, List.mem_append, not_or, not_or]
        exact ⟨Text.newline_not_mem shown, Text.newline_not_mem blank, uncut⟩
      simp only [entryLines, kind, shape, continueWith, List.append_assoc]
      rw [Text.lines, Text.splitOn_of_free whole]
      rfl
  | listing =>
      refine ⟨[], valueLines ⟨positions, false⟩ value, ?_, .listing rfl⟩
      simp only [entryLines, kind]
      rw [lines_visible ((Text.visible_append _ _).mpr ⟨shown, colon⟩)]
      rfl
  | text =>
      refine ⟨.char ' ' :: value.compactText, [], ?_, .text rfl⟩
      simp only [entryLines, kind, List.append_assoc]
      rw [lines_visible ((Text.visible_append _ _).mpr ⟨shown, (Text.visible_append _ _).mpr
        ⟨blank, Value.compactText_visible value⟩⟩)]
      rfl

theorem canonical_node {value : Value} (canonical : Canonical value)
    (node : lookOf value = .node) :
    ∃ (form : MappingForm) (entries : Entries) (typeText : Text),
      value = .mapping form entries ∧ PlainNode entries typeText ∧
      (∀ items, entries.get? "children" = some (.sequence .list items) →
        ∀ item ∈ items, Canonical item) ∧
      ∀ entry ∈ entries, isOwn entry.1 = false →
        expansion entry.1.plain entry.2 ≠ .text → Canonical entry.2 := by
  cases canonical with
  | @node form entries typeText plain children shown =>
      exact ⟨form, entries, typeText, rfl, plain, children, shown⟩
  | mapping json untyped => simp [lookOf, Node.isNode, untyped] at node
  | @list items all => cases items <;> contradiction
  | _ => contradiction

/-- Behind the header of a node no line begins with a letter. -/
theorem node_inside {positions : Bool} {value : Value} (canonical : Canonical value)
    (node : lookOf value = .node) {line : Text} {more : List Text}
    (shape : valueLines ⟨positions, false⟩ value = line :: more) :
    ∀ other ∈ more, opensAttribute other = false := by
  obtain ⟨form, entries, typeText, rfl, plain, -, -⟩ := canonical_node canonical node
  rw [node_lines plain form] at shape
  obtain ⟨-, rfl⟩ := List.cons.inj shape
  intro other inside
  rcases List.mem_append.mp inside with own | child
  · obtain ⟨inner, -, rfl⟩ := List.mem_map.mp own
    exact (margin_closed positions entries inner).2
  · rcases childLines_cases ⟨positions, false⟩ plain with ⟨none, -⟩ | ⟨items, -, -, lines⟩
    · rw [none] at child
      contradiction
    · rw [lines] at child
      exact siblingLines_inside positions items.length 0 items other child

theorem entryLines_shape (positions : Bool) {entry : Value × Value} (plain : PlainEntry entry) :
    ∃ line more, entryLines ⟨positions, false⟩ entry.1.plain entry.2 = line :: more ∧
      opensAttribute line = true ∧ ∀ other ∈ more, opensAttribute other = false := by
  obtain ⟨⟨name, key, named⟩, held, shown⟩ := plain
  have spelled : entry.1.plain = name := by rw [key]; rfl
  rw [spelled] at shown ⊢
  obtain ⟨line, more, lines, behind⟩ := entryLines_behind positions named entry.2
  refine ⟨_, more, lines, opensAttribute_word named _, ?_⟩
  generalize kind : expansion name entry.2 = expanded at shown behind
  cases behind with
  | node shape => exact node_inside (shown (by decide)) (expansion_node kind) shape
  | listing shape =>
      obtain ⟨form, items, nonempty, value⟩ := expansion_listing kind
      have block := lines_sequence ⟨positions, false⟩ form nonempty
      rw [lines_text, ← value, shape] at block
      rw [block]
      exact siblingLines_inside positions items.length 0 items
  | text compact => simp

end Entries

end TreeReport.Report
