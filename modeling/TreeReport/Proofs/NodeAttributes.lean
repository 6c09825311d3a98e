import TreeReport.Proofs.NodeLines

/-!
The attributes of a node: which entries they are, and how the report shows them. Left
out are the four entries of the node itself, the entry that supplies the tag, and, on a
node without a tag, an entry under the null key.
-/
namespace TreeReport

/-- No two keys are equal. -/
def Entries.Distinct (entries : Entries) : Prop :=
  entries.Pairwise fun first second => first.1.same second.1 = false

instance (entries : Entries) : Decidable entries.Distinct :=
  inferInstanceAs (Decidable (entries.Pairwise _))

namespace Node

section Tag

/-- Under the key stands the text that the header shows as the tag. -/
def SuppliesTag (entries : Entries) (key name : Text) : Prop :=
  typeText? entries = some "element" ∧ entries.get? key = some (.str name) ∧
    (key = "tagName" ∨ key = "name" ∧ ∀ text, entries.get? "tagName" ≠ some (.str text))

variable {entries : Entries} {key name : Text}

theorem elementName_iff : elementName? entries = some (key, name) ↔
    SuppliesTag entries key name := by
  unfold elementName?
  split
  · next element =>
      simp only [tagKeys, firstText?]
      split
      · next text first =>
          constructor
          · rintro ⟨⟩
            exact ⟨element, first, .inl rfl⟩
          · rintro ⟨-, found, rfl | ⟨rfl, other⟩⟩
            · rw [first] at found
              cases found
              rfl
            · exact absurd first (other text)
      · next first =>
          split
          · next text second =>
              constructor
              · rintro ⟨⟩
                exact ⟨element, second, .inr ⟨rfl, first⟩⟩
              · rintro ⟨-, found, rfl | ⟨rfl, -⟩⟩
                · exact absurd found (first name)
                · rw [second] at found
                  cases found
                  rfl
          · next second =>
              constructor
              · rintro ⟨⟩
              · rintro ⟨-, found, rfl | ⟨rfl, -⟩⟩
                · exact absurd found (first name)
                · exact absurd found (second name)
  · next other =>
      constructor
      · rintro ⟨⟩
      · rintro ⟨element, -⟩
        exact absurd element other

theorem tagKey_supplied (supplied : SuppliesTag entries key name) :
    tagKey entries = .str key := by
  rw [tagKey, elementName_iff.mpr supplied]

theorem elementName_none (untagged : ∀ key name, ¬ SuppliesTag entries key name) :
    elementName? entries = none := by
  rw [Option.eq_none_iff_forall_ne_some]
  intro tag found
  exact untagged tag.1 tag.2 (elementName_iff.mp found)

theorem tagKey_unsupplied (untagged : ∀ key name, ¬ SuppliesTag entries key name) :
    tagKey entries = .null := by
  rw [tagKey, elementName_none untagged]

end Tag

section Attributes

variable {entries : Entries} {key name : Text}

theorem supplied_once (distinct : entries.Distinct) (supplied : SuppliesTag entries key name) :
    ∃ before after, entries = before ++ (.str key, .str name) :: after ∧
      ∀ entry ∈ before ++ after, entry.1.isText key = false := by
  obtain ⟨before, after, rfl, first⟩ := Value.get?_split supplied.2.1
  obtain ⟨-, behind, -⟩ := List.pairwise_append.mp distinct
  refine ⟨before, after, rfl, ?_⟩
  intro entry inside
  rcases List.mem_append.mp inside with early | late
  · exact first entry early
  · rw [Bool.eq_false_iff]
    intro again
    have apart := (List.pairwise_cons.mp behind).1 entry late
    rw [Value.isText_iff.mp again, Value.same_str] at apart
    simp [Value.isText] at apart

theorem attributes_tagged (distinct : entries.Distinct) (supplied : SuppliesTag entries key name) :
    ∃ before after, entries = before ++ (.str key, .str name) :: after ∧
      attributes entries = (before ++ after).filter fun entry => !isReserved entry.1 := by
  obtain ⟨before, after, shape, apart⟩ := supplied_once distinct supplied
  refine ⟨before, after, shape, ?_⟩
  have dropped : isAttributeKey (.str key) (.str key) = false := by
    simp [isAttributeKey, Value.same_str, Value.isText]
  have kept : ∀ entry ∈ before ++ after,
      isAttributeKey (.str key) entry.1 = !isReserved entry.1 := by
    intro entry inside
    rw [isAttributeKey, Value.same_str, apart entry inside, Bool.not_false, Bool.and_true]
  rw [attributes, tagKey_supplied supplied, shape, List.filter_append, List.filter_cons]
  simp only [dropped, Bool.false_eq_true, ↓reduceIte]
  rw [← List.filter_append, List.filter_congr kept]

theorem attributes_untagged (untagged : ∀ key name, ¬ SuppliesTag entries key name) :
    attributes entries = entries.filter fun entry => !isReserved entry.1 && !entry.1.isNull := by
  simp only [attributes, tagKey_unsupplied untagged, isAttributeKey, Value.same_null]

end Attributes

end Node

namespace Report

open Text (newline)

/-- An attribute as it is shown: behind its key as a node, below its key as a listing of
nodes, or behind its key as compact text. -/
def attributeText (display : Display) (name : Text) (value : Value) : Text :=
  match expansion name value with
  | .node => name ++ (": " : Text) ++ text display value
  | .listing => name ++ (":" : Text) ++ newline :: text display value
  | .text => name ++ (": " : Text) ++ value.compactText

theorem lines_continued (lead : Text) {lines : List Text} (uncut : Uncut lines) :
    Text.lines (lead ++ Text.joinLines lines) = continueWith lead lines := by
  cases lines with
  | nil => rw [Text.joinLines, Text.joinWith, List.append_nil, continueWith]
  | cons line rest =>
      cases rest with
      | nil => rw [Text.joinLines, Text.joinWith, continueWith, List.append_nil]
      | cons second more =>
          have later : ∀ piece ∈ second :: more, newline ∉ piece :=
            fun piece inside => uncut piece (List.mem_cons_of_mem line inside)
          have shape : lead ++ Text.joinLines (line :: second :: more) =
              (lead ++ line) ++ newline :: Text.joinLines (second :: more) := by
            rw [Text.joinLines, Text.joinWith_cons _ _ (List.cons_ne_nil _ _), Text.joinLines]
            simp only [List.append_assoc, List.singleton_append]
          rw [shape, continueWith, Text.lines, Text.splitOn_separator, Text.joinLines,
            Text.splitOn_joinWith (List.cons_ne_nil _ _) later, Text.lines]

theorem lines_attributeText (display : Display) (name : Text) (value : Value) :
    Text.lines (attributeText display name value) = entryLines display name value := by
  unfold attributeText entryLines
  cases expansion name value with
  | node => exact lines_continued _ (uncut_valueLines display value)
  | listing =>
      rw [Text.lines, Text.splitOn_separator, ← Text.lines, ← Text.lines, lines_text]
  | text => rfl

theorem tagPart_supplied (positions : Bool) {entries : Entries} {key name : Text}
    (supplied : Node.SuppliesTag entries key name) :
    tagPart ⟨positions, false⟩ entries = ("<" : Text) ++ name ++ (">" : Text) := by
  rw [tagPart, Node.elementName_iff.mpr supplied]
  rfl

theorem tagPart_unsupplied (display : Display) {entries : Entries}
    (untagged : ∀ key name, ¬ Node.SuppliesTag entries key name) :
    tagPart display entries = [] := by
  rw [tagPart, Node.elementName_none untagged]

/-- The lines of the attributes of a node, each behind the margin. -/
def attributeBlock (display : Display) (entries : Entries) : List Text :=
  ((Node.attributes entries).flatMap fun entry =>
    Text.lines (attributeText display entry.1.plain entry.2)).map (margin display entries ++ ·)

theorem attributeBlock_lines (display : Display) (entries : Entries) :
    attributeBlock display entries =
      (attributeLines display (Node.tagKey entries) entries).map
        (margin display entries ++ ·) := by
  simp only [attributeBlock, lines_attributeText, attributeLines_entries, entriesLines,
    Node.attributes]

theorem node_blocks (display : Display) (form : MappingForm) {entries : Entries} {typeText : Text}
    (typed : Node.typeText? entries = some typeText) :
    Text.lines (text display (.mapping form entries)) =
      Text.lines (header display typeText entries) ++ attributeBlock display entries ++
        childLines display entries := by
  rw [lines_text, valueLines, typed, attributeBlock_lines]

end Report

namespace Node

open Report

/-- The attributes of a node are its entries but for the four of its own, the one that
supplies its tag and, without a tag, one under the null key. The report shows them, and
nothing else, between the header and the children, in the order of the entries. -/
theorem attributes_complete_but_null (form : MappingForm) {entries : Entries} {typeText : Text}
    (typed : typeText? entries = some typeText) (distinct : entries.Distinct) :
    let own : Value → Bool := fun key =>
      (["type", "value", "children", "position"] : List Text).any key.isText
    (∀ key name, SuppliesTag entries key name →
      (∀ positions, tagPart ⟨positions, false⟩ entries = ("<" : Text) ++ name ++ (">" : Text)) ∧
        ∃ before after, entries = before ++ (.str key, .str name) :: after ∧
          attributes entries = (before ++ after).filter fun entry => !own entry.1) ∧
    ((∀ key name, ¬ SuppliesTag entries key name) →
      (∀ display, tagPart display entries = []) ∧
        attributes entries = entries.filter fun entry => !own entry.1 && !entry.1.isNull) ∧
    ∀ display report, render display (.mapping form entries) = .ok report →
      Text.lines report = Text.lines (header display typeText entries) ++
        ((attributes entries).flatMap fun entry =>
          Text.lines (attributeText display entry.1.plain entry.2)).map
            (margin display entries ++ ·) ++
        childLines display entries := by
  intro own
  refine ⟨?_, ?_, ?_⟩
  · intro key name supplied
    exact ⟨fun positions => tagPart_supplied positions supplied,
      attributes_tagged distinct supplied⟩
  · intro untagged
    exact ⟨fun display => tagPart_unsupplied display untagged, attributes_untagged untagged⟩
  · intro display report rendered
    rw [(Decimal.write_eq_ok_iff.mp rendered).2]
    exact node_blocks display form typed

/-- On an element with a tag the null key is like any other. -/
theorem attributes_complete_but_null_element :
    let entries : Entries := [(.str "type", .str "element"), (.null, .int 1),
      (.str "tagName", .int 2), (.str "name", .str "p"), (.bytes [97], .bool true),
      (.str "value", .str "v")]
    (∃ before after, entries = before ++ (.str "name", .str "p") :: after ∧
        attributes entries = (before ++ after).filter fun entry =>
          !(["type", "value", "children", "position"] : List Text).any entry.1.isText) ∧
      attributes entries =
        [(.null, .int 1), (.str "tagName", .int 2), (.bytes [97], .bool true)] ∧
      render ⟨true, false⟩ (.mapping .view entries) =
        .ok "element<p> \"v\"\n  None: 1\n  tagName: 2\n  b'a': true" := by
  intro entries
  have distinct : entries.Distinct := by
    unfold Entries.Distinct
    decide
  have supplied : SuppliesTag entries "name" "p" := by
    refine ⟨rfl, rfl, .inr ⟨rfl, ?_⟩⟩
    rintro text ⟨⟩
  obtain ⟨tagged, -, -⟩ := attributes_complete_but_null .view (rfl : typeText? entries = _) distinct
  exact ⟨(tagged "name" "p" supplied).2, rfl, by decide +kernel⟩

/-- Without a tag the entry under the null key is lost, though it is none of the node's own. -/
theorem null_entry_unlisted :
    let entries : Entries := [(.str "type", .str "a"), (.null, .int 1)]
    typeText? entries = some "a" ∧ entries.Distinct ∧
      (∀ key name, ¬ SuppliesTag entries key name) ∧
      (entries.filter fun entry =>
        !(["type", "value", "children", "position"] : List Text).any entry.1.isText) =
          [(.null, .int 1)] ∧
      attributes entries = [] ∧
      render ⟨true, false⟩ (.mapping .dictionary entries) = .ok "a" := by
  intro entries
  refine ⟨rfl, ?_, ?_, rfl, rfl, by decide +kernel⟩
  · unfold Entries.Distinct
    decide
  · rintro key name ⟨⟨⟩, -⟩

end Node

end TreeReport
