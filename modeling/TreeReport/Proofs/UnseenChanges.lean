import TreeReport.Proofs.CanonicalValues

/-!
Changes of values that no report shows. Such a change goes through items and the values
of mappings, may give a container another form and a set other elements with the same
normal form and the same integers to spell out, and keeps everything else. No header, no
range, no attribute and no compact text asks for more than that.
-/
namespace TreeReport

namespace Value

/-- The value is no container, but for the fields of a record of options. -/
def isLeaf : Value → Bool
  | .sequence _ _ | .mapping _ _ | .set _ _ => false
  | _ => true

/-- What a value becomes, when the change is made to everything in it as well. -/
inductive Changed (change : Value → Value) : Value → Value → Prop where
  | leaf {value : Value} (leaf : value.isLeaf) : Changed change value value
  | sequence (form other : SequenceForm) (items : List Value) :
      Changed change (.sequence form items) (.sequence other (items.map change))
  | mapping (form other : MappingForm) (entries : Entries) :
      Changed change (.mapping form entries) (.mapping other (withValues change entries))
  | set {form other : SetForm} {items others : List Value}
      (same : normal (.set other others) = normal (.set form items))
      (names : ∀ n, n ∈ named (.set other others) ↔ n ∈ named (.set form items)) :
      Changed change (.set form items) (.set other others)

def Unseen (change : Value → Value) : Prop := ∀ value, Changed change value (change value)

section Parts

variable {change : Value → Value}

theorem Unseen.leaf (unseen : Unseen change) {value : Value} (leaf : value.isLeaf) :
    change value = value := by
  have step := unseen value
  generalize change value = next at step ⊢
  cases step with
  | leaf => rfl
  | sequence | mapping | set => cases leaf

theorem isSequence_unseen (unseen : Unseen change) (value : Value) :
    (change value).isSequence = value.isSequence := by
  have step := unseen value
  generalize change value = next at step ⊢
  cases step <;> rfl

theorem truth_unseen (unseen : Unseen change) {value : Value} (sequence : value.isSequence) :
    (change value).truth = value.truth := by
  have step := unseen value
  generalize change value = next at step ⊢
  cases step with
  | leaf => rfl
  | sequence form other items => cases items <;> rfl
  | mapping | set => cases sequence

theorem listed_unseen (unseen : Unseen change) (value : Value) :
    ((change value).isSequence && (change value).truth) = (value.isSequence && value.truth) := by
  rw [isSequence_unseen unseen]
  cases sequence : value.isSequence with
  | false => rfl
  | true => rw [truth_unseen unseen sequence]

end Parts

-- The recursion is that of the normal form.
mutual

theorem normal_unseen {change : Value → Value} (unseen : Unseen change) : (value : Value) →
    (change value).normal = value.normal
  | .sequence form items => by
      have inner := normalItems_unseen unseen items
      have step := unseen (.sequence form items)
      generalize change (.sequence form items) = next at step ⊢
      cases step with
      | leaf leaf => cases leaf
      | sequence form other items => rw [normal, normal, inner]
  | .mapping form entries => by
      have inner := namedMembers_unseen unseen entries
      have step := unseen (.mapping form entries)
      generalize change (.mapping form entries) = next at step ⊢
      cases step with
      | leaf leaf => cases leaf
      | mapping form other entries => rw [normal, normal, inner]
  | .set form items => by
      have step := unseen (.set form items)
      generalize change (.set form items) = next at step ⊢
      cases step with
      | leaf leaf => cases leaf
      | set same names => exact same
  | .null | .bool _ | .int _ | .float _ | .str _ | .bytes _ | .object _ | .options _ _ =>
      congrArg normal (unseen.leaf rfl)
termination_by structural value => value

theorem normalItems_unseen {change : Value → Value} (unseen : Unseen change) :
    (items : List Value) → normalItems (items.map change) = normalItems items
  | [] => rfl
  | item :: rest => by
      have head := normal_unseen unseen item
      have tail := normalItems_unseen unseen rest
      rw [List.map_cons, normalItems, normalItems, head, tail]
termination_by structural items => items

theorem namedMembers_unseen {change : Value → Value} (unseen : Unseen change) :
    (entries : Entries) → namedMembers (withValues change entries) = namedMembers entries
  | [] => rfl
  | (key, value) :: rest => by
      have head := normal_unseen unseen value
      have tail := namedMembers_unseen unseen rest
      rw [withValues] at tail
      rw [withValues, List.map_cons, namedMembers, namedMembers, head, tail]
termination_by structural entries => entries

end

theorem compactText_unseen {change : Value → Value} (unseen : Unseen change) (value : Value) :
    (change value).compactText = value.compactText := by
  rw [compactText, normal_unseen unseen, compactText]

mutual

theorem named_unseen {change : Value → Value} (unseen : Unseen change) (n : Int) :
    (value : Value) → (n ∈ (change value).named ↔ n ∈ value.named)
  | .sequence form items => by
      have inner := namedItems_unseen unseen n items
      have step := unseen (.sequence form items)
      generalize change (.sequence form items) = next at step ⊢
      cases step with
      | leaf leaf => cases leaf
      | sequence form other items => exact inner
  | .mapping form entries => by
      have inner := namedEntries_unseen unseen n entries
      have step := unseen (.mapping form entries)
      generalize change (.mapping form entries) = next at step ⊢
      cases step with
      | leaf leaf => cases leaf
      | mapping form other entries => exact inner
  | .set form items => by
      have step := unseen (.set form items)
      generalize change (.set form items) = next at step ⊢
      cases step with
      | leaf leaf => cases leaf
      | set same names => exact names n
  | .null | .bool _ | .int _ | .float _ | .str _ | .bytes _ | .object _ | .options _ _ => by
      rw [unseen.leaf rfl]
termination_by structural value => value

theorem namedItems_unseen {change : Value → Value} (unseen : Unseen change) (n : Int) :
    (items : List Value) → (n ∈ namedItems (items.map change) ↔ n ∈ namedItems items)
  | [] => Iff.rfl
  | item :: rest => by
      have head := named_unseen unseen n item
      have tail := namedItems_unseen unseen n rest
      rw [List.map_cons, namedItems, namedItems, List.mem_append, List.mem_append, head, tail]
termination_by structural items => items

theorem namedEntries_unseen {change : Value → Value} (unseen : Unseen change) (n : Int) :
    (entries : Entries) →
    (n ∈ namedEntries (withValues change entries) ↔ n ∈ namedEntries entries)
  | [] => Iff.rfl
  | (key, value) :: rest => by
      have head := named_unseen unseen n value
      have tail := namedEntries_unseen unseen n rest
      rw [withValues] at tail
      simp only [withValues, List.map_cons, namedEntries, List.mem_append, head, tail]
termination_by structural entries => entries

end

section Encoding

variable {change : Value → Value}

theorem written_unseen (unseen : Unseen change) (value : Value) (n : Int) :
    n ∈ (change value).written ↔ n ∈ value.written := by
  rw [written, written, List.mem_append, List.mem_append, named_unseen unseen n,
    normal_unseen unseen]

theorem encode_unseen (unseen : Unseen change) (value : Value) :
    (change value).encode = value.encode := by
  rw [encode, compactText_unseen unseen]
  exact Decimal.write_congr (written_unseen unseen value) _

end Encoding

end Value

open Value

namespace SourceRange

variable {change : Value → Value}

theorem usable_unseen (unseen : Unseen change) (value : Value) :
    usable? (change value) = usable? value := by
  have step := unseen value
  generalize change value = next at step ⊢
  cases step <;> rfl

theorem field_unseen (unseen : Unseen change) (point : Option Value) (name : Text) :
    field? (point.map change) name = field? point name := by
  cases point with
  | none => rfl
  | some value =>
      have step := unseen value
      rw [Option.map_some]
      generalize change value = next at step ⊢
      cases step with
      | leaf | sequence | set => rfl
      | mapping form other entries =>
          rw [field?, field?, get?_withValues]
          cases Entries.get? name entries with
          | none => rfl
          | some held => exact usable_unseen unseen held

theorem hasData_unseen (unseen : Unseen change) (point : Option Value) :
    hasData (point.map change) = hasData point := by
  simp only [hasData, field_unseen unseen]

theorem lineColumn_unseen (unseen : Unseen change) (point : Option Value) :
    lineColumn (point.map change) = lineColumn point := by
  simp only [lineColumn, field_unseen unseen]

theorem offsets_unseen (unseen : Unseen change) (first last : Option Value) :
    offsets (first.map change) (last.map change) = offsets first last := by
  unfold offsets
  rw [field_unseen unseen, field_unseen unseen]

theorem text_unseen (unseen : Unseen change) (value : Value) :
    text (change value) = text value := by
  have step := unseen value
  generalize change value = next at step ⊢
  cases step with
  | leaf | sequence | set => rfl
  | mapping form other entries =>
      simp only [text, get?_withValues, hasData_unseen unseen, lineColumn_unseen unseen,
        offsets_unseen unseen]

theorem written_unseen (unseen : Unseen change) (value : Value) :
    written (change value) = written value := by
  have step := unseen value
  generalize change value = next at step ⊢
  cases step with
  | leaf | sequence | set => rfl
  | mapping form other entries =>
      simp only [written, get?_withValues, hasData_unseen unseen, field_unseen unseen]

theorem stringify_unseen (unseen : Unseen change) (value : Value) :
    stringify (change value) = stringify value := by
  rw [stringify, written_unseen unseen, text_unseen unseen, stringify]

end SourceRange

namespace Node

variable {change : Value → Value}

theorem typeText_unseen (unseen : Unseen change) (entries : Entries) :
    typeText? (withValues change entries) = typeText? entries := by
  rw [typeText?, typeText?, get?_withValues]
  cases entries.get? "type" with
  | none => rfl
  | some value =>
      have step := unseen value
      rw [Option.map_some]
      generalize change value = next at step ⊢
      cases step <;> rfl

theorem payload_unseen (unseen : Unseen change) (entries : Entries) :
    payload? (withValues change entries) = payload? entries := by
  rw [payload?, payload?, get?_withValues]
  cases entries.get? "value" with
  | none => rfl
  | some value =>
      have step := unseen value
      rw [Option.map_some]
      generalize change value = next at step ⊢
      cases step <;> rfl

theorem children_unseen (unseen : Unseen change) (entries : Entries) :
    children? (withValues change entries) = (children? entries).map (List.map change) := by
  rw [children?, children?, get?_withValues]
  cases entries.get? "children" with
  | none => rfl
  | some value =>
      have step := unseen value
      rw [Option.map_some]
      generalize change value = next at step ⊢
      cases step with
      | leaf leaf => cases value <;> first | rfl | cases leaf
      | sequence | mapping | set => rfl

theorem firstText_unseen (unseen : Unseen change) (entries : Entries) (keys : List Text) :
    firstText? (withValues change entries) keys = firstText? entries keys := by
  induction keys with
  | nil => rfl
  | cons key rest ih =>
      rw [firstText?, firstText?, get?_withValues, ih]
      cases entries.get? key with
      | none => rfl
      | some value =>
          have step := unseen value
          rw [Option.map_some]
          generalize change value = next at step ⊢
          cases step <;> rfl

theorem elementName_unseen (unseen : Unseen change) (entries : Entries) :
    elementName? (withValues change entries) = elementName? entries := by
  rw [elementName?, elementName?, typeText_unseen unseen, firstText_unseen unseen]

theorem tagKey_unseen (unseen : Unseen change) (entries : Entries) :
    tagKey (withValues change entries) = tagKey entries := by
  rw [tagKey, tagKey, elementName_unseen unseen]

theorem isNode_unseen (unseen : Unseen change) (value : Value) :
    isNode (change value) = isNode value := by
  have step := unseen value
  generalize change value = next at step ⊢
  cases step with
  | leaf | sequence | set => rfl
  | mapping form other entries => rw [isNode, isNode, typeText_unseen unseen]

end Node

namespace Report

section Parts

variable {change : Value → Value} (display : Display)

theorem contentPart_unseen (unseen : Unseen change) (entries : Entries) :
    contentPart display (withValues change entries) = contentPart display entries := by
  rw [contentPart, contentPart, Node.children_unseen unseen, Node.payload_unseen unseen]
  cases Node.children? entries with
  | none => rfl
  | some items => simp only [Option.map_some, List.length_map]

theorem rangePart_unseen (unseen : Unseen change) (entries : Entries) :
    rangePart display (withValues change entries) = rangePart display entries := by
  have range : SourceRange.text (((withValues change entries).get? "position").getD .null) =
      SourceRange.text ((entries.get? "position").getD .null) := by
    rw [get?_withValues]
    cases entries.get? "position" with
    | none => rfl
    | some value => exact SourceRange.text_unseen unseen value
  simp only [rangePart, range]

theorem header_unseen (unseen : Unseen change) (typeText : Text) (entries : Entries) :
    header display typeText (withValues change entries) = header display typeText entries := by
  have tag : tagPart display (withValues change entries) = tagPart display entries := by
    rw [tagPart, tagPart, Node.elementName_unseen unseen]
  rw [header, header, tag, contentPart_unseen display unseen, rangePart_unseen display unseen]

theorem margin_unseen (unseen : Unseen change) (entries : Entries) :
    margin display (withValues change entries) = margin display entries := by
  have same : hasChildren (withValues change entries) = hasChildren entries := by
    rw [hasChildren, hasChildren, Node.children_unseen unseen]
    cases Node.children? entries with
    | none => rfl
    | some items => cases items <;> rfl
  rw [margin, margin, same]

theorem expansion_unseen (unseen : Unseen change) (key : Text) (value : Value) :
    expansion key (change value) = expansion key value := by
  have nodes := Node.isNode_unseen unseen value
  have step := unseen value
  generalize change value = next at step nodes ⊢
  cases step with
  | leaf | set => rfl
  | mapping form other entries => rw [expansion, expansion, nodes]
  | sequence form other items =>
      have inner : (items.map change).all Node.isNode = items.all Node.isNode := by
        rw [List.all_map]
        exact congrArg items.all (funext (Node.isNode_unseen unseen))
      rw [expansion, expansion, inner, List.isEmpty_map]

end Parts

-- The recursion is that of the report.
mutual

theorem valueLines_unseen {change : Value → Value} (unseen : Unseen change) (display : Display) :
    (value : Value) → valueLines display (change value) = valueLines display value
  | .sequence form [] => by
      have step := unseen (.sequence form [])
      generalize change (.sequence form []) = next at step ⊢
      cases step with
      | leaf leaf => cases leaf
      | sequence => rfl
  | .sequence form (item :: rest) => by
      have siblings := siblingLines_unseen unseen display (item :: rest).length 0 (item :: rest)
      have step := unseen (.sequence form (item :: rest))
      generalize change (.sequence form (item :: rest)) = next at step ⊢
      cases step with
      | leaf leaf => cases leaf
      | sequence =>
          simpa only [valueLines, List.map_cons, List.length_cons, List.length_map] using siblings
  | .mapping form entries => by
      have attributes := attributeLines_unseen unseen display (Node.tagKey entries) entries
      have children := childLines_unseen unseen display entries
      have compact := compactText_unseen unseen (.mapping form entries)
      have step := unseen (.mapping form entries)
      generalize change (.mapping form entries) = next at step compact ⊢
      cases step with
      | leaf leaf => cases leaf
      | mapping =>
          simp only [valueLines, Node.typeText_unseen unseen, Node.tagKey_unseen unseen,
            header_unseen display unseen, margin_unseen display unseen, attributes, children,
            compact]
  | .set form items => by
      have compact := compactText_unseen unseen (.set form items)
      have step := unseen (.set form items)
      generalize change (.set form items) = next at step compact ⊢
      cases step with
      | leaf leaf => cases leaf
      | set => exact congrArg (fun text => [text]) compact
  | .null | .bool _ | .int _ | .float _ | .str _ | .bytes _ | .object _ | .options _ _ =>
      congrArg (valueLines display) (unseen.leaf rfl)
termination_by structural value => value

theorem siblingLines_unseen {change : Value → Value} (unseen : Unseen change) (display : Display)
    (total index : Nat) : (items : List Value) →
    siblingLines display total index (items.map change) = siblingLines display total index items
  | [] => rfl
  | item :: rest => by
      have head := valueLines_unseen unseen display item
      have tail := siblingLines_unseen unseen display total (index + 1) rest
      rw [List.map_cons, siblingLines, siblingLines, head, tail]
termination_by structural items => items

theorem attributeLines_unseen {change : Value → Value} (unseen : Unseen change)
    (display : Display) (tagKey : Value) : (entries : Entries) →
    attributeLines display tagKey (withValues change entries) =
      attributeLines display tagKey entries
  | [] => rfl
  | (key, value) :: rest => by
      have inner := valueLines_unseen unseen display value
      have tail := attributeLines_unseen unseen display tagKey rest
      rw [withValues] at tail
      simp only [withValues, List.map_cons, attributeLines, inner, tail, expansion_unseen unseen,
        compactText_unseen unseen]
termination_by structural entries => entries

theorem childLines_unseen {change : Value → Value} (unseen : Unseen change) (display : Display) :
    (entries : Entries) → childLines display (withValues change entries) =
      childLines display entries
  | [] => rfl
  | (key, value) :: rest => by
      have inner := valueLines_unseen unseen display value
      have later := childLines_unseen unseen display rest
      rw [withValues] at later
      simp only [withValues, List.map_cons, childLines, inner, later, listed_unseen unseen]
termination_by structural entries => entries

end

/-- A change that keeps to these rules does not show. -/
theorem text_unseen {change : Value → Value} (unseen : Unseen change) (display : Display)
    (value : Value) : text display (change value) = text display value := by
  rw [text, valueLines_unseen unseen, text]

section Integers

theorem rangeWritten_unseen {change : Value → Value} (unseen : Unseen change) (positions : Bool)
    (entries : Entries) :
    rangeWritten positions (withValues change entries) = rangeWritten positions entries := by
  rw [rangeWritten, rangeWritten, get?_withValues]
  cases entries.get? "position" with
  | none => rfl
  | some value =>
      rw [Option.map_some, Option.getD_some, Option.getD_some, SourceRange.written_unseen unseen]

-- The recursion is that of the integers that a report spells out.
mutual

theorem written_unseen {change : Value → Value} (unseen : Unseen change) (positions : Bool)
    (n : Int) : (value : Value) →
      (n ∈ written positions (change value) ↔ n ∈ written positions value)
  | .sequence form items => by
      have inner := writtenItems_unseen unseen positions n items
      have step := unseen (.sequence form items)
      generalize change (.sequence form items) = next at step ⊢
      cases step with
      | leaf leaf => cases leaf
      | sequence => exact inner
  | .mapping form entries => by
      have attributes := writtenAttributes_unseen unseen positions (Node.tagKey entries) n entries
      have children := writtenChildren_unseen unseen positions n entries
      have plain := Value.written_unseen unseen (.mapping form entries) n
      have step := unseen (.mapping form entries)
      generalize change (.mapping form entries) = next at step plain ⊢
      cases step with
      | leaf leaf => cases leaf
      | mapping =>
          simp only [written, Node.typeText_unseen unseen, Node.tagKey_unseen unseen,
            rangeWritten_unseen unseen]
          cases Node.typeText? entries with
          | none => exact plain
          | some typeText => simp only [List.mem_append, attributes, children]
  | .set form items => by
      have plain := Value.written_unseen unseen (.set form items) n
      have step := unseen (.set form items)
      generalize change (.set form items) = next at step plain ⊢
      cases step with
      | leaf leaf => cases leaf
      | set => exact plain
  | .null | .bool _ | .int _ | .float _ | .str _ | .bytes _ | .object _ | .options _ _ => by
      rw [unseen.leaf rfl]
termination_by structural value => value

theorem writtenItems_unseen {change : Value → Value} (unseen : Unseen change) (positions : Bool)
    (n : Int) : (items : List Value) →
    (n ∈ writtenItems positions (items.map change) ↔ n ∈ writtenItems positions items)
  | [] => Iff.rfl
  | item :: rest => by
      have head := written_unseen unseen positions n item
      have tail := writtenItems_unseen unseen positions n rest
      rw [List.map_cons, writtenItems, writtenItems, List.mem_append, List.mem_append, head, tail]
termination_by structural items => items

theorem writtenAttributes_unseen {change : Value → Value} (unseen : Unseen change)
    (positions : Bool) (tagKey : Value) (n : Int) : (entries : Entries) →
    (n ∈ writtenAttributes positions tagKey (withValues change entries) ↔
      n ∈ writtenAttributes positions tagKey entries)
  | [] => Iff.rfl
  | (key, value) :: rest => by
      have inner := written_unseen unseen positions n value
      have plain := Value.written_unseen unseen value n
      have tail := writtenAttributes_unseen unseen positions tagKey n rest
      rw [withValues] at tail
      simp only [withValues, List.map_cons, writtenAttributes, expansion_unseen unseen,
        List.mem_append, tail]
      refine or_congr_left ?_
      split
      · cases expansion key.plain value <;> simp only [List.mem_append, inner, plain]
      · exact Iff.rfl
termination_by structural entries => entries

theorem writtenChildren_unseen {change : Value → Value} (unseen : Unseen change)
    (positions : Bool) (n : Int) : (entries : Entries) →
    (n ∈ writtenChildren positions (withValues change entries) ↔
      n ∈ writtenChildren positions entries)
  | [] => Iff.rfl
  | (key, value) :: rest => by
      have inner := written_unseen unseen positions n value
      have later := writtenChildren_unseen unseen positions n rest
      rw [withValues] at later
      simp only [withValues, List.map_cons, writtenChildren, listed_unseen unseen]
      split
      · split
        · exact inner
        · exact Iff.rfl
      · exact later
termination_by structural entries => entries

end

end Integers

theorem render_unseen {change : Value → Value} (unseen : Unseen change) (display : Display)
    (value : Value) : render display (change value) = render display value := by
  rw [render, text_unseen unseen]
  exact Decimal.write_congr (fun n => written_unseen unseen display.positions n value) _

end Report

end TreeReport
