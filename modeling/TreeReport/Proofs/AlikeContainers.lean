import Mathlib.Data.List.Forall2
import TreeReport.Proofs.ContainerForms
import TreeReport.Proofs.NodeAttributes

/-!
Values that differ only in the forms of their containers. They are the values that become
one value when every sequence is made a list and every mapping a dictionary, and nothing
that is shown of them tells them apart.
-/
namespace TreeReport

namespace Value

/-- Items and values of mappings are alike one by one; keys and all else are the same. -/
inductive Alike : Value → Value → Prop where
  | same (value : Value) : Alike value value
  | sequence (form other : SequenceForm) {items others : List Value}
      (count : items.length = others.length)
      (all : ∀ pair ∈ items.zip others, Alike pair.1 pair.2) :
      Alike (.sequence form items) (.sequence other others)
  | mapping (form other : MappingForm) {entries others : Entries}
      (keys : entries.map Prod.fst = others.map Prod.fst)
      (all : ∀ pair ∈ entries.zip others, Alike pair.1.2 pair.2.2) :
      Alike (.mapping form entries) (.mapping other others)

section Uniform

theorem map_eq_iff_zip {α β : Type} (f : α → β) (items others : List α) :
    items.map f = others.map f ↔
      items.length = others.length ∧ ∀ pair ∈ items.zip others, f pair.1 = f pair.2 := by
  rw [← List.forall₂_eq_eq_eq, List.forall₂_map_left_iff, List.forall₂_map_right_iff,
    List.forall₂_iff_zip]
  simp only [Prod.forall]

theorem uniform_of_alike {value other : Value} (alike : Alike value other) :
    value.uniform = other.uniform := by
  induction alike with
  | same value => rfl
  | sequence form other count all ih =>
      rw [uniform, uniform, uniformItems_map, uniformItems_map]
      exact congrArg _ ((map_eq_iff_zip uniform _ _).mpr ⟨count, ih⟩)
  | mapping form other keys all ih =>
      obtain ⟨count, names⟩ := (map_eq_iff_zip Prod.fst _ _).mp keys
      rw [uniform, uniform, uniformEntries_map, uniformEntries_map, withValues, withValues]
      refine congrArg _ ((map_eq_iff_zip _ _ _).mpr ⟨count, fun pair inside => ?_⟩)
      rw [names pair inside, ih pair inside]

mutual

theorem alike_of_uniform : (value other : Value) → value.uniform = other.uniform →
    Alike value other
  | .sequence form items, other, same => by
      cases other with
      | sequence another others =>
          have inner := (sequence.inj same).2
          have count := congrArg List.length inner
          rw [uniformItems_length, uniformItems_length] at count
          exact .sequence form another count (alike_of_uniformItems items others inner)
      | _ => cases same
  | .mapping form entries, other, same => by
      cases other with
      | mapping another others =>
          have inner := (mapping.inj same).2
          have keys := congrArg (List.map Prod.fst) inner
          rw [uniformEntries_map, uniformEntries_map, withValues, withValues, List.map_map,
            List.map_map] at keys
          exact .mapping form another keys (alike_of_uniformEntries entries others inner)
      | _ => cases same
  | .null, other, same | .bool _, other, same | .int _, other, same | .float _, other, same
  | .str _, other, same | .bytes _, other, same | .set _ _, other, same | .object _, other, same
  | .options _ _, other, same => by
      cases other <;> cases same
      exact .same _
termination_by structural value => value

theorem alike_of_uniformItems : (items others : List Value) →
    uniformItems items = uniformItems others → ∀ pair ∈ items.zip others, Alike pair.1 pair.2
  | [], others, _ => by simp
  | item :: rest, [], _ => by simp
  | item :: rest, other :: more, same => by
      have head := alike_of_uniform item other (List.cons.inj same).1
      have tail := alike_of_uniformItems rest more (List.cons.inj same).2
      rw [List.zip_cons_cons, List.forall_mem_cons]
      exact ⟨head, tail⟩
termination_by structural items => items

theorem alike_of_uniformEntries : (entries others : Entries) →
    uniformEntries entries = uniformEntries others →
      ∀ pair ∈ entries.zip others, Alike pair.1.2 pair.2.2
  | [], others, _ => by simp
  | entry :: rest, [], _ => by simp
  | (key, value) :: rest, (name, other) :: more, same => by
      have head := alike_of_uniform value other (Prod.mk.inj (List.cons.inj same).1).2
      have tail := alike_of_uniformEntries rest more (List.cons.inj same).2
      rw [List.zip_cons_cons, List.forall_mem_cons]
      exact ⟨head, tail⟩
termination_by structural entries => entries

end

/-- To be alike is to have one uniform value. -/
theorem alike_iff {value other : Value} : Alike value other ↔ value.uniform = other.uniform :=
  ⟨uniform_of_alike, alike_of_uniform value other⟩

end Uniform

/-- The entries of a mapping. -/
def entries? : Value → Option Entries
  | .mapping _ entries => some entries
  | _ => none

theorem entries_uniform (value : Value) :
    value.uniform.entries? = value.entries?.map uniformEntries := by
  cases value <;> rfl

theorem entries_alike {β : Type} {value other : Value} (alike : Alike value other)
    (shown : Entries → β) (kept : ∀ entries, shown (uniformEntries entries) = shown entries) :
    value.entries?.map shown = other.entries?.map shown := by
  have through : ∀ held : Value, held.uniform.entries?.map shown = held.entries?.map shown := by
    intro held
    rw [entries_uniform, Option.map_map]
    exact congrArg (Option.map · held.entries?) (funext kept)
  rw [← through value, alike_iff.mp alike, through other]

end Value

open Value

namespace Node

theorem classify_uniform (value : Value) : classify value.uniform = classify value := by
  cases value with
  | mapping form entries =>
      have node := isNode_uniform (.mapping form entries)
      rw [uniform] at node ⊢
      simp only [classify, node, children_uniform, payload_uniform, Option.isSome_map]
  | _ => rfl

theorem attributes_uniform (entries : Entries) :
    attributes (uniformEntries entries) = uniformEntries (attributes entries) := by
  rw [attributes, tagKey_uniform, uniformEntries_map, uniformEntries_map,
    filter_withValues _ (isAttributeKey (tagKey entries)), attributes]

/-- The attributes with their compact texts, as far as these can be written. -/
def attributeTexts (entries : Entries) : List (Value × Except Decimal.Overflow Text) :=
  (attributes entries).map fun entry => (entry.1, entry.2.encode)

theorem attributeTexts_uniform (entries : Entries) :
    attributeTexts (uniformEntries entries) = attributeTexts entries := by
  rw [attributeTexts, attributes_uniform, uniformEntries_map, withValues, List.map_map]
  exact List.map_congr_left fun entry _ => congrArg (entry.1, ·) (encode_uniform entry.2)

end Node

namespace Report

theorem attributeBlock_uniform (display : Display) (entries : Entries) :
    attributeBlock display (uniformEntries entries) = attributeBlock display entries := by
  rw [attributeBlock_lines, attributeBlock_lines, Node.tagKey_uniform, attributeLines_uniform,
    margin_uniform]

end Report

/-- Values that differ only in the forms of their containers have the same report however
it is displayed, the same compact text, range and shape, or none of these alike, and as
nodes the same tag and the same attributes, as texts and in the report. -/
theorem container_forms_do_not_show {value other : Value} (alike : Alike value other) :
    (∀ display, Report.render display value = Report.render display other) ∧
      value.encode = other.encode ∧
      SourceRange.stringify value = SourceRange.stringify other ∧
      Node.classify value = Node.classify other ∧
      Node.isNode value = Node.isNode other ∧
      value.isSequence = other.isSequence ∧
      value.entries?.map Node.elementName? = other.entries?.map Node.elementName? ∧
      value.entries?.map Node.attributeTexts = other.entries?.map Node.attributeTexts ∧
      ∀ display, value.entries?.map (Report.attributeBlock display) =
        other.entries?.map (Report.attributeBlock display) := by
  have same := alike_iff.mp alike
  refine ⟨?_, ?_, ?_, ?_, ?_, ?_, ?_, ?_, ?_⟩
  · intro display
    rw [← Report.render_uniform, same, Report.render_uniform]
  · rw [← encode_uniform, same, encode_uniform]
  · rw [← SourceRange.stringify_uniform, same, SourceRange.stringify_uniform]
  · rw [← Node.classify_uniform, same, Node.classify_uniform]
  · rw [← Node.isNode_uniform, same, Node.isNode_uniform]
  · rw [← isSequence_uniform, same, isSequence_uniform]
  · exact entries_alike alike _ Node.elementName_uniform
  · exact entries_alike alike _ Node.attributeTexts_uniform
  · intro display
    exact entries_alike alike _ (Report.attributeBlock_uniform display)

/-- Forms that differ in children, in an attribute that lists a node, in the points of a
range and in compact text. -/
theorem container_forms_do_not_show_nested :
    let value (sequence : SequenceForm) (mapping : MappingForm) : Value :=
      .mapping mapping [(.str "type", .str "element"), (.str "name", .str "b"),
        (.str "k", .sequence sequence [.mapping mapping [(.str "type", .str "c")]]),
        (.str "data", .mapping mapping [(.int 1, .sequence sequence [.null])]),
        (.str "position", .mapping mapping [(.str "end", .mapping mapping
          [(.str "line", .int 2)])]),
        (.str "children", .sequence sequence [.sequence sequence [], .bool true])]
    Alike (value .tuple .view) (value .list .dictionary) ∧
      Report.render ⟨true, false⟩ (value .tuple .view) =
        Report.render ⟨true, false⟩ (value .list .dictionary) ∧
      Report.render ⟨true, false⟩ (value .list .dictionary) = .ok
        "element<b>[2] (1:1-2:1)\n│ k:\n│ └─0 c\n│ data: \x7b\"1\":[null]\x7d\n├─0 \n└─1 true" := by
  intro value
  have alike : Alike (value .tuple .view) (value .list .dictionary) := alike_iff.mpr rfl
  exact ⟨alike, (container_forms_do_not_show alike).1 _, by decide +kernel⟩

end TreeReport
