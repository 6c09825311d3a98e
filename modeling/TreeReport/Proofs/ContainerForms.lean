import TreeReport.Proofs.UnseenChanges

/-!
Reports do not tell the forms of containers apart. A value shows the same when every
sequence in it is made a list and every mapping a dictionary.
-/
namespace TreeReport

namespace Value

mutual

/-- The value with lists for all sequences and dictionaries for all mappings that are
reached through items and values of mappings. -/
def uniform : Value → Value
  | .sequence _ items => .sequence .list (uniformItems items)
  | .mapping _ entries => .mapping .dictionary (uniformEntries entries)
  | value => value
termination_by structural value => value

def uniformItems : List Value → List Value
  | [] => []
  | item :: rest => uniform item :: uniformItems rest
termination_by structural items => items

def uniformEntries : List (Value × Value) → Entries
  | [] => []
  | (key, value) :: rest => (key, uniform value) :: uniformEntries rest
termination_by structural entries => entries

end

section Parts

theorem uniformItems_map (items : List Value) : uniformItems items = items.map uniform := by
  induction items with
  | nil => rfl
  | cons item rest ih => rw [uniformItems, ih, List.map_cons]

theorem uniformEntries_map (entries : Entries) :
    uniformEntries entries = withValues uniform entries := by
  induction entries with
  | nil => rfl
  | cons entry rest ih =>
      obtain ⟨key, value⟩ := entry
      rw [uniformEntries, ih, withValues, withValues, List.map_cons]

theorem uniformItems_length (items : List Value) : (uniformItems items).length = items.length := by
  rw [uniformItems_map, List.length_map]

theorem unseen_uniform : Unseen uniform := fun value => by
  cases value with
  | sequence form items =>
      rw [uniform, uniformItems_map]
      exact .sequence form .list items
  | mapping form entries =>
      rw [uniform, uniformEntries_map]
      exact .mapping form .dictionary entries
  | set form items => exact .set rfl fun _ => Iff.rfl
  | _ => exact .leaf rfl

theorem isSequence_uniform (value : Value) : value.uniform.isSequence = value.isSequence :=
  isSequence_unseen unseen_uniform value

theorem encode_uniform (value : Value) : value.uniform.encode = value.encode :=
  encode_unseen unseen_uniform value

end Parts

end Value

open Value

theorem SourceRange.stringify_uniform (value : Value) :
    stringify value.uniform = stringify value :=
  stringify_unseen unseen_uniform value

namespace Node

theorem children_uniform (entries : Entries) :
    children? (uniformEntries entries) = (children? entries).map uniformItems := by
  rw [uniformEntries_map, children_unseen unseen_uniform,
    show uniformItems = List.map uniform from funext uniformItems_map]

theorem payload_uniform (entries : Entries) :
    payload? (uniformEntries entries) = payload? entries := by
  rw [uniformEntries_map, payload_unseen unseen_uniform]

theorem elementName_uniform (entries : Entries) :
    elementName? (uniformEntries entries) = elementName? entries := by
  rw [uniformEntries_map, elementName_unseen unseen_uniform]

theorem tagKey_uniform (entries : Entries) : tagKey (uniformEntries entries) = tagKey entries := by
  rw [uniformEntries_map, tagKey_unseen unseen_uniform]

theorem isNode_uniform (value : Value) : isNode value.uniform = isNode value :=
  isNode_unseen unseen_uniform value

end Node

namespace Report

theorem margin_uniform (display : Display) (entries : Entries) :
    margin display (uniformEntries entries) = margin display entries := by
  rw [uniformEntries_map, margin_unseen display unseen_uniform]

theorem attributeLines_uniform (display : Display) (tagKey : Value) (entries : Entries) :
    attributeLines display tagKey (uniformEntries entries) =
      attributeLines display tagKey entries := by
  rw [uniformEntries_map, attributeLines_unseen unseen_uniform]

theorem text_uniform (display : Display) (value : Value) :
    text display value.uniform = text display value :=
  text_unseen unseen_uniform display value

theorem render_uniform (display : Display) (value : Value) :
    render display value.uniform = render display value :=
  render_unseen unseen_uniform display value

end Report

end TreeReport
