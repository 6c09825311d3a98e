import TreeReport.Proofs.Documents
import TreeReport.Report

/-!
Canonical values, those that a report can be read back as. What is shown as
compact text is made of what a document can hold; what is shown as a node has a
plain type, at most one of children and payload, and plain attribute names. Up to
the place of its own entries nothing else is asked of a node.
-/
namespace TreeReport

namespace Text

def isAsciiLetter (symbol : Symbol) : Bool :=
  (0x41 ≤ symbol.code && symbol.code < 0x5B) || (0x61 ≤ symbol.code && symbol.code < 0x7B)

def IsWord (text : Text) : Prop := text ≠ [] ∧ ∀ symbol ∈ text, isAsciiLetter symbol = true

end Text

namespace Value

def TextKeys (entries : Entries) : Prop :=
  ∃ names : List Text, entries.map Prod.fst = names.map Value.str ∧ names.Nodup

inductive IsJson : Value → Prop where
  | null : IsJson .null
  | bool (b : Bool) : IsJson (.bool b)
  | int (n : Int) : IsJson (.int n)
  | float {x : Binary64} (finite : x.isFinite = true) : IsJson (.float x)
  | str (text : Text) : IsJson (.str text)
  | list {items : List Value} (all : ∀ item ∈ items, IsJson item) :
      IsJson (.sequence .list items)
  | mapping (form : MappingForm) {entries : Entries} (keys : TextKeys entries)
      (all : ∀ entry ∈ entries, IsJson entry.2) : IsJson (.mapping form entries)

def ownKeys : List Text := ["type", "value", "children"]

def isOwn (key : Value) : Bool := ownKeys.any fun own => key.isText own

def takenTypes : List Text := ["true", "false", "null", "element"]

/-- A node of a plain type, with a text as payload or a list of children at most,
no position, and documents under plain names. -/
structure PlainNode (entries : Entries) (typeText : Text) : Prop where
  keys : TextKeys entries
  typed : Node.typeText? entries = some typeText
  word : Text.IsWord typeText
  free : typeText ∉ takenTypes
  unplaced : entries.get? "position" = none
  payload : ∀ value, entries.get? "value" = some value → ∃ text, value = .str text
  listed : ∀ value, entries.get? "children" = some value → ∃ items, value = .sequence .list items
  single : entries.get? "value" = none ∨ entries.get? "children" = none
  names : ∀ entry ∈ entries, isOwn entry.1 = false →
    ∃ name, entry.1 = .str name ∧ Text.IsWord name
  held : ∀ entry ∈ entries, isOwn entry.1 = false → IsJson entry.2

/-- A value whose report determines it. What is shown as a node, as a child or
under a name, is such a value itself. -/
inductive Canonical : Value → Prop where
  | null : Canonical .null
  | bool (b : Bool) : Canonical (.bool b)
  | int (n : Int) : Canonical (.int n)
  | float {x : Binary64} (finite : x.isFinite = true) : Canonical (.float x)
  | str (text : Text) : Canonical (.str text)
  | list {items : List Value} (all : ∀ item ∈ items, Canonical item) :
      Canonical (.sequence .list items)
  | mapping {form : MappingForm} {entries : Entries} (json : IsJson (.mapping form entries))
      (untyped : Node.typeText? entries = none) : Canonical (.mapping form entries)
  | node {form : MappingForm} {entries : Entries} {typeText : Text}
      (plain : PlainNode entries typeText)
      (children : ∀ items, entries.get? "children" = some (.sequence .list items) →
        ∀ item ∈ items, Canonical item)
      (shown : ∀ entry ∈ entries, isOwn entry.1 = false →
        Report.expansion entry.1.plain entry.2 ≠ .text → Canonical entry.2) :
      Canonical (.mapping form entries)

def ownFirst (entries : Entries) : Entries :=
  entries.filter (fun entry => entry.1.isText "type") ++
    entries.filter (fun entry => entry.1.isText "value") ++
    entries.filter (fun entry => entry.1.isText "children") ++
    entries.filter (fun entry => !isOwn entry.1)

mutual

/-- The value with the own entries of every node put first. That a mapping is
only a view is forgotten. -/
def arranged : Value → Value
  | .sequence form items => .sequence form (arrangedItems items)
  | .mapping form entries =>
      .mapping .dictionary (if Node.isNode (.mapping form entries) then
        ownFirst (arrangedEntries entries) else arrangedEntries entries)
  | value => value
termination_by structural value => value

def arrangedItems : List Value → List Value
  | [] => []
  | item :: rest => arranged item :: arrangedItems rest
termination_by structural items => items

def arrangedEntries : List (Value × Value) → Entries
  | [] => []
  | (key, value) :: rest => (key, arranged value) :: arrangedEntries rest
termination_by structural entries => entries

end

section Entries

theorem arrangedItems_map (items : List Value) : arrangedItems items = items.map arranged := by
  induction items with
  | nil => rfl
  | cons item rest ih => rw [arrangedItems, ih, List.map_cons]

def withValues (change : Value → Value) (entries : Entries) : Entries :=
  entries.map fun entry => (entry.1, change entry.2)

theorem arrangedEntries_map (entries : Entries) :
    arrangedEntries entries = withValues arranged entries := by
  induction entries with
  | nil => rfl
  | cons entry rest ih =>
      obtain ⟨key, value⟩ := entry
      rw [arrangedEntries, ih, withValues, withValues, List.map_cons]

theorem get?_withValues (change : Value → Value) (entries : Entries) (key : Text) :
    (withValues change entries).get? key = (entries.get? key).map change := by
  induction entries with
  | nil => rfl
  | cons entry rest ih =>
      obtain ⟨name, value⟩ := entry
      rw [withValues, List.map_cons, ← withValues]
      by_cases here : name.isText key = true
      · simp [Entries.get?, here]
      · simp [Entries.get?, here, ih]

theorem get?_split {entries : Entries} {key : Text} {value : Value}
    (found : entries.get? key = some value) : ∃ before after,
      entries = before ++ (.str key, value) :: after ∧
        ∀ entry ∈ before, entry.1.isText key = false := by
  induction entries with
  | nil => contradiction
  | cons entry rest ih =>
      obtain ⟨name, held⟩ := entry
      simp only [Entries.get?] at found
      split at found
      · next here =>
          cases found
          rw [isText_iff.mp here]
          exact ⟨[], rest, rfl, by simp⟩
      · next missed =>
          obtain ⟨before, after, rfl, apart⟩ := ih found
          refine ⟨(name, held) :: before, after, rfl, ?_⟩
          rintro entry inside
          rcases List.mem_cons.mp inside with rfl | later
          · exact Bool.eq_false_iff.mpr missed
          · exact apart entry later

theorem get?_mem {entries : Entries} {key : Text} {value : Value}
    (found : entries.get? key = some value) : ∃ name, (name, value) ∈ entries := by
  obtain ⟨before, after, rfl, -⟩ := get?_split found
  exact ⟨.str key, by simp⟩

theorem filter_withValues (change : Value → Value) (test : Value → Bool) (entries : Entries) :
    (withValues change entries).filter (fun entry => test entry.1) =
      withValues change (entries.filter fun entry => test entry.1) := by
  rw [withValues, withValues, List.filter_map]
  rfl

theorem TextKeys.tail {entry : Value × Value} {rest : Entries} (keys : TextKeys (entry :: rest)) :
    TextKeys rest ∧ ∃ name, entry.1 = .str name ∧ ∀ other ∈ rest, other.1 ≠ .str name := by
  obtain ⟨names, shape, distinct⟩ := keys
  cases names with
  | nil => contradiction
  | cons name more =>
      obtain ⟨head, tail⟩ := List.cons.inj shape
      obtain ⟨new, others⟩ := List.nodup_cons.mp distinct
      refine ⟨⟨more, tail, others⟩, name, head, ?_⟩
      intro other inside same
      have listed : Value.str name ∈ more.map Value.str := by
        rw [← tail, ← same]
        exact List.mem_map_of_mem inside
      obtain ⟨twin, held, equal⟩ := List.mem_map.mp listed
      cases equal
      exact new held

theorem TextKeys.str_plain {entries : Entries} (keys : TextKeys entries) {entry : Value × Value}
    (inside : entry ∈ entries) : .str entry.1.plain = entry.1 := by
  obtain ⟨names, shape, -⟩ := keys
  have key : entry.1 ∈ names.map Value.str := shape ▸ List.mem_map_of_mem inside
  obtain ⟨name, -, same⟩ := List.mem_map.mp key
  rw [← same]
  rfl

theorem filter_key {entries : Entries} (keys : TextKeys entries) (key : Text) :
    entries.filter (fun entry => entry.1.isText key) =
      (entries.get? key).toList.map fun value => (.str key, value) := by
  induction entries with
  | nil => rfl
  | cons entry rest ih =>
      obtain ⟨others, name, shape, apart⟩ := keys.tail
      obtain ⟨first, value⟩ := entry
      cases shape
      by_cases here : name = key
      · have held : (Value.str name).isText key = true := isText_iff.mpr (by rw [here])
        have none : rest.filter (fun entry => entry.1.isText key) = [] := by
          refine List.filter_eq_nil_iff.mpr fun other inside found => ?_
          exact apart other inside (here ▸ isText_iff.mp found)
        rw [List.filter_cons, none, Entries.get?]
        simp only [held, ↓reduceIte]
        rw [here]
        rfl
      · have missed : ¬ (Value.str name).isText key = true := fun held =>
          here (Value.str.inj (isText_iff.mp held))
        rw [List.filter_cons, Entries.get?]
        simp only [missed]
        exact ih others

theorem get?_none {entries : Entries} {key : Text} (absent : entries.get? key = none) :
    ∀ entry ∈ entries, entry.1.isText key = false := by
  induction entries with
  | nil => simp
  | cons entry rest ih =>
      obtain ⟨name, value⟩ := entry
      simp only [Entries.get?] at absent
      split at absent
      · contradiction
      · next missed =>
          intro other inside
          rcases List.mem_cons.mp inside with rfl | later
          · simpa using missed
          · exact ih absent other later

theorem typeText_get {entries : Entries} {typeText : Text}
    (typed : Node.typeText? entries = some typeText) :
    entries.get? "type" = some (.str typeText) := by
  unfold Node.typeText? at typed
  split at typed
  · next text found =>
      cases typed
      exact found
  · contradiction

theorem PlainNode.attributes {entries : Entries} {typeText : Text}
    (plain : PlainNode entries typeText) :
    entries.filter (fun entry => Node.isAttributeKey .null entry.1) =
      entries.filter (fun entry => !isOwn entry.1) := by
  refine List.filter_congr fun entry inside => ?_
  have key := plain.keys.str_plain inside
  have unplaced := get?_none plain.unplaced entry inside
  rw [← key] at unplaced ⊢
  simp [Node.isAttributeKey, Node.isReserved, Node.reservedKeys, isOwn, ownKeys, unplaced,
    same_null, isNull]

theorem PlainNode.arranged {form : MappingForm} {entries : Entries} {typeText : Text}
    (plain : PlainNode entries typeText) :
    (Value.mapping form entries).arranged = .mapping .dictionary
      (((.str "type", .str typeText) ::
        ((entries.get? "value").map Value.arranged).toList.map
          fun value => (.str "value", value)) ++
        (((entries.get? "children").map Value.arranged).toList.map
          fun value => (.str "children", value)) ++
        withValues Value.arranged (entries.filter fun entry => !isOwn entry.1)) := by
  have node : Node.isNode (.mapping form entries) = true := by
    simp [Node.isNode, plain.typed]
  have own : ∀ key : Text, (withValues Value.arranged entries).filter
      (fun entry => entry.1.isText key) =
        ((entries.get? key).map Value.arranged).toList.map fun value => (.str key, value) := by
    intro key
    rw [filter_withValues _ (isText key), filter_key plain.keys, withValues]
    cases entries.get? key with
    | none => rfl
    | some value => rfl
  rw [Value.arranged, node, arrangedEntries_map, ownFirst, own, own, own, typeText_get plain.typed,
    filter_withValues _ (fun key => !isOwn key)]
  rfl

end Entries

section Documents

theorem normal_mapping {form : MappingForm} {entries : Entries} (keys : TextKeys entries) :
    (Value.mapping form entries).normal =
      .object (entries.map fun entry => (entry.1.plain, entry.2.normal)) := by
  obtain ⟨names, shape, distinct⟩ := keys
  have plain_names : (entries.map fun entry => entry.1.plain) = names := by
    have plains := congrArg (List.map plain) shape
    rw [List.map_map, List.map_map] at plains
    exact plains.trans (List.map_id _)
  rw [normal, namedMembers_map, Json.collectMembers_of_nodup]
  rw [List.map_map]
  exact plain_names ▸ distinct

theorem ofJson_normal_mapping {form : MappingForm} {entries : Entries} (keys : TextKeys entries) :
    ofJson (Value.mapping form entries).normal =
      .mapping .dictionary (withValues (fun value => ofJson value.normal) entries) := by
  rw [normal_mapping keys, ofJson, ofMembers_map, List.map_map, withValues]
  congr 1
  refine List.map_congr_left fun entry inside => ?_
  simp only [Function.comp_def, keys.str_plain inside]

-- Whether an entry is a node's type depends on its value being a text, and no
-- document is changed into a text or out of one.
theorem typeText_withValues {change : Value → Value} {entries : Entries}
    (kept : ∀ entry ∈ entries, ∀ text, change entry.2 = .str text ↔ entry.2 = .str text) :
    Node.typeText? (withValues change entries) = Node.typeText? entries := by
  unfold Node.typeText?
  rw [get?_withValues]
  cases found : entries.get? "type" with
  | none => rfl
  | some value =>
      obtain ⟨name, inside⟩ := get?_mem found
      have same : ∀ text, change value = .str text ↔ value = .str text := kept _ inside
      rw [Option.map_some]
      by_cases textual : ∃ text, value = .str text
      · obtain ⟨text, shape⟩ := textual
        rw [(same text).mpr shape, shape]
      · have before : ∀ text, value ≠ .str text := fun text shape => textual ⟨text, shape⟩
        have after : ∀ text, change value ≠ .str text := fun text shape =>
          before text ((same text).mp shape)
        split
        · next text shape => exact absurd (Option.some.inj shape) (after text)
        · split
          · next text shape => exact absurd (Option.some.inj shape) (before text)
          · rfl

theorem IsJson.ofJson_str {value : Value} (json : IsJson value) (text : Text) :
    ofJson value.normal = .str text ↔ value = .str text := by
  cases json with
  | float finite => simp [normal, finite, ofJson]
  | _ => simp [normal, ofJson]

theorem arranged_ofJson_normal {value : Value} (json : IsJson value) :
    arranged (ofJson value.normal) = arranged value := by
  induction json with
  | null => rfl
  | bool b => rfl
  | int n => rfl
  | float finite => simp [normal, finite, ofJson]
  | str text => rfl
  | list all ih =>
      rw [normal, normalItems_map, ofJson, ofItems_map, arranged, arrangedItems_map, List.map_map,
        List.map_map, arranged, arrangedItems_map]
      congr 1
      exact List.map_congr_left ih
  | @mapping form entries keys all ih =>
      have kept : ∀ entry ∈ entries, ∀ text,
          ofJson entry.2.normal = .str text ↔ entry.2 = .str text :=
        fun entry inside text => (all entry inside).ofJson_str text
      have typed : Node.typeText? (withValues (fun value => ofJson value.normal) entries) =
          Node.typeText? entries := typeText_withValues kept
      have values : withValues arranged (withValues (fun value => ofJson value.normal) entries) =
          withValues arranged entries := by
        rw [withValues, withValues, withValues, List.map_map]
        refine List.map_congr_left fun entry inside => ?_
        simp only [Function.comp_def, ih entry inside]
      have node : Node.isNode (.mapping .dictionary
          (withValues (fun value => ofJson value.normal) entries)) =
            Node.isNode (.mapping form entries) := by
        rw [Node.isNode, Node.isNode, typed]
      rw [ofJson_normal_mapping keys, arranged, arranged, arrangedEntries_map, arrangedEntries_map,
        values, node]

theorem arranged_of_normal {first second : Value} (one : IsJson first) (two : IsJson second)
    (same : first.normal = second.normal) : arranged first = arranged second := by
  rw [← arranged_ofJson_normal one, same, arranged_ofJson_normal two]

end Documents

end Value

end TreeReport
