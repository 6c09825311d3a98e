import Mathlib.Data.List.Induction
import TreeReport.CompactText
import TreeReport.Value.Document

/-!
Documents in normal form. Their floating point numbers are finite and the names
of an object differ, so normalizing such a document again changes nothing. The
normal form of a value is always one; its integers are those of the value.
-/
namespace TreeReport

namespace Json

/-- What a normal form is like. Which integers stand in it is left open. -/
inductive Proper (accepted : Int → Prop) : Json → Prop where
  | null : Proper accepted .null
  | bool (b : Bool) : Proper accepted (.bool b)
  | int {n : Int} (allowed : accepted n) : Proper accepted (.int n)
  | float {x : Binary64} (finite : x.isFinite = true) : Proper accepted (.float x)
  | str (text : Text) : Proper accepted (.str text)
  | array {items : List Json} (all : ∀ item ∈ items, Proper accepted item) :
      Proper accepted (.array items)
  | object {members : List (Text × Json)} (names : (members.map Prod.fst).Nodup)
      (all : ∀ member ∈ members, Proper accepted member.2) : Proper accepted (.object members)

/-- What compact text tells apart: all but infinities and NaN. Here two members of an
object may have one name. -/
inductive Writable : Json → Prop where
  | null : Writable .null
  | bool (b : Bool) : Writable (.bool b)
  | int (n : Int) : Writable (.int n)
  | float {x : Binary64} (finite : x.isFinite = true) : Writable (.float x)
  | str (text : Text) : Writable (.str text)
  | array {items : List Json} (all : ∀ item ∈ items, Writable item) : Writable (.array items)
  | object {members : List (Text × Json)} (all : ∀ member ∈ members, Writable member.2) :
      Writable (.object members)

theorem Proper.writable {accepted : Int → Prop} {document : Json}
    (proper : Proper accepted document) : Writable document := by
  induction proper with
  | null => exact .null
  | bool b => exact .bool b
  | int allowed => exact .int _
  | float finite => exact .float finite
  | str text => exact .str text
  | array all ih => exact .array ih
  | object names all ih => exact .object ih

section Members

theorem insertMember_names (name : Text) (value : Json) (members : List (Text × Json)) :
    (insertMember name value members).map Prod.fst =
      if name ∈ members.map Prod.fst then members.map Prod.fst
      else members.map Prod.fst ++ [name] := by
  induction members with
  | nil => rfl
  | cons member rest ih =>
      obtain ⟨other, old⟩ := member
      by_cases same : other = name
      · simp [insertMember, same]
      · by_cases later : name ∈ rest.map Prod.fst
        · simp only [later, ↓reduceIte] at ih
          simp [insertMember, same, ih, List.mem_cons, later]
        · simp only [later, ↓reduceIte] at ih
          simp [insertMember, same, Ne.symm same, ih, later]

theorem insertMember_new {name : Text} (value : Json) {members : List (Text × Json)}
    (new : name ∉ members.map Prod.fst) :
    insertMember name value members = members ++ [(name, value)] := by
  induction members with
  | nil => rfl
  | cons member rest ih =>
      obtain ⟨other, old⟩ := member
      simp only [List.map_cons, List.mem_cons, not_or] at new
      simp [insertMember, Ne.symm new.1, ih new.2]

theorem mem_insertMember {name : Text} {value : Json} {members : List (Text × Json)}
    {member : Text × Json} (inside : member ∈ insertMember name value members) :
    member = (name, value) ∨ member ∈ members := by
  induction members with
  | nil => exact Or.inl (by simpa [insertMember] using inside)
  | cons head rest ih =>
      obtain ⟨other, old⟩ := head
      simp only [insertMember] at inside
      split at inside
      · next same =>
          rcases List.mem_cons.mp inside with first | later
          · exact Or.inl (by rw [first, same])
          · exact Or.inr (List.mem_cons_of_mem _ later)
      · rcases List.mem_cons.mp inside with first | later
        · exact Or.inr (by simp [first])
        · rcases ih later with new | old
          · exact Or.inl new
          · exact Or.inr (List.mem_cons_of_mem _ old)

theorem collectMembers_append (front back : List (Text × Json)) :
    collectMembers (front ++ back) =
      back.foldl (fun kept member => insertMember member.1 member.2 kept) (collectMembers front) :=
  List.foldl_append

theorem collectMembers_snoc (front : List (Text × Json)) (member : Text × Json) :
    collectMembers (front ++ [member]) =
      insertMember member.1 member.2 (collectMembers front) :=
  collectMembers_append front [member]

theorem collectMembers_names_nodup (members : List (Text × Json)) :
    ((collectMembers members).map Prod.fst).Nodup := by
  induction members using List.reverseRecOn with
  | nil => exact List.nodup_nil
  | append_singleton front member ih =>
      rw [collectMembers_snoc, insertMember_names]
      split
      · exact ih
      · next new =>
          rw [List.nodup_append]
          refine ⟨ih, by simp, ?_⟩
          intro name inside other single same
          rw [List.mem_singleton] at single
          exact new (single ▸ same ▸ inside)

theorem mem_collectMembers {members : List (Text × Json)} {member : Text × Json}
    (inside : member ∈ collectMembers members) : member ∈ members := by
  induction members using List.reverseRecOn with
  | nil => exact inside
  | append_singleton front last ih =>
      rw [collectMembers_snoc] at inside
      rcases mem_insertMember inside with new | old
      · simp [new]
      · exact List.mem_append_left _ (ih old)

theorem collectMembers_of_nodup {members : List (Text × Json)}
    (names : (members.map Prod.fst).Nodup) : collectMembers members = members := by
  induction members using List.reverseRecOn with
  | nil => rfl
  | append_singleton front member ih =>
      simp only [List.map_append, List.map_cons, List.map_nil, List.nodup_append,
        List.mem_singleton] at names
      have new : member.1 ∉ front.map Prod.fst :=
        fun inside => names.2.2 _ inside _ rfl rfl
      rw [collectMembers_snoc, ih names.1, insertMember_new _ new]

end Members

end Json

namespace Value

/-- All integers in the value are accepted ones, those in keys and set elements
among them. -/
inductive Integers (accepted : Int → Prop) : Value → Prop where
  | null : Integers accepted .null
  | bool (b : Bool) : Integers accepted (.bool b)
  | int {n : Int} (allowed : accepted n) : Integers accepted (.int n)
  | float (x : Binary64) : Integers accepted (.float x)
  | str (text : Text) : Integers accepted (.str text)
  | bytes (content : List UInt8) : Integers accepted (.bytes content)
  | sequence (form : SequenceForm) {items : List Value}
      (all : ∀ item ∈ items, Integers accepted item) : Integers accepted (.sequence form items)
  | set (form : SetForm) {items : List Value}
      (all : ∀ item ∈ items, Integers accepted item) : Integers accepted (.set form items)
  | mapping (form : MappingForm) {entries : List (Value × Value)}
      (keys : ∀ entry ∈ entries, Integers accepted entry.1)
      (values : ∀ entry ∈ entries, Integers accepted entry.2) :
      Integers accepted (.mapping form entries)
  | object (label : Text) : Integers accepted (.object label)
  | options {showPositions colors : Value} (first : Integers accepted showPositions)
      (second : Integers accepted colors) : Integers accepted (.options showPositions colors)

section Parts

theorem normalItems_map (items : List Value) : normalItems items = items.map normal := by
  induction items with
  | nil => rfl
  | cons item rest ih => rw [normalItems, ih, List.map_cons]

theorem keyedItems_map (items : List Value) :
    keyedItems items = items.map fun item => (literal item, normal item) := by
  induction items with
  | nil => rfl
  | cons item rest ih => rw [keyedItems, ih, List.map_cons]

theorem namedMembers_map (entries : Entries) :
    namedMembers entries = entries.map fun entry => (plain entry.1, normal entry.2) := by
  induction entries with
  | nil => rfl
  | cons entry rest ih =>
      obtain ⟨key, value⟩ := entry
      rw [namedMembers, ih, List.map_cons]

theorem ofItems_map (items : List Json) : ofItems items = items.map ofJson := by
  induction items with
  | nil => rfl
  | cons item rest ih => rw [ofItems, ih, List.map_cons]

theorem ofMembers_map (members : List (Text × Json)) :
    ofMembers members = members.map fun member => (.str member.1, ofJson member.2) := by
  induction members with
  | nil => rfl
  | cons member rest ih =>
      obtain ⟨name, value⟩ := member
      rw [ofMembers, ih, List.map_cons]

theorem insertByKey_perm {α : Type} (item : Text × α) (items : List (Text × α)) :
    (insertByKey item items).Perm (item :: items) := by
  induction items with
  | nil => exact List.Perm.refl _
  | cons other rest ih =>
      simp only [insertByKey]
      split
      · exact List.Perm.refl _
      · exact (ih.cons other).trans (List.Perm.swap item other rest)

theorem sortByKey_perm {α : Type} (items : List (Text × α)) : (sortByKey items).Perm items := by
  induction items with
  | nil => exact List.Perm.refl _
  | cons item rest ih => exact (insertByKey_perm item (sortByKey rest)).trans (ih.cons item)

end Parts

theorem normal_proper {accepted : Int → Prop} {value : Value}
    (integers : Integers accepted value) : Json.Proper accepted value.normal := by
  induction integers with
  | null => exact .null
  | bool b => exact .bool b
  | int allowed => exact .int allowed
  | float x =>
      rw [normal]
      split
      · next finite => exact .float finite
      · exact .null
  | str text => exact .str text
  | bytes content => exact .str _
  | sequence form all ih =>
      rw [normal, normalItems_map]
      apply Json.Proper.array
      intro document member
      obtain ⟨item, inside, rfl⟩ := List.mem_map.mp member
      exact ih item inside
  | set form all ih =>
      rw [normal, keyedItems_map]
      apply Json.Proper.array
      intro document member
      obtain ⟨keyed, placed, rfl⟩ := List.mem_map.mp member
      obtain ⟨item, inside, rfl⟩ := List.mem_map.mp ((sortByKey_perm _).mem_iff.mp placed)
      exact ih item inside
  | mapping form keys values keysIh valuesIh =>
      rw [normal, namedMembers_map]
      apply Json.Proper.object (Json.collectMembers_names_nodup _)
      intro member collected
      obtain ⟨entry, inside, rfl⟩ := List.mem_map.mp (Json.mem_collectMembers collected)
      exact valuesIh entry inside
  | object label => exact .str label
  | options first second firstIh secondIh => exact .str _

mutual

theorem integers_all {accepted : Int → Prop} (all : ∀ n, accepted n) :
    (value : Value) → Integers accepted value
  | .null => .null
  | .bool b => .bool b
  | .int n => .int (all n)
  | .float x => .float x
  | .str text => .str text
  | .bytes content => .bytes content
  | .sequence form items => .sequence form (integers_items all items)
  | .set form items => .set form (integers_items all items)
  | .mapping form entries =>
      .mapping form (fun entry inside => (integers_entries all entries entry inside).1)
        (fun entry inside => (integers_entries all entries entry inside).2)
  | .object label => .object label
  | .options showPositions colors =>
      .options (integers_all all showPositions) (integers_all all colors)
termination_by structural value => value

theorem integers_items {accepted : Int → Prop} (all : ∀ n, accepted n) :
    (items : List Value) → ∀ item ∈ items, Integers accepted item
  | [] => by simp
  | item :: rest => by
      have head := integers_all all item
      have tail := integers_items all rest
      simpa [head] using tail
termination_by structural items => items

theorem integers_entries {accepted : Int → Prop} (all : ∀ n, accepted n) :
    (entries : Entries) → ∀ entry ∈ entries,
      Integers accepted entry.1 ∧ Integers accepted entry.2
  | [] => by simp
  | (key, value) :: rest => by
      have name := integers_all all key
      have held := integers_all all value
      have tail := integers_entries all rest
      intro entry inside
      rcases List.mem_cons.mp inside with rfl | later
      · exact ⟨name, held⟩
      · exact tail entry later
termination_by structural entries => entries

end

theorem normal_proper_any (value : Value) : Json.Proper (fun _ => True) value.normal :=
  normal_proper (integers_all (fun _ => trivial) value)

theorem normal_ofJson {accepted : Int → Prop} {document : Json}
    (proper : Json.Proper accepted document) : (ofJson document).normal = document := by
  induction proper with
  | null => rfl
  | bool b => rfl
  | int allowed => rfl
  | float finite => simp [ofJson, normal, finite]
  | str text => rfl
  | array all ih =>
      rw [ofJson, normal, normalItems_map, ofItems_map, List.map_map]
      congr 1
      exact (List.map_congr_left ih).trans (List.map_id _)
  | @object members names all ih =>
      have same : members.map (fun member => (plain (.str member.1), (ofJson member.2).normal)) =
          members := by
        refine (List.map_congr_left fun member inside => ?_).trans (List.map_id _)
        rw [ih member inside]
        rfl
      rw [ofJson, normal, namedMembers_map, ofMembers_map, List.map_map]
      simp only [Function.comp_def, same]
      rw [Json.collectMembers_of_nodup names]

end Value

end TreeReport
