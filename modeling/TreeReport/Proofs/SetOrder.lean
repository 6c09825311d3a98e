import TreeReport.Proofs.AlikeContainers
import TreeReport.Proofs.Literals

/-!
The order in which a set came to its elements does not show. Elements are shown in the
order of their literal texts, and among scalars and tuples of scalars no two have one
text. Frozen sets within sets are left out: their literal texts tell the order.
-/
namespace TreeReport

open Value

theorem Binary64.sameNumber_comm (x y : Binary64) : x.sameNumber y = y.sameNumber x := by
  cases x with
  | nan => cases y <;> rfl
  | infinite negative =>
      cases y with
      | infinite other => exact BEq.comm
      | _ => rfl
  | finite negative exponent fraction =>
      cases y with
      | finite => exact BEq.comm
      | _ => rfl

namespace Value

section Equality

theorem sameItems_comm {items others : List Value}
    (each : ∀ item ∈ items, ∀ other ∈ others, item.same other = other.same item) :
    sameItems items others = sameItems others items := by
  induction items generalizing others with
  | nil => cases others <;> rfl
  | cons item rest ih =>
      cases others with
      | nil => rfl
      | cons other more =>
          rw [sameItems, sameItems, each item (by simp) other (by simp),
            ih fun item inside other listed =>
              each item (List.mem_cons_of_mem _ inside) other (List.mem_cons_of_mem _ listed)]

theorem same_comm {first second : Value} (one : Element first) (two : Element second) :
    first.same second = second.same first := by
  induction one generalizing second with
  | null => cases two <;> rfl
  | bool b =>
      cases two with
      | bool | int => exact BEq.comm
      | _ => rfl
  | int n =>
      cases two with
      | bool | int => exact BEq.comm
      | _ => rfl
  | float x =>
      cases two with
      | float y => exact Binary64.sameNumber_comm x y
      | _ => rfl
  | str text =>
      cases two with
      | str => exact BEq.comm
      | _ => rfl
  | bytes content =>
      cases two with
      | bytes => exact BEq.comm
      | _ => rfl
  | tuple all ih =>
      cases two with
      | tuple others =>
          exact sameItems_comm fun item inside other listed => ih item inside (others other listed)
      | _ => rfl

/-- No item equals a later one. NaN equals nothing, so it may come more than once. -/
def Unequal (items : List Value) : Prop := items.Pairwise fun a b => a.same b = false

instance (items : List Value) : Decidable (Unequal items) :=
  inferInstanceAs (Decidable (items.Pairwise _))

theorem distinct_snoc (items : List Value) (item : Value) :
    distinct (items ++ [item]) =
      if (distinct items).any (fun other => other.same item) then distinct items
      else distinct items ++ [item] := by
  rw [distinct, List.foldl_append, ← distinct]
  rfl

theorem distinct_unequal {items : List Value} (unequal : Unequal items) :
    distinct items = items := by
  induction items using List.reverseRecOn with
  | nil => rfl
  | append_singleton front last ih =>
      obtain ⟨before, -, apart⟩ := List.pairwise_append.mp unequal
      have new : front.any (fun other => other.same last) = false :=
        List.any_eq_false.mpr fun other inside => by simp [apart other inside last (by simp)]
      rw [distinct_snoc, ih before, new]
      rfl

theorem unequal_perm {items others : List Value} (elements : ∀ item ∈ items, Element item)
    (unequal : Unequal items) (order : items.Perm others) : Unequal others := by
  -- Equality of any two values need not be symmetric, so the relation asks for elements.
  let Apart (a b : Value) : Prop := Element a → Element b → a.same b = false
  have symmetric : ∀ {a b : Value}, Apart a b → Apart b a := fun apart two one => by
    rw [same_comm two one]
    exact apart one two
  have every : others.Pairwise Apart :=
    order.pairwise (unequal.imp fun apart _ _ => apart) symmetric
  exact every.imp_of_mem fun inside listed apart =>
    apart (elements _ (order.mem_iff.mpr inside)) (elements _ (order.mem_iff.mpr listed))

end Equality

section Settled

theorem byLiteral_idempotent (items : List Value) :
    byLiteral (byLiteral items) = byLiteral items := by
  obtain ⟨sorted, alike⟩ := ordered_byLiteral (byLiteral items)
  exact eq_of_sorted literal sorted (ordered_byLiteral items).1 alike

theorem byLiteral_of_perm {items others : List Value} (elements : ∀ item ∈ items, Element item)
    (order : items.Perm others) : byLiteral items = byLiteral others := by
  have shuffled : (byLiteral items).Perm (byLiteral others) :=
    (byLiteral_perm items).trans (order.trans (byLiteral_perm others).symm)
  refine shuffled.eq_of_pairwise (fun first second inside listed one two => ?_)
    (ordered_byLiteral items).1 (ordered_byLiteral others).1
  have texts := Text.precedes_antisymm one two
  exact literal_injective (elements first ((byLiteral_perm items).mem_iff.mp inside))
    (elements second (order.mem_iff.mpr ((byLiteral_perm others).mem_iff.mp listed))) texts

mutual

/-- The value with its sets in the order in which they are shown, when they are reached
through items and values of mappings. -/
def settled : Value → Value
  | .sequence form items => .sequence form (settledItems items)
  | .set _ items => .set .growing (byLiteral items)
  | .mapping form entries => .mapping form (settledEntries entries)
  | value => value
termination_by structural value => value

def settledItems : List Value → List Value
  | [] => []
  | item :: rest => settled item :: settledItems rest
termination_by structural items => items

def settledEntries : List (Value × Value) → Entries
  | [] => []
  | (key, value) :: rest => (key, settled value) :: settledEntries rest
termination_by structural entries => entries

end

theorem settledItems_map (items : List Value) : settledItems items = items.map settled := by
  induction items with
  | nil => rfl
  | cons item rest ih => rw [settledItems, ih, List.map_cons]

theorem settledEntries_map (entries : Entries) :
    settledEntries entries = withValues settled entries := by
  induction entries with
  | nil => rfl
  | cons entry rest ih =>
      obtain ⟨key, value⟩ := entry
      rw [settledEntries, ih, withValues, withValues, List.map_cons]

theorem unseen_settled : Unseen settled := fun value => by
  cases value with
  | sequence form items =>
      rw [settled, settledItems_map]
      exact .sequence form form items
  | mapping form entries =>
      rw [settled, settledEntries_map]
      exact .mapping form form entries
  | set form items =>
      refine .set ?_ fun n => ?_
      · rw [normal, normal, normal_byLiteral, normal_byLiteral, byLiteral_idempotent]
      · simp only [named, List.mem_append, mem_spelledItems, mem_namedItems,
          (byLiteral_perm items).mem_iff]
  | _ => exact .leaf rfl

end Settled

/-- The values differ in the order in which elements were given to sets that are
reached through items and values of mappings. -/
inductive Reordered : Value → Value → Prop where
  | same (value : Value) : Reordered value value
  | set (form other : SetForm) {items others : List Value}
      (elements : ∀ item ∈ items, Element item) (unequal : Unequal items)
      (order : items.Perm others) :
      Reordered (.set form (distinct items)) (.set other (distinct others))
  | sequence (form : SequenceForm) {items others : List Value}
      (count : items.length = others.length)
      (all : ∀ pair ∈ items.zip others, Reordered pair.1 pair.2) :
      Reordered (.sequence form items) (.sequence form others)
  | mapping (form : MappingForm) {entries others : Entries}
      (keys : entries.map Prod.fst = others.map Prod.fst)
      (all : ∀ pair ∈ entries.zip others, Reordered pair.1.2 pair.2.2) :
      Reordered (.mapping form entries) (.mapping form others)

theorem settled_of_reordered {value other : Value} (reordered : Reordered value other) :
    value.settled = other.settled := by
  induction reordered with
  | same value => rfl
  | set form other elements unequal order =>
      rw [settled, settled, distinct_unequal unequal,
        distinct_unequal (unequal_perm elements unequal order), byLiteral_of_perm elements order]
  | sequence form count all ih =>
      rw [settled, settled, settledItems_map, settledItems_map]
      exact congrArg _ ((map_eq_iff_zip settled _ _).mpr ⟨count, ih⟩)
  | mapping form keys all ih =>
      obtain ⟨count, names⟩ := (map_eq_iff_zip Prod.fst _ _).mp keys
      rw [settled, settled, settledEntries_map, settledEntries_map, withValues, withValues]
      refine congrArg _ ((map_eq_iff_zip _ _ _).mpr ⟨count, fun pair inside => ?_⟩)
      rw [names pair inside, ih pair inside]

/-- The order of insertion into sets shows neither in compact text nor in a report, and
not in whether there is one. -/
theorem insertion_order_does_not_show {value other : Value} (reordered : Reordered value other) :
    value.encode = other.encode ∧
      ∀ display, Report.render display value = Report.render display other := by
  have same := settled_of_reordered reordered
  constructor
  · rw [← encode_unseen unseen_settled value, same, encode_unseen unseen_settled]
  · intro display
    rw [← Report.render_unseen unseen_settled display value, same,
      Report.render_unseen unseen_settled]

theorem insertion_order_does_not_show_in_node :
    let items : List Value := [.float .nan, .int 1, .str "b", .float (.infinite true), .float .nan,
      .sequence .tuple [.null, .bytes [1], .sequence .tuple []], .bool false]
    let node (items : List Value) : Value := .mapping .dictionary [(.str "type", .str "a"),
      (.str "held", .sequence .list [.null, .set .frozen (distinct items)])]
    Unequal items ∧ (distinct items.reverse).map literal ≠ (distinct items).map literal ∧
      Report.render ⟨false, false⟩ (node items) = .ok
        "a\n  held: [null,[\"b\",[null,\"b'\\\\x01'\",[]],null,1,false,null,null]]" ∧
      (node items).encode = (node items.reverse).encode ∧
      ∀ display,
        Report.render display (node items) = Report.render display (node items.reverse) := by
  intro items node
  have elements : ∀ item ∈ items, Element item := by
    have nothing : Element (.sequence .tuple []) := .tuple (by simp)
    have tuple : Element (.sequence .tuple [.null, .bytes [1], .sequence .tuple []]) :=
      .tuple (by simp [Element.null, Element.bytes, nothing])
    simp [items, Element.bool, Element.int, Element.float, Element.str, tuple]
  have unequal : Unequal items := by decide
  have reordered : Reordered (node items) (node items.reverse) := by
    refine .mapping .dictionary rfl ?_
    have set : Reordered (.set .frozen (distinct items)) (.set .frozen (distinct items.reverse)) :=
      .set .frozen .frozen elements unequal (List.reverse_perm items).symm
    have held : Reordered (.sequence .list [.null, .set .frozen (distinct items)])
        (.sequence .list [.null, .set .frozen (distinct items.reverse)]) :=
      .sequence .list rfl (by simp [Reordered.same, set])
    simp [Reordered.same, held]
  exact ⟨unequal, by decide, by decide, insertion_order_does_not_show reordered⟩

/-- Of equal elements the first one stays, and it may show in another way. -/
example : (Value.set .growing (distinct [.int 1, .bool true])).compactText ≠
    (Value.set .growing (distinct [.bool true, .int 1])).compactText := by decide

end Value

end TreeReport
