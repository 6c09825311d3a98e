import TreeReport.Proofs.CanonicalValues
import TreeReport.Proofs.FloatText
import TreeReport.Proofs.WrittenIntegers

/-!
Values that always have a report. A report spells out integers of its value and, in ranges,
the integer parts of floating point numbers, which have far fewer digits than the limit. So
a value without integers that are too long has a report however it is displayed.
-/
namespace TreeReport

open Decimal (Short)

namespace Binary64

theorem natAbs_signed (negative : Bool) (size : Nat) : (signed negative size).natAbs = size := by
  cases negative with
  | true => exact Int.natAbs_neg _
  | false => rfl

theorem short_truncate {x : Binary64} {n : Int} (found : x.truncate? = some n) : Short n := by
  rw [truncate?, Option.map_eq_some_iff] at found
  obtain ⟨units, counted, rfl⟩ := found
  cases x with
  | finite negative exponent fraction =>
      cases counted
      have short {power : Nat} (few : power ≤ Decimal.digitLimit) {n : Int}
          (small : n.natAbs < 2 ^ power) : Short n :=
        Decimal.short_of_lt few (Nat.lt_of_lt_of_le small (Nat.pow_le_pow_left (by decide) power))
      refine short (by decide : 2098 ≤ Decimal.digitLimit) ?_
      rw [Int.natAbs_tdiv, natAbs_signed]
      calc magnitude exponent fraction / (unitsPerOne : Int).natAbs
          ≤ magnitude exponent fraction := Nat.div_le_self _ _
        _ < 2 ^ 2098 := magnitude_lt exponent fraction
  | nan | infinite negative => cases counted

end Binary64

namespace Value

/-- Nothing in the value is an integer that is too long. -/
abbrev AllShort (value : Value) : Prop := Integers Short value

theorem AllShort.entry {form : MappingForm} {entries : Entries}
    (all : AllShort (.mapping form entries)) {entry : Value × Value} (listed : entry ∈ entries) :
    AllShort entry.1 ∧ AllShort entry.2 := by
  cases all with
  | mapping _ keys values => exact ⟨keys entry listed, values entry listed⟩

theorem AllShort.get {form : MappingForm} {entries : Entries}
    (all : AllShort (.mapping form entries))
    {name : Text} {value : Value} (found : entries.get? name = some value) : AllShort value := by
  obtain ⟨key, listed⟩ := get?_mem found
  exact (all.entry listed).2

theorem AllShort.items {form : SequenceForm} {items : List Value}
    (all : AllShort (.sequence form items)) : ∀ item ∈ items, AllShort item := by
  cases all with
  | sequence _ each => exact each

end Value

open Value (AllShort)

namespace SourceRange

theorem short_field {point : Option Value} (all : ∀ value ∈ point, AllShort value) {name : Text}
    {n : Int} (found : field? point name = some n) : Short n := by
  unfold field? at found
  split at found
  · next form entries =>
      obtain ⟨value, held, usable⟩ := Option.bind_eq_some_iff.mp found
      have short : AllShort value := (all _ rfl).get held
      unfold usable? at usable
      split at usable
      · cases usable
        cases short with
        | int allowed => exact allowed
      · exact Binary64.short_truncate usable
      · cases usable
  · cases found

theorem short_coordinate {found : Option Int} (short : ∀ n ∈ found, Short n) :
    Short (coordinate found) := by
  have one : Short 1 := by decide
  cases found with
  | none => exact one
  | some n =>
      simp only [coordinate]
      split
      · exact one
      · exact short n rfl

theorem written_short {position : Value} (all : AllShort position) :
    ∀ n ∈ written position, Short n := by
  cases position with
  | mapping form entries =>
      have field (name key : Text) : ∀ n ∈ field? (Entries.get? name entries) key, Short n :=
        fun n found => short_field (fun value held => all.get held) found
      have whole (name key : Text) := short_coordinate (field name key)
      simp only [written]
      split
      · rw [List.forall_mem_append]
        refine ⟨by simp [whole], ?_⟩
        split
        · next a b first last =>
            have one := field _ _ a first
            have two := field _ _ b last
            simp [one, two]
        · simp
      · simp
  | _ => simp [written]

end SourceRange

namespace Report

theorem rangeWritten_short {form : MappingForm} {entries : Entries}
    (all : AllShort (.mapping form entries)) (positions : Bool) :
    ∀ n ∈ rangeWritten positions entries, Short n := by
  unfold rangeWritten
  split
  · cases found : entries.get? "position" with
    | none => simp [SourceRange.written]
    | some position => exact SourceRange.written_short (all.get found)
  · simp

-- The recursion is that of the report.
mutual

theorem written_short (positions : Bool) : (value : Value) → AllShort value →
    ∀ n ∈ written positions value, Short n
  | .sequence form items, all => writtenItems_short positions items all.items
  | .mapping form entries, all => by
      have range := rangeWritten_short all positions
      have attributes := writtenAttributes_short positions (Node.tagKey entries) entries
        fun entry listed => all.entry listed
      have children := writtenChildren_short positions entries
        fun entry listed => (all.entry listed).2
      simp only [written]
      split
      · rw [List.forall_mem_append, List.forall_mem_append]
        exact ⟨⟨range, attributes⟩, children⟩
      · exact all.written
  | .null, all | .bool _, all | .int _, all | .float _, all | .str _, all | .bytes _, all
  | .set _ _, all | .object _, all | .options _ _, all => all.written
termination_by structural value => value

theorem writtenItems_short (positions : Bool) : (items : List Value) →
    (∀ item ∈ items, AllShort item) → ∀ n ∈ writtenItems positions items, Short n
  | [], _ => by simp [writtenItems]
  | item :: rest, all => by
      have head := written_short positions item (all item List.mem_cons_self)
      have tail := writtenItems_short positions rest
        fun other member => all other (List.mem_cons_of_mem item member)
      rw [writtenItems, List.forall_mem_append]
      exact ⟨head, tail⟩
termination_by structural items => items

theorem writtenAttributes_short (positions : Bool) (tagKey : Value) : (entries : Entries) →
    (∀ entry ∈ entries, AllShort entry.1 ∧ AllShort entry.2) →
    ∀ n ∈ writtenAttributes positions tagKey entries, Short n
  | [], _ => by simp [writtenAttributes]
  | (key, value) :: rest, all => by
      obtain ⟨name, held⟩ := all (key, value) List.mem_cons_self
      have inner := written_short positions value held
      have tail := writtenAttributes_short positions tagKey rest
        fun other member => all other (List.mem_cons_of_mem _ member)
      have spelled := name.spelled
      have compact := held.written
      rw [writtenAttributes, List.forall_mem_append]
      refine ⟨?_, tail⟩
      split
      · rw [List.forall_mem_append]
        refine ⟨spelled, ?_⟩
        split
        · exact inner
        · exact inner
        · exact compact
      · simp
termination_by structural entries => entries

theorem writtenChildren_short (positions : Bool) : (entries : Entries) →
    (∀ entry ∈ entries, AllShort entry.2) →
    ∀ n ∈ writtenChildren positions entries, Short n
  | [], _ => by simp [writtenChildren]
  | (key, value) :: rest, all => by
      have inner := written_short positions value (all (key, value) List.mem_cons_self)
      have later := writtenChildren_short positions rest
        fun other member => all other (List.mem_cons_of_mem _ member)
      rw [writtenChildren]
      split
      · split
        · exact inner
        · simp
      · exact later
termination_by structural entries => entries

end

theorem render_short (display : Display) {value : Value} (all : AllShort value) :
    render display value = .ok (text display value) :=
  render_ok (written_short display.positions value all)

end Report

namespace Value

-- The recursion is that of the document.
mutual

theorem allShort_ofJson : (document : Json) → (∀ n ∈ document.integers, Short n) →
    AllShort (ofJson document)
  | .null, _ => .null
  | .bool b, _ => .bool b
  | .int n, short => .int (short n (List.mem_singleton.mpr rfl))
  | .float x, _ => .float x
  | .str text, _ => .str text
  | .array items, short => .sequence .list (allShort_ofItems items short)
  | .object members, short => .mapping .dictionary
      (fun entry listed => (allShort_ofMembers members short entry listed).1)
      (fun entry listed => (allShort_ofMembers members short entry listed).2)
termination_by structural document => document

theorem allShort_ofItems : (items : List Json) →
    (∀ n ∈ Json.integersOfItems items, Short n) → ∀ item ∈ ofItems items, AllShort item
  | [], _ => by simp [ofItems]
  | item :: rest, short => by
      rw [Json.integersOfItems, List.forall_mem_append] at short
      have head := allShort_ofJson item short.1
      have tail := allShort_ofItems rest short.2
      rw [ofItems, List.forall_mem_cons]
      exact ⟨head, tail⟩
termination_by structural items => items

theorem allShort_ofMembers : (members : List (Text × Json)) →
    (∀ n ∈ Json.integersOfMembers members, Short n) →
    ∀ entry ∈ ofMembers members, AllShort entry.1 ∧ AllShort entry.2
  | [], _ => by simp [ofMembers]
  | (name, value) :: rest, short => by
      rw [Json.integersOfMembers, List.forall_mem_append] at short
      have head := allShort_ofJson value short.1
      have tail := allShort_ofMembers rest short.2
      rw [ofMembers, List.forall_mem_cons]
      exact ⟨⟨.str name, head⟩, tail⟩
termination_by structural members => members

end

end Value

end TreeReport
