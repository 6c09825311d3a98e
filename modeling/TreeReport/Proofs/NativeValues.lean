import TreeReport.CommandLine.Run
import TreeReport.Proofs.CompactReading
import TreeReport.Proofs.ContainerForms
import TreeReport.Proofs.EncodableReports

/-!
Native values, what a document can hold in either form of container. The bytes of the
compact text of such a value, taken as a source, give the value back with lists and
dictionaries for its containers.
-/
namespace TreeReport

namespace Value

/-- Finite numbers, integers that are not too long to be read, texts and keys that
have an encoding. -/
inductive Native : Value → Prop where
  | null : Native .null
  | bool (b : Bool) : Native (.bool b)
  | int {n : Int} (short : Decimal.Short n) : Native (.int n)
  | float {x : Binary64} (finite : x.isFinite = true) : Native (.float x)
  | str {text : Text} (encodable : text.Encodable) : Native (.str text)
  | sequence (form : SequenceForm) {items : List Value} (all : ∀ item ∈ items, Native item) :
      Native (.sequence form items)
  | mapping (form : MappingForm) {entries : Entries} (keys : TextKeys entries)
      (names : ∀ entry ∈ entries, entry.1.plain.Encodable)
      (all : ∀ entry ∈ entries, Native entry.2) : Native (.mapping form entries)

namespace Native

variable {value : Value}

theorem integers (native : value.Native) : Integers Decimal.Short value := by
  induction native with
  | null => exact .null
  | bool b => exact .bool b
  | int short => exact .int short
  | float finite => exact .float _
  | str encodable => exact .str _
  | sequence form all ih => exact .sequence form ih
  | mapping form keys names all ih =>
      refine .mapping form (fun entry inside => ?_) ih
      rw [← keys.str_plain inside]
      exact .str _

theorem encodable (native : value.Native) : value.Encodable := by
  induction native with
  | null => exact .null
  | bool b => exact .bool b
  | int short => exact .int _
  | float finite => exact .float _
  | str encodable => exact .str encodable
  | sequence form all ih => exact .sequence form ih
  | mapping form keys names all ih => exact .mapping form names ih

theorem ofJson_normal (native : value.Native) : ofJson value.normal = value.uniform := by
  induction native with
  | null => rfl
  | bool b => rfl
  | int short => rfl
  | float finite => simp [normal, finite, ofJson, uniform]
  | str encodable => rfl
  | sequence form all ih =>
      rw [normal, normalItems_map, ofJson, ofItems_map, List.map_map, uniform, uniformItems_map]
      congr 1
      exact List.map_congr_left ih
  | mapping form keys names all ih =>
      rw [ofJson_normal_mapping keys, uniform, uniformEntries_map, withValues, withValues]
      congr 1
      refine List.map_congr_left fun entry inside => ?_
      rw [ih entry inside]

theorem read_compactText (native : value.Native) : Json.read value.compactText = .ok value.normal :=
  Json.read_compact (normal_proper native.integers)

end Native

/-- No control, so no carriage return either, stands in compact text. -/
theorem universalNewlines_compactText (value : Value) :
    Utf8.universalNewlines value.compactText = value.compactText :=
  Utf8.universalNewlines_of_free fun member =>
    absurd (value.compactText_visible _ member) (by decide)

end Value

namespace CommandLine

theorem treeOf_compactText {value : Value} (native : value.Native) (source : Text) :
    treeOf source (Utf8.encode value.compactText) = .ok value.uniform := by
  have decoded := Utf8.decode_encode (Value.encodable_compactText native.encodable)
  simp only [treeOf, decoded, value.universalNewlines_compactText, native.read_compactText,
    native.ofJson_normal]

end CommandLine

end TreeReport
