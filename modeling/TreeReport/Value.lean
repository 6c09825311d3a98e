import TreeReport.Binary64
import TreeReport.Text

/-! The values a tree is built from. Sequences, sets and mappings keep their
elements in order of insertion, and each comes in two forms that only its name
and its own text tell apart. -/
namespace TreeReport

inductive SequenceForm where
  | list
  | tuple
  deriving DecidableEq, Repr

inductive SetForm where
  | growing
  | frozen
  deriving DecidableEq, Repr

inductive MappingForm where
  | dictionary
  | view
  deriving DecidableEq, Repr

/-- `object` is an opaque thing known by its label alone; `options` is a record
of render options whose fields have not been checked. -/
inductive Value where
  | null
  | bool (b : Bool)
  | int (n : Int)
  | float (x : Binary64)
  | str (text : Text)
  | bytes (content : List UInt8)
  | sequence (form : SequenceForm) (items : List Value)
  | set (form : SetForm) (items : List Value)
  | mapping (form : MappingForm) (entries : List (Value × Value))
  | object (label : Text)
  | options (showPositions colors : Value)
  deriving Inhabited, Repr

abbrev Entries := List (Value × Value)

namespace Value

def typeName : Value → Text
  | .null => "NoneType"
  | .bool _ => "bool"
  | .int _ => "int"
  | .float _ => "float"
  | .str _ => "str"
  | .bytes _ => "bytes"
  | .sequence .list _ => "list"
  | .sequence .tuple _ => "tuple"
  | .set .growing _ => "set"
  | .set .frozen _ => "frozenset"
  | .mapping .dictionary _ => "dict"
  | .mapping .view _ => "mappingproxy"
  | .object _ => "Marker"
  | .options _ _ => "InspectOptions"

/-- Null, zeros and whatever is empty count as false, NaN does not. -/
def truth : Value → Bool
  | .null => false
  | .bool b => b
  | .int n => n != 0
  | .float x => !x.isZero
  | .str text => !text.isEmpty
  | .bytes content => !content.isEmpty
  | .sequence _ items => !items.isEmpty
  | .set _ items => !items.isEmpty
  | .mapping _ entries => !entries.isEmpty
  | .object _ => true
  | .options _ _ => true

def isText (key : Text) : Value → Bool
  | .str text => text == key
  | _ => false

theorem isText_iff {value : Value} {key : Text} : value.isText key = true ↔ value = .str key := by
  cases value <;> simp [isText]

def isNull : Value → Bool
  | .null => true
  | _ => false

def isSequence : Value → Bool
  | .sequence _ _ => true
  | _ => false

end Value

def Entries.get? (key : Text) : Entries → Option Value
  | [] => none
  | (name, value) :: rest => if name.isText key then some value else get? key rest

end TreeReport
