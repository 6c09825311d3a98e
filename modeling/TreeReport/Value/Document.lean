import TreeReport.Json
import TreeReport.Value

/-! Documents as values: arrays are lists, objects are dictionaries with text keys. -/
namespace TreeReport.Value

mutual

def ofJson : Json → Value
  | .null => .null
  | .bool b => .bool b
  | .int n => .int n
  | .float x => .float x
  | .str text => .str text
  | .array items => .sequence .list (ofItems items)
  | .object members => .mapping .dictionary (ofMembers members)
termination_by structural document => document

def ofItems : List Json → List Value
  | [] => []
  | item :: rest => ofJson item :: ofItems rest
termination_by structural items => items

def ofMembers : List (Text × Json) → List (Value × Value)
  | [] => []
  | (name, value) :: rest => (.str name, ofJson value) :: ofMembers rest
termination_by structural members => members

end

end TreeReport.Value
