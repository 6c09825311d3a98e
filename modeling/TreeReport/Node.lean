import TreeReport.Value.Equality

/-! Nodes: mappings with a text under `type`. The entries for type, value,
children and position are the node's own; an element also names its tag, and
all other entries are its attributes. -/
namespace TreeReport.Node

def typeText? (entries : Entries) : Option Text :=
  match entries.get? "type" with
  | some (.str text) => some text
  | _ => none

def isNode : Value → Bool
  | .mapping _ entries => (typeText? entries).isSome
  | _ => false

inductive Shape where
  | scalar
  | void
  | literal
  | parent
  deriving DecidableEq, Repr

def Shape.name : Shape → Text
  | .scalar => "scalar"
  | .void => "void"
  | .literal => "literal"
  | .parent => "parent"

def children? (entries : Entries) : Option (List Value) :=
  match entries.get? "children" with
  | some (.sequence _ items) => some items
  | _ => none

def payload? (entries : Entries) : Option Text :=
  match entries.get? "value" with
  | some (.str text) => some text
  | _ => none

/-- Children win over a payload. -/
def classify : Value → Shape
  | .mapping form entries =>
      if isNode (.mapping form entries) then
        if (children? entries).isSome then .parent
        else if (payload? entries).isSome then .literal
        else .void
      else .scalar
  | _ => .scalar

def tagKeys : List Text := ["tagName", "name"]

def firstText? (entries : Entries) : List Text → Option (Text × Text)
  | [] => none
  | key :: rest =>
      match entries.get? key with
      | some (.str text) => some (key, text)
      | _ => firstText? entries rest

def elementName? (entries : Entries) : Option (Text × Text) :=
  if typeText? entries = some ("element" : Text) then firstText? entries tagKeys else none

def reservedKeys : List Text := ["type", "value", "children", "position"]

def isReserved (key : Value) : Bool := reservedKeys.any fun reserved => key.isText reserved

/-- The key under which the tag stands. Without a tag this is null, so an entry
under the null key then counts as the tag's and is not an attribute. -/
def tagKey (entries : Entries) : Value :=
  match elementName? entries with
  | some (key, _) => .str key
  | none => .null

def isAttributeKey (tagKey key : Value) : Bool := !isReserved key && !key.same tagKey

def attributes (entries : Entries) : Entries :=
  entries.filter fun entry => isAttributeKey (tagKey entries) entry.1

end TreeReport.Node
