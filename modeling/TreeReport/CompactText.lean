import TreeReport.Json
import TreeReport.Value.Display

/-! Any value as compact text. Its normal form is a document: sequences become
arrays, sets arrays in the order of their literal texts, keys their plain text,
numbers that are not finite null, and everything else its plain text. Encoding fails
when it has to spell out an integer that is too long to be written. -/
namespace TreeReport

def insertByKey (item : Text × α) : List (Text × α) → List (Text × α)
  | [] => [item]
  | other :: rest =>
      if Text.precedes item.1 other.1 then item :: other :: rest
      else other :: insertByKey item rest

def sortByKey (items : List (Text × α)) : List (Text × α) := items.foldr insertByKey []

namespace Value

mutual

def normal : Value → Json
  | .null => .null
  | .bool b => .bool b
  | .int n => .int n
  | .float x => if x.isFinite then .float x else .null
  | .str text => .str text
  | .bytes content => .str (Text.quotedBytes content)
  | .sequence _ items => .array (normalItems items)
  | .set _ items => .array ((sortByKey (keyedItems items)).map Prod.snd)
  | .mapping _ entries => .object (Json.collectMembers (namedMembers entries))
  | .object label => .str label
  | .options showPositions colors => .str (literal (.options showPositions colors))
termination_by structural value => value

def normalItems : List Value → List Json
  | [] => []
  | item :: rest => normal item :: normalItems rest
termination_by structural items => items

def keyedItems : List Value → List (Text × Json)
  | [] => []
  | item :: rest => (literal item, normal item) :: keyedItems rest
termination_by structural items => items

def namedMembers : List (Value × Value) → List (Text × Json)
  | [] => []
  | (key, value) :: rest => (plain key, normal value) :: namedMembers rest
termination_by structural entries => entries

end

def compactText (value : Value) : Text := (normal value).compact

mutual

/-- The integers that are spelled out on the way to the normal form: in the keys of
mappings, in the literal forms that set elements are sorted by, and in records of
options. An entry counts also when a later one takes its place. -/
def named : Value → List Int
  | .sequence _ items => namedItems items
  | .set _ items => spelledItems items ++ namedItems items
  | .mapping _ entries => namedEntries entries
  | .options showPositions colors => spelled (.options showPositions colors)
  | _ => []
termination_by structural value => value

def namedItems : List Value → List Int
  | [] => []
  | item :: rest => named item ++ namedItems rest
termination_by structural items => items

def namedEntries : List (Value × Value) → List Int
  | [] => []
  | (key, value) :: rest => spelled key ++ named value ++ namedEntries rest
termination_by structural entries => entries

end

/-- All integers that compact text spells out, on the way or in the end. -/
def written (value : Value) : List Int := named value ++ (normal value).integers

def encode (value : Value) : Except Decimal.Overflow Text :=
  Decimal.write value.written value.compactText

end Value

end TreeReport
