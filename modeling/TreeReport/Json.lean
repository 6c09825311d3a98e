import TreeReport.Binary64.Shortest
import TreeReport.Decimal
import TreeReport.Text.Class
import TreeReport.Text.Quoted

/-! Documents and their compact text: no blanks, members in order, and within
text only quotes, backslashes and controls escaped. Integers and floating point
numbers stay apart, as `1` and `1.0`. -/
namespace TreeReport

inductive Json where
  | null
  | bool (b : Bool)
  | int (n : Int)
  | float (x : Binary64)
  | str (text : Text)
  | array (items : List Json)
  | object (members : List (Text × Json))
  deriving Inhabited, Repr

namespace Json

def insertMember (name : Text) (value : Json) : List (Text × Json) → List (Text × Json)
  | [] => [(name, value)]
  | (other, old) :: rest =>
      if other = name then (other, value) :: rest
      else (other, old) :: insertMember name value rest

def collectMembers (members : List (Text × Json)) : List (Text × Json) :=
  members.foldl (fun kept member => insertMember member.1 member.2 kept) []

def escapedSymbol (symbol : Symbol) : Text :=
  if symbol = .char '"' ∨ symbol = Text.backslash then [Text.backslash, symbol]
  else if symbol = .char '\n' then [Text.backslash, .char 'n']
  else if symbol = .char '\r' then [Text.backslash, .char 'r']
  else if symbol = .char '\t' then [Text.backslash, .char 't']
  else if symbol = .char '\x08' then [Text.backslash, .char 'b']
  else if symbol = .char '\x0c' then [Text.backslash, .char 'f']
  else if symbol.code < 0x20 then Text.backslash :: .char 'u' :: Text.hex 4 symbol.code
  else [symbol]

def quotedText (text : Text) : Text :=
  .char '"' :: text.flatMap escapedSymbol ++ [.char '"']

def floatText : Binary64 → Text
  | .nan => "NaN"
  | .infinite negative => if negative then "-Infinity" else "Infinity"
  | .finite negative exponent fraction => Binary64.text (.finite negative exponent fraction)

def commas (items : List Text) : Text := Text.joinWith "," items

mutual

def compact : Json → Text
  | .null => "null"
  | .bool b => if b then "true" else "false"
  | .int n => Decimal.integer n
  | .float x => floatText x
  | .str text => quotedText text
  | .array items => .char '[' :: commas (compactItems items) ++ [.char ']']
  | .object members => .char '{' :: commas (compactMembers members) ++ [.char '}']
termination_by structural document => document

def compactItems : List Json → List Text
  | [] => []
  | item :: rest => compact item :: compactItems rest
termination_by structural items => items

def compactMembers : List (Text × Json) → List Text
  | [] => []
  | (name, value) :: rest =>
      (quotedText name ++ .char ':' :: compact value) :: compactMembers rest
termination_by structural members => members

end

mutual

def integers : Json → List Int
  | .int n => [n]
  | .array items => integersOfItems items
  | .object members => integersOfMembers members
  | _ => []
termination_by structural document => document

def integersOfItems : List Json → List Int
  | [] => []
  | item :: rest => integers item ++ integersOfItems rest
termination_by structural items => items

def integersOfMembers : List (Text × Json) → List Int
  | [] => []
  | (_, value) :: rest => integers value ++ integersOfMembers rest
termination_by structural members => members

end

end Json

end TreeReport
