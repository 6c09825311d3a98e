import TreeReport.CompactText
import TreeReport.Node
import TreeReport.SourceRange
import TreeReport.Style

/-! The report of a value, as lines. A node is a header, its attributes and its
children; siblings hang on connectors with indices of one width; all else is one
line of compact text. Only connectors, margins and header parts are styled, and
no width depends on the style. -/
namespace TreeReport.Report

structure Display where
  positions : Bool
  colors : Bool
  deriving DecidableEq, Repr

section Header

def tagPart (display : Display) (entries : Entries) : Text :=
  match Node.elementName? entries with
  | some (_, name) =>
      Style.paint .punctuation display.colors "<" ++ name ++
        Style.paint .punctuation display.colors ">"
  | none => []

def countPart (display : Display) (count : Nat) : Text :=
  Style.paint .punctuation display.colors "[" ++
    Style.paint .count display.colors (Decimal.natural count) ++
    Style.paint .punctuation display.colors "]"

def contentPart (display : Display) (entries : Entries) : Text :=
  match Node.children? entries, Node.payload? entries with
  | some items, _ => countPart display items.length
  | none, some payload =>
      .char ' ' :: Style.paint .literal display.colors (Value.compactText (.str payload))
  | none, none => []

def rangePart (display : Display) (entries : Entries) : Text :=
  if display.positions then
    let range := SourceRange.text ((entries.get? "position").getD .null)
    if range.isEmpty then []
    else .char ' ' :: Style.paint .punctuation display.colors "(" ++ range ++
      Style.paint .punctuation display.colors ")"
  else []

def header (display : Display) (typeText : Text) (entries : Entries) : Text :=
  Style.paint .nodeType display.colors typeText ++ tagPart display entries ++
    contentPart display entries ++ rangePart display entries

end Header

section Layout

def indexWidth (total : Nat) : Nat := (Decimal.natural (total - 1)).length

def connector (display : Display) (total index : Nat) : Text :=
  let glyph : Symbol := if index + 1 = total then .char '└' else .char '├'
  Style.paint .punctuation display.colors
    (glyph :: .char '─' :: Text.padRight (indexWidth total) (Decimal.natural index)) ++
    [.char ' ']

def bar (display : Display) : Text := Style.paint .punctuation display.colors [.char '│']

def continuation (display : Display) (total index : Nat) : Text :=
  (if index + 1 = total then [.char ' '] else bar display) ++ Text.spaces (indexWidth total + 2)

def hang (first further : Text) : List Text → List Text
  | [] => []
  | line :: rest => (first ++ line) :: rest.map (further ++ ·)

/-- Continues a text with lines; the text may itself hold newlines. -/
def continueWith (lead : Text) : List Text → List Text
  | [] => Text.lines lead
  | line :: rest => Text.lines (lead ++ line) ++ rest

def hasChildren (entries : Entries) : Bool :=
  match Node.children? entries with
  | some (_ :: _) => true
  | _ => false

def margin (display : Display) (entries : Entries) : Text :=
  if hasChildren entries then bar display ++ [.char ' '] else Text.spaces 2

end Layout

section Attribute

def opaqueKeys : List Text := ["data", "properties", "attributes"]

/-- How an attribute is shown: as a node below its key, as a listing of nodes,
or as compact text. -/
inductive Expansion where
  | node
  | listing
  | text
  deriving DecidableEq, Repr

def expansion (key : Text) : Value → Expansion
  | .mapping form entries =>
      if Node.isNode (.mapping form entries) && !opaqueKeys.contains key then .node else .text
  | .sequence _ items =>
      if !items.isEmpty && items.all Node.isNode then .listing else .text
  | _ => .text

end Attribute

mutual

def valueLines (display : Display) : Value → List Text
  | .sequence _ [] => [[]]
  | .sequence _ items => siblingLines display items.length 0 items
  | .mapping form entries =>
      match Node.typeText? entries with
      | some typeText =>
          Text.lines (header display typeText entries) ++
            (attributeLines display (Node.tagKey entries) entries).map
              (margin display entries ++ ·) ++
            childLines display entries
      | none => [Value.compactText (.mapping form entries)]
  | value => [Value.compactText value]
termination_by structural value => value

def siblingLines (display : Display) (total index : Nat) : List Value → List Text
  | [] => []
  | item :: rest =>
      hang (connector display total index) (continuation display total index)
          (valueLines display item) ++
        siblingLines display total (index + 1) rest
termination_by structural items => items

def attributeLines (display : Display) (tagKey : Value) : List (Value × Value) → List Text
  | [] => []
  | (key, value) :: rest =>
      (if Node.isAttributeKey tagKey key then
        let name := key.plain
        match expansion name value with
        | .node => continueWith (name ++ (": " : Text)) (valueLines display value)
        | .listing => Text.lines (name ++ (":" : Text)) ++ valueLines display value
        | .text => Text.lines (name ++ (": " : Text) ++ value.compactText)
      else []) ++ attributeLines display tagKey rest
termination_by structural entries => entries

def childLines (display : Display) : List (Value × Value) → List Text
  | [] => []
  | (key, value) :: rest =>
      if key.isText "children" then
        (if value.isSequence && value.truth then valueLines display value else [])
      else childLines display rest
termination_by structural entries => entries

end

def text (display : Display) (value : Value) : Text :=
  Text.joinLines (valueLines display value)

section Integers

def rangeWritten (positions : Bool) (entries : Entries) : List Int :=
  if positions then SourceRange.written ((entries.get? "position").getD .null) else []

mutual

/-- The integers that a report spells out. No colour changes any of them. -/
def written (positions : Bool) : Value → List Int
  | .sequence _ items => writtenItems positions items
  | .mapping form entries =>
      match Node.typeText? entries with
      | some _ =>
          rangeWritten positions entries ++
            writtenAttributes positions (Node.tagKey entries) entries ++
            writtenChildren positions entries
      | none => Value.written (.mapping form entries)
  | value => Value.written value
termination_by structural value => value

def writtenItems (positions : Bool) : List Value → List Int
  | [] => []
  | item :: rest => written positions item ++ writtenItems positions rest
termination_by structural items => items

def writtenAttributes (positions : Bool) (tagKey : Value) : List (Value × Value) → List Int
  | [] => []
  | (key, value) :: rest =>
      (if Node.isAttributeKey tagKey key then
        key.spelled ++ match expansion key.plain value with
          | .node => written positions value
          | .listing => written positions value
          | .text => Value.written value
      else []) ++ writtenAttributes positions tagKey rest
termination_by structural entries => entries

def writtenChildren (positions : Bool) : List (Value × Value) → List Int
  | [] => []
  | (key, value) :: rest =>
      if key.isText "children" then
        (if value.isSequence && value.truth then written positions value else [])
      else writtenChildren positions rest
termination_by structural entries => entries

end

end Integers

/-- The report, unless an integer in it is too long to be written. -/
def render (display : Display) (value : Value) : Except Decimal.Overflow Text :=
  Decimal.write (written display.positions value) (text display value)

end TreeReport.Report
