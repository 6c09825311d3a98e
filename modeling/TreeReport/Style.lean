import TreeReport.Decimal

/-! Terminal styling. Each role has a code that opens its style and one that
ends it; bold and dim share the latter, as do the two colours. Stripping removes
every complete sequence of escape, bracket, parameters and `m`. -/
namespace TreeReport.Style

inductive Role where
  | nodeType
  | punctuation
  | count
  | literal
  deriving DecidableEq, Repr

def Role.ofName? (name : Text) : Option Role :=
  if name = ("type" : Text) then some .nodeType
  else if name = ("punctuation" : Text) then some .punctuation
  else if name = ("count" : Text) then some .count
  else if name = ("literal" : Text) then some .literal
  else none

def Role.openingCode : Role → Nat
  | .nodeType => 1
  | .punctuation => 2
  | .count => 33
  | .literal => 32

def Role.closingCode : Role → Nat
  | .nodeType => 22
  | .punctuation => 22
  | .count => 39
  | .literal => 39

abbrev escape : Symbol := .char '\x1b'

def sequenceOf (code : Nat) : Text :=
  escape :: .char '[' :: Decimal.natural code ++ [.char 'm']

def paint (role : Role) (enabled : Bool) (text : Text) : Text :=
  if enabled && !text.isEmpty then
    sequenceOf role.openingCode ++ text ++ sequenceOf role.closingCode
  else text

def paintNamed (name : Text) (enabled : Bool) (text : Text) : Except Text Text :=
  if enabled && !text.isEmpty then
    match Role.ofName? name with
    | some role => .ok (paint role enabled text)
    | none => .error name
  else .ok text

def isParameter (symbol : Symbol) : Bool :=
  (0x30 ≤ symbol.code && symbol.code < 0x3A) || symbol = .char ';'

/-- How far a possible sequence has come; its parameters are kept in reverse. -/
inductive Scan where
  | outside
  | afterEscape
  | inside (parameters : Text)
  deriving DecidableEq, Repr

def Scan.held : Scan → Text
  | .outside => []
  | .afterEscape => [escape]
  | .inside parameters => escape :: .char '[' :: parameters.reverse

/-- A symbol that cannot continue what is held releases it, and may itself begin
a sequence. -/
def stripFrom : Scan → Text → Text
  | scan, [] => scan.held
  | scan, symbol :: rest =>
      if symbol = escape then scan.held ++ stripFrom .afterEscape rest
      else match scan with
        | .outside => symbol :: stripFrom .outside rest
        | .afterEscape =>
            if symbol = .char '[' then stripFrom (.inside []) rest
            else escape :: symbol :: stripFrom .outside rest
        | .inside parameters =>
            if isParameter symbol then stripFrom (.inside (symbol :: parameters)) rest
            else if symbol = .char 'm' then stripFrom .outside rest
            else scan.held ++ symbol :: stripFrom .outside rest

def strip (text : Text) : Text := stripFrom .outside text

end TreeReport.Style
