import TreeReport.Proofs.Documents
import TreeReport.Proofs.FloatText
import TreeReport.Proofs.TextLiterals

/-!
Compact text ends by itself. Its first symbol tells what kind of document it is,
and no numeral, text, array or object begins another of its kind. So two writable
documents are equal when their texts are, whatever stands behind them, as long
as no numeral goes on there.
-/
namespace TreeReport.Json

inductive Kind where
  | null
  | true
  | false
  | number
  | text
  | array
  | object
  deriving DecidableEq

def kind : Json → Kind
  | .null => .null
  | .bool true => .true
  | .bool false => .false
  | .int _ | .float _ => .number
  | .str _ => .text
  | .array _ => .array
  | .object _ => .object

def kindOf? (symbol : Symbol) : Option Kind :=
  if Text.isAsciiDigit symbol || symbol = .char '-' then some .number
  else if symbol = .char '"' then some .text
  else if symbol = .char '[' then some .array
  else if symbol = .char '{' then some .object
  else if symbol = .char 'n' then some .null
  else if symbol = .char 't' then some .true
  else if symbol = .char 'f' then some .false
  else none

section Numbers

inductive Spells : Numeral → Json → Prop where
  | int (n : Int) : Spells (integerNumeral n) (.int n)
  | float {numeral : Numeral} {x : Binary64} (whole : IsWhole numeral.whole)
      (fraction : AllDigits numeral.fraction)
      (written : numeral.fraction ≠ [] ∨ numeral.exponent ≠ none)
      (value : numeral.value = .ok (.float x)) : Spells numeral (.float x)

theorem Spells.whole {numeral : Numeral} {document : Json} (spells : Spells numeral document) :
    IsWhole numeral.whole := by
  cases spells with
  | int n => exact isWhole_natural _
  | float whole fraction written value => exact whole

theorem Spells.fraction {numeral : Numeral} {document : Json} (spells : Spells numeral document) :
    AllDigits numeral.fraction := by
  cases spells with
  | int n => simp [integerNumeral, AllDigits]
  | float whole fraction written value => exact fraction

theorem Spells.unique {numeral : Numeral} {first second : Json} (one : Spells numeral first)
    (two : Spells numeral second) : first = second := by
  cases one with
  | int m =>
      generalize shape : integerNumeral m = numeral at two
      cases two with
      | int n =>
          have signs : m < 0 ↔ n < 0 := by
            simpa [integerNumeral] using congrArg Numeral.negative shape
          have sizes : m.natAbs = n.natAbs :=
            Decimal.natural_injective (congrArg Numeral.whole shape)
          congr 1
          omega
      | float whole fraction written value => simp [← shape, integerNumeral] at written
  | float whole fraction written value =>
      cases two with
      | int n => simp [integerNumeral] at written
      | float _ _ _ other =>
          rw [value] at other
          exact Except.ok.inj other

theorem number_spelled {document : Json} (writable : Writable document)
    (number : document.kind = .number) :
    ∃ numeral : Numeral, numeral.spelled = document.compact ∧ Spells numeral document := by
  cases writable with
  | null => contradiction
  | bool b => cases b <;> contradiction
  | int n => exact ⟨integerNumeral n, (integer_spelled n).symm, .int n⟩
  | @float x finite =>
      obtain ⟨numeral, spelled, whole, fraction, written, value⟩ := Binary64.text_spelled finite
      refine ⟨numeral, ?_, .float whole fraction written value⟩
      rw [spelled, compact]
      cases x with
      | nan => contradiction
      | infinite negative => contradiction
      | finite negative exponent fraction => rfl
  | str text => contradiction
  | array all => contradiction
  | object all => contradiction

theorem spelled_head {numeral : Numeral} (whole : IsWhole numeral.whole) :
    ∃ digit more, Text.isAsciiDigit digit = true ∧
      (numeral.spelled = digit :: more ∨ numeral.spelled = .char '-' :: digit :: more) := by
  have head : ∃ digit more, Text.isAsciiDigit digit = true ∧ numeral.whole = digit :: more := by
    obtain ⟨all, zero | ⟨first, more, shape, -⟩⟩ := whole
    · exact ⟨_, _, rfl, zero⟩
    · exact ⟨first, more, all first (by simp [shape]), shape⟩
  obtain ⟨digit, more, digital, shape⟩ := head
  refine ⟨digit, more ++
    ((if numeral.fraction.isEmpty then [] else .char '.' :: numeral.fraction) ++
      exponentPart numeral.exponent), digital, ?_⟩
  cases sign : numeral.negative with
  | true => exact Or.inr (by simp [Numeral.spelled, sign, shape])
  | false => exact Or.inl (by simp [Numeral.spelled, sign, shape])

end Numbers

section Head

theorem compact_head {document : Json} (writable : Writable document) :
    ∃ symbol more, document.compact = symbol :: more ∧ kindOf? symbol = some document.kind := by
  by_cases number : document.kind = .number
  · obtain ⟨numeral, spelled, spells⟩ := number_spelled writable number
    obtain ⟨digit, more, digital, plain | signed⟩ := spelled_head spells.whole
    · exact ⟨digit, more, by rw [← spelled, plain], by simp [kindOf?, digital, number]⟩
    · exact ⟨.char '-', digit :: more, by rw [← spelled, signed], by simp [kindOf?, number]⟩
  · cases document with
    | null => exact ⟨_, _, rfl, rfl⟩
    | bool b => cases b <;> exact ⟨_, _, rfl, rfl⟩
    | int n => exact absurd rfl number
    | float x => exact absurd rfl number
    | str text => exact ⟨_, _, rfl, rfl⟩
    | array items => exact ⟨_, _, rfl, rfl⟩
    | object members => exact ⟨_, _, rfl, rfl⟩

theorem commas_cons (first : Text) (others : List Text) (rest : Text) :
    commas (first :: others) ++ rest =
      first ++ (if others = [] then rest else .char ',' :: (commas others ++ rest)) := by
  cases others with
  | nil => rfl
  | cons second more =>
      rw [commas, Text.joinWith_cons _ _ (by simp), List.append_assoc, List.append_assoc]
      rfl

theorem compactItems_map (items : List Json) : compactItems items = items.map compact := by
  induction items with
  | nil => rfl
  | cons item rest ih => rw [compactItems, ih, List.map_cons]

def memberText (member : Text × Json) : Text := quotedText member.1 ++ .char ':' :: compact member.2

theorem compactMembers_map (members : List (Text × Json)) :
    compactMembers members = members.map memberText := by
  induction members with
  | nil => rfl
  | cons member rest ih =>
      obtain ⟨name, value⟩ := member
      rw [compactMembers, ih, List.map_cons, memberText]

theorem compact_array (items : List Json) (rest : Text) :
    (array items).compact ++ rest =
      .char '[' :: (commas (items.map compact) ++ .char ']' :: rest) := by
  rw [compact, compactItems_map]
  simp

theorem compact_object (members : List (Text × Json)) (rest : Text) :
    (object members).compact ++ rest =
      .char '\x7b' :: (commas (members.map memberText) ++ .char '\x7d' :: rest) := by
  rw [compact, compactMembers_map]
  simp

theorem memberText_append (member : Text × Json) (rest : Text) :
    memberText member ++ rest =
      quotedText member.1 ++ .char ':' :: (member.2.compact ++ rest) := by
  simp [memberText]

end Head

section Cut

/-- The text of a part ends by itself, wherever no numeral can go on. -/
def Cuts {α : Type} (shown : α → Text) (allowed : α → Prop) (part : α) : Prop :=
  ∀ other, allowed other → ∀ left right, Stops left → Stops right →
    shown part ++ left = shown other ++ right → part = other ∧ left = right

-- Between two parts stands a comma and behind the last the closing symbol, so a
-- list cannot be taken for a longer one.
theorem commas_cut {α : Type} {shown : α → Text} {allowed : α → Prop} {closing : Symbol}
    (stops : ∀ rest, Stops (closing :: rest)) (apart : closing ≠ .char ',')
    (opens : ∀ part, allowed part → ∀ rest more, shown part ++ rest ≠ closing :: more)
    {parts others : List α} (cuts : ∀ part ∈ parts, Cuts shown allowed part)
    (good : ∀ part ∈ parts, allowed part) (fine : ∀ other ∈ others, allowed other)
    {left right : Text}
    (same : commas (parts.map shown) ++ closing :: left =
      commas (others.map shown) ++ closing :: right) : parts = others ∧ left = right := by
  induction parts generalizing others with
  | nil =>
      cases others with
      | nil =>
          have ends : closing :: left = closing :: right := same
          exact ⟨rfl, (List.cons.inj ends).2⟩
      | cons other more =>
          rw [List.map_cons, commas_cons] at same
          exact absurd same.symm (opens other (fine other (by simp)) _ _)
  | cons part rest ih =>
      cases others with
      | nil =>
          rw [List.map_cons, commas_cons] at same
          exact absurd same (opens part (good part (by simp)) _ _)
      | cons other more =>
          have behind : ∀ (texts : List Text) rest, Stops (if texts = [] then closing :: rest
              else .char ',' :: (commas texts ++ closing :: rest)) := by
            intro texts rest
            split
            · exact stops _
            · exact stops_comma _
          rw [List.map_cons, List.map_cons, commas_cons, commas_cons] at same
          obtain ⟨head, tail⟩ := cuts part (by simp) other (fine other (by simp)) _ _
            (behind _ _) (behind _ _) same
          have last : rest = [] ↔ more = [] := by
            constructor
            · rintro rfl
              by_contra some
              simp [some, apart] at tail
            · rintro rfl
              by_contra some
              simp [some, Ne.symm apart] at tail
          have lists : rest = more ∧ left = right := by
            by_cases none : rest = []
            · have ends : closing :: left = closing :: right := by
                simpa [none, last.mp none] using tail
              exact ⟨none.trans (last.mp none).symm, (List.cons.inj ends).2⟩
            · have further : more ≠ [] := fun empty => none (last.mpr empty)
              apply ih (fun part inside => cuts part (List.mem_cons_of_mem _ inside))
                (fun part inside => good part (List.mem_cons_of_mem _ inside))
                (fun other inside => fine other (List.mem_cons_of_mem _ inside))
              simpa [none, further] using tail
          exact ⟨by rw [head, lists.1], lists.2⟩

theorem kind_of_same {first second : Json} (one : Writable first) (two : Writable second)
    {left right : Text}
    (same : first.compact ++ left = second.compact ++ right) : first.kind = second.kind := by
  obtain ⟨symbol, more, shape, kind⟩ := compact_head one
  obtain ⟨other, rest, otherShape, otherKind⟩ := compact_head two
  rw [shape, otherShape] at same
  have symbols : symbol = other := (List.cons.inj same).1
  rw [symbols, otherKind] at kind
  exact (Option.some.inj kind).symm

-- Both numerals are split off the same text, so they are the same numeral.
theorem number_cut {document : Json} (writable : Writable document)
    (number : document.kind = .number) : Cuts compact Writable document := by
  intro other fine left right stopLeft stopRight same
  have kinds := kind_of_same writable fine same
  obtain ⟨numeral, spelled, spells⟩ := number_spelled writable number
  obtain ⟨second, otherSpelled, otherSpells⟩ := number_spelled fine (kinds ▸ number)
  have one := numeral_spelled spells.whole spells.fraction stopLeft
  have two := numeral_spelled otherSpells.whole otherSpells.fraction stopRight
  rw [spelled, same, ← otherSpelled, two] at one
  cases one
  exact ⟨spells.unique otherSpells, rfl⟩

theorem opens_nothing_else {symbol : Symbol} (none : kindOf? symbol = none)
    {document : Json} (writable : Writable document) (rest more : Text) :
    document.compact ++ rest ≠ symbol :: more := by
  obtain ⟨first, tail, shape, kind⟩ := compact_head writable
  rw [shape]
  intro same
  rw [(List.cons.inj same).1, none] at kind
  contradiction

theorem member_cut {member : Text × Json} (cuts : Cuts compact Writable member.2) :
    Cuts memberText (fun member => Writable member.2) member := by
  intro other fine left right stopLeft stopRight same
  rw [memberText_append, memberText_append] at same
  obtain ⟨names, values⟩ := quotedText_cut same
  obtain ⟨value, rests⟩ := cuts other.2 fine left right stopLeft stopRight (List.cons.inj values).2
  exact ⟨Prod.ext names value, rests⟩

/-- Compact text determines the document and where its text ends. -/
theorem writable_cut {document : Json} (writable : Writable document) :
    Cuts compact Writable document := by
  -- The first symbol gives the kind; the parts inside are cut by induction.
  induction writable with
  | int n => exact number_cut (.int n) rfl
  | float finite => exact number_cut (.float finite) rfl
  | null =>
      intro other fine left right stopLeft stopRight same
      have kinds := kind_of_same .null fine same
      cases fine with
      | null => exact ⟨rfl, List.append_cancel_left same⟩
      | bool b => cases b <;> contradiction
      | _ => contradiction
  | bool b =>
      intro other fine left right stopLeft stopRight same
      have kinds := kind_of_same (.bool b) fine same
      cases fine with
      | bool c =>
          have values : b = c := by cases b <;> cases c <;> first | rfl | contradiction
          subst values
          exact ⟨rfl, List.append_cancel_left same⟩
      | _ => cases b <;> contradiction
  | str text =>
      intro other fine left right stopLeft stopRight same
      have kinds := kind_of_same (.str text) fine same
      cases fine with
      | str second =>
          obtain ⟨texts, rests⟩ := quotedText_cut same
          exact ⟨by rw [texts], rests⟩
      | bool b => cases b <;> contradiction
      | _ => contradiction
  | array all ih =>
      intro other fine left right stopLeft stopRight same
      have kinds := kind_of_same (.array all) fine same
      cases fine with
      | array others =>
          rw [compact_array, compact_array] at same
          obtain ⟨lists, rests⟩ := commas_cut stops_bracket (by decide)
            (fun item good => opens_nothing_else rfl good) ih all others (List.cons.inj same).2
          exact ⟨by rw [lists], rests⟩
      | bool b => cases b <;> contradiction
      | _ => contradiction
  | object all ih =>
      intro other fine left right stopLeft stopRight same
      have kinds := kind_of_same (.object all) fine same
      cases fine with
      | object others =>
          rw [compact_object, compact_object] at same
          obtain ⟨lists, rests⟩ := commas_cut stops_brace (by decide)
            (fun member good rest more => by simp [memberText, quotedText])
            (fun member inside => member_cut (ih member inside)) all others (List.cons.inj same).2
          exact ⟨by rw [lists], rests⟩
      | bool b => cases b <;> contradiction
      | _ => contradiction

theorem compact_cut {accepted : Int → Prop} {document : Json} (proper : Proper accepted document) :
    Cuts compact (Proper accepted) document :=
  fun other fine => writable_cut proper.writable other fine.writable

end Cut

end TreeReport.Json
