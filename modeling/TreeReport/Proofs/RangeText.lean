import TreeReport.Proofs.Numerals
import TreeReport.SourceRange

/-!
The text of a range can be read back. A hyphen is a sign and a separator, yet a numeral
ends where its digits end, so the text is spelled from one span of numbers only. Which
span that is follows from the fields of the two points, and equal texts mean equal spans.
A span with a number that is too long to be written has no text.
-/
namespace TreeReport.SourceRange

/-- Four coordinates, and the offsets of both points if they are given. -/
structure Span where
  line : Int
  column : Int
  lastLine : Int
  lastColumn : Int
  offsets : Option (Int × Int)
  deriving DecidableEq

section Meaning

/-- The whole number that is left of a number without its fraction: what is taken away is
less than one and does not change the sign. No other value is a number. -/
def Truncates : Value → Int → Prop
  | .int n, whole => whole = n
  | .float x, whole => ∃ units fraction : Int, x.units? = some units ∧
      units = whole * Binary64.unitsPerOne + fraction ∧ fraction.natAbs < Binary64.unitsPerOne ∧
      (0 ≤ units → 0 ≤ fraction) ∧ (units ≤ 0 → fraction ≤ 0)
  | _, _ => False

/-- The point is a mapping with a finite number in the field; `n` is its whole part. -/
def Carries (point : Option Value) (name : Text) (n : Int) : Prop :=
  ∃ form entries value, point = some (.mapping form entries) ∧
    Entries.get? name entries = some value ∧ Truncates value n

def fieldNames : List Text := ["line", "column", "offset"]

def HasField (point : Option Value) : Prop := ∃ name ∈ fieldNames, ∃ n, Carries point name n

/-- A line or a column: the field, or one where there is none but zero. -/
def IsCoordinate (point : Option Value) (name : Text) (n : Int) : Prop :=
  Carries point name n ∧ n ≠ 0 ∨ (∀ m, Carries point name m → m = 0) ∧ n = 1

/-- One of the two points has a field. -/
def Located (position : Value) : Prop :=
  ∃ form entries, position = .mapping form entries ∧
    (HasField (Entries.get? "start" entries) ∨ HasField (Entries.get? "end" entries))

structure Describes (first last : Option Value) (span : Span) : Prop where
  line : IsCoordinate first "line" span.line
  column : IsCoordinate first "column" span.column
  lastLine : IsCoordinate last "line" span.lastLine
  lastColumn : IsCoordinate last "column" span.lastColumn
  offsets : ∀ pair, span.offsets = some pair ↔
    Carries first "offset" pair.1 ∧ Carries last "offset" pair.2

/-- The position is a mapping whose two points give the span. -/
def Spans (position : Value) (span : Span) : Prop :=
  ∃ form entries, position = .mapping form entries ∧
    Describes (Entries.get? "start" entries) (Entries.get? "end" entries) span

end Meaning

section Fields

theorem unitsPerOne_positive : 0 < Binary64.unitsPerOne := by decide +kernel

theorem tdiv_eq_iff {units whole : Int} {one : Nat} (positive : 0 < one) :
    units.tdiv one = whole ↔ ∃ fraction : Int, units = whole * one + fraction ∧
      fraction.natAbs < one ∧ (0 ≤ units → 0 ≤ fraction) ∧ (units ≤ 0 → fraction ≤ 0) := by
  have nonzero : (one : Int) ≠ 0 := by omega
  constructor
  · intro quotient
    have split := Int.tmod_add_mul_tdiv units one
    have small : (units.tmod one).natAbs < one := by
      rw [Int.natAbs_tmod]
      exact Nat.mod_lt _ positive
    refine ⟨units.tmod one, ?_, ?_, ?_, ?_⟩
    · rw [← quotient, Int.mul_comm]
      omega
    · omega
    · exact fun above => Int.tmod_nonneg _ above
    · intro below
      have mirrored := Int.tmod_nonneg (a := -units) one (by omega)
      rw [Int.neg_tmod] at mirrored
      omega
  · rintro ⟨fraction, split, small, above, below⟩
    rw [Int.mul_comm] at split
    by_cases sign : 0 ≤ units
    · have bounds := above sign
      exact ((Int.tdiv_tmod_unique (r := fraction) sign nonzero).mpr (by omega)).1
    · have bounds := below (by omega)
      exact ((Int.tdiv_tmod_unique' (r := fraction) (by omega) nonzero).mpr (by omega)).1

theorem usable_iff {value : Value} {n : Int} : usable? value = some n ↔ Truncates value n := by
  cases value with
  | int m => simp [usable?, Truncates, eq_comm]
  | float x =>
      simp only [usable?, Truncates, Binary64.truncate?, Option.map_eq_some_iff,
        tdiv_eq_iff unitsPerOne_positive, exists_and_left]
  | _ => simp [usable?, Truncates]

theorem field_iff {point : Option Value} {name : Text} {n : Int} :
    field? point name = some n ↔ Carries point name n := by
  cases point with
  | none => simp [field?, Carries]
  | some held =>
      cases held with
      | mapping form entries => simp [field?, Carries, Option.bind_eq_some_iff, usable_iff]
      | _ => simp [field?, Carries]

theorem hasData_iff {point : Option Value} : hasData point = true ↔ HasField point := by
  simp [hasData, HasField, fieldNames, Option.isSome_iff_exists, field_iff, or_assoc]

theorem coordinate_iff {point : Option Value} {name : Text} {n : Int} :
    IsCoordinate point name n ↔ n = coordinate (field? point name) := by
  simp only [IsCoordinate, ← field_iff]
  cases field? point name with
  | none => simp [coordinate]
  | some m =>
      by_cases zero : m = 0
      · simp only [zero, coordinate, Option.some.injEq, ↓reduceIte]
        grind
      · simp only [zero, coordinate, Option.some.injEq, ↓reduceIte]
        grind

def spanOf (first last : Option Value) : Span where
  line := coordinate (field? first "line")
  column := coordinate (field? first "column")
  lastLine := coordinate (field? last "line")
  lastColumn := coordinate (field? last "column")
  offsets := (field? first "offset").bind fun a => (field? last "offset").map fun b => (a, b)

theorem describes_iff {first last : Option Value} {span : Span} :
    Describes first last span ↔ span = spanOf first last := by
  have pairs : ∀ offsets : Option (Int × Int), (∀ pair, offsets = some pair ↔
      Carries first "offset" pair.1 ∧ Carries last "offset" pair.2) ↔
        offsets = (spanOf first last).offsets := by
    intro offsets
    rw [Option.ext_iff]
    refine forall_congr' fun (a, b) => ?_
    have given : (spanOf first last).offsets = some (a, b) ↔
        field? first "offset" = some a ∧ field? last "offset" = some b := by
      simp [spanOf, Option.bind_eq_some_iff]
    rw [given, field_iff, field_iff]
  obtain ⟨line, column, lastLine, lastColumn, offsets⟩ := span
  constructor
  · rintro ⟨one, two, three, four, five⟩
    rw [coordinate_iff] at one two three four
    rw [pairs] at five
    simp only at one two three four five
    rw [one, two, three, four, five]
    rfl
  · intro same
    rw [same]
    exact ⟨coordinate_iff.mpr rfl, coordinate_iff.mpr rfl, coordinate_iff.mpr rfl,
      coordinate_iff.mpr rfl, (pairs _).mpr rfl⟩

end Fields

section Spelling

open Json

/-- An integer in digits, with a sign or without. -/
inductive Spelled : Int → Text → Prop where
  | bare {digits : Text} (all : AllDigits digits) (some : digits ≠ []) :
      Spelled (Decimal.valueOf digits) digits
  | plus {digits : Text} (all : AllDigits digits) (some : digits ≠ []) :
      Spelled (Decimal.valueOf digits) (.char '+' :: digits)
  | minus {digits : Text} (all : AllDigits digits) (some : digits ≠ []) :
      Spelled (-Decimal.valueOf digits) (.char '-' :: digits)

/-- The coordinates of the first point, those of the last one, and the offsets. -/
inductive Written : Span → Text → Prop where
  | coordinates {line column lastLine lastColumn : Int} {a b c d : Text}
      (first : Spelled line a) (second : Spelled column b) (third : Spelled lastLine c)
      (fourth : Spelled lastColumn d) :
      Written ⟨line, column, lastLine, lastColumn, none⟩
        (a ++ .char ':' :: (b ++ .char '-' :: (c ++ .char ':' :: d)))
  | withOffsets {line column lastLine lastColumn offset lastOffset : Int} {a b c d e f : Text}
      (first : Spelled line a) (second : Spelled column b) (third : Spelled lastLine c)
      (fourth : Spelled lastColumn d) (fifth : Spelled offset e) (sixth : Spelled lastOffset f) :
      Written ⟨line, column, lastLine, lastColumn, some (offset, lastOffset)⟩
        (a ++ .char ':' :: (b ++ .char '-' :: (c ++ .char ':' :: (d ++
          .char ',' :: .char ' ' :: (e ++ .char '-' :: f)))))

theorem integer_spelled (n : Int) : Spelled n (Decimal.integer n) := by
  cases n with
  | ofNat n =>
      have bare := Spelled.bare (allDigits_natural n) (Decimal.natural_ne_nil n)
      rwa [Decimal.valueOf_natural] at bare
  | negSucc n =>
      have minus := Spelled.minus (allDigits_natural (n + 1)) (Decimal.natural_ne_nil (n + 1))
      rwa [Decimal.valueOf_natural] at minus

theorem digits_cut {digits others left right : Text} (one : AllDigits digits)
    (two : AllDigits others) (stopLeft : NoDigit left) (stopRight : NoDigit right)
    (same : digits ++ left = others ++ right) : digits = others ∧ left = right := by
  have split := splitDigits_append one stopLeft
  rw [same, splitDigits_append two stopRight] at split
  exact ⟨(Prod.mk.inj split).1.symm, (Prod.mk.inj split).2.symm⟩

theorem digits_not_signed {digits : Text} {sign : Symbol} (all : AllDigits digits)
    (some : digits ≠ []) (apart : Text.isAsciiDigit sign = false) (left rest : Text) :
    digits ++ left ≠ sign :: rest := by
  obtain ⟨digit, more, rfl⟩ := List.exists_cons_of_ne_nil some
  intro same
  have digital := all digit (by simp)
  rw [(List.cons.inj same).1, apart] at digital
  contradiction

-- The first symbol is a digit or one of the two signs; behind it the digits are cut.
theorem Spelled.cut {m n : Int} {a b left right : Text} (one : Spelled m a) (two : Spelled n b)
    (stopLeft : NoDigit left) (stopRight : NoDigit right) (same : a ++ left = b ++ right) :
    m = n ∧ left = right := by
  have plus : Text.isAsciiDigit (.char '+') = false := by decide
  have minus : Text.isAsciiDigit (.char '-') = false := by decide
  have apart : Symbol.char '+' ≠ .char '-' := by decide
  cases one with
  | bare all some =>
      cases two with
      | bare others _ =>
          obtain ⟨digits, rests⟩ := digits_cut all others stopLeft stopRight same
          exact ⟨by rw [digits], rests⟩
      | plus _ _ => exact absurd same (digits_not_signed all some plus _ _)
      | minus _ _ => exact absurd same (digits_not_signed all some minus _ _)
  | plus all some =>
      cases two with
      | bare others more => exact absurd same.symm (digits_not_signed others more plus _ _)
      | plus others _ =>
          obtain ⟨digits, rests⟩ := digits_cut all others stopLeft stopRight (List.cons.inj same).2
          exact ⟨by rw [digits], rests⟩
      | minus _ _ => exact absurd (List.cons.inj same).1 apart
  | minus all some =>
      cases two with
      | bare others more => exact absurd same.symm (digits_not_signed others more minus _ _)
      | plus _ _ => exact absurd (List.cons.inj same).1 apart.symm
      | minus others _ =>
          obtain ⟨digits, rests⟩ := digits_cut all others stopLeft stopRight (List.cons.inj same).2
          exact ⟨by rw [digits], rests⟩

theorem Spelled.cut_before {m n : Int} {a b left right : Text} {separator : Symbol}
    (one : Spelled m a) (two : Spelled n b) (stops : Text.isAsciiDigit separator = false)
    (same : a ++ separator :: left = b ++ separator :: right) : m = n ∧ left = right := by
  have ends : ∀ rest, NoDigit (separator :: rest) := by
    intro rest symbol member
    simp only [List.head?_cons, Option.mem_some_iff] at member
    rw [← member, stops]
  obtain ⟨numbers, rests⟩ := one.cut two (ends left) (ends right) same
  exact ⟨numbers, (List.cons.inj rests).2⟩

theorem Spelled.cut_last {m n : Int} {a b : Text} (one : Spelled m a) (two : Spelled n b)
    (same : a = b) : m = n := by
  have nothing : NoDigit [] := by simp [NoDigit]
  exact (one.cut two nothing nothing (by rw [same])).1

theorem Spelled.not_followed {m n : Int} {a b left : Text} (one : Spelled m a)
    (two : Spelled n b) : a ≠ b ++ .char ',' :: left := by
  intro same
  have nothing : NoDigit [] := by simp [NoDigit]
  have comma : NoDigit (.char ',' :: left) := by
    have stops : Text.isAsciiDigit (.char ',') = false := by decide
    simp [NoDigit, stops]
  rw [← List.append_nil a] at same
  exact List.cons_ne_nil _ _ (one.cut two nothing comma same).2.symm

theorem points_cut {line column lastLine line' column' lastLine' : Int}
    {a b c a' b' c' left right : Text} (first : Spelled line a) (second : Spelled column b)
    (third : Spelled lastLine c) (first' : Spelled line' a') (second' : Spelled column' b')
    (third' : Spelled lastLine' c')
    (same : a ++ .char ':' :: (b ++ .char '-' :: (c ++ .char ':' :: left)) =
      a' ++ .char ':' :: (b' ++ .char '-' :: (c' ++ .char ':' :: right))) :
    line = line' ∧ column = column' ∧ lastLine = lastLine' ∧ left = right := by
  have colon : Text.isAsciiDigit (.char ':') = false := by decide
  have hyphen : Text.isAsciiDigit (.char '-') = false := by decide
  obtain ⟨lines, columns⟩ := first.cut_before first' colon same
  obtain ⟨columns, lasts⟩ := second.cut_before second' hyphen columns
  obtain ⟨lasts, rests⟩ := third.cut_before third' colon lasts
  exact ⟨lines, columns, lasts, rests⟩

/-- A text is written from one span at most. -/
theorem Written.unique {span other : Span} {text : Text} (one : Written span text)
    (two : Written other text) : span = other := by
  have hyphen : Text.isAsciiDigit (.char '-') = false := by decide
  have comma : Text.isAsciiDigit (.char ',') = false := by decide
  generalize shape : text = whole at two
  cases one with
  | coordinates first second third fourth =>
      cases two with
      | coordinates first' second' third' fourth' =>
          obtain ⟨rfl, rfl, rfl, shape⟩ := points_cut first second third first' second' third' shape
          rw [fourth.cut_last fourth' shape]
      | withOffsets first' second' third' fourth' fifth' sixth' =>
          obtain ⟨-, -, -, shape⟩ := points_cut first second third first' second' third' shape
          exact absurd shape (fourth.not_followed fourth')
  | withOffsets first second third fourth fifth sixth =>
      cases two with
      | coordinates first' second' third' fourth' =>
          obtain ⟨-, -, -, shape⟩ := points_cut first second third first' second' third' shape
          exact absurd shape.symm (fourth'.not_followed fourth)
      | withOffsets first' second' third' fourth' fifth' sixth' =>
          obtain ⟨rfl, rfl, rfl, shape⟩ := points_cut first second third first' second' third' shape
          obtain ⟨rfl, shape⟩ := fourth.cut_before fourth' comma shape
          obtain ⟨rfl, shape⟩ := fifth.cut_before fifth' hyphen (List.cons.inj shape).2
          rw [sixth.cut_last sixth' shape]

def offsetText : Option (Int × Int) → Text
  | some (offset, lastOffset) => (", " : Text) ++ Decimal.integer offset ++ ("-" : Text) ++
      Decimal.integer lastOffset
  | none => []

/-- The numbers of a span. -/
def Span.integers (span : Span) : List Int :=
  [span.line, span.column, span.lastLine, span.lastColumn] ++
    match span.offsets with
    | some (offset, lastOffset) => [offset, lastOffset]
    | none => []

/-- A span in plain numerals. -/
def Span.text (span : Span) : Text :=
  Decimal.integer span.line ++ (":" : Text) ++ Decimal.integer span.column ++ ("-" : Text) ++
    (Decimal.integer span.lastLine ++ (":" : Text) ++ Decimal.integer span.lastColumn) ++
      offsetText span.offsets

theorem span_written (span : Span) : Written span span.text := by
  obtain ⟨line, column, lastLine, lastColumn, offsets⟩ := span
  cases offsets with
  | none =>
      have written := Written.coordinates (integer_spelled line) (integer_spelled column)
        (integer_spelled lastLine) (integer_spelled lastColumn)
      simpa [Span.text, offsetText, Text.ofString] using written
  | some pair =>
      obtain ⟨offset, lastOffset⟩ := pair
      have written := Written.withOffsets (integer_spelled line) (integer_spelled column)
        (integer_spelled lastLine) (integer_spelled lastColumn) (integer_spelled offset)
        (integer_spelled lastOffset)
      simpa [Span.text, offsetText, Text.ofString] using written

theorem Written.ne_nil {span : Span} {text : Text} (written : Written span text) : text ≠ [] := by
  cases written <;> simp

end Spelling

section Text

theorem offsets_spanOf (first last : Option Value) :
    offsets first last = offsetText (spanOf first last).offsets := by
  unfold offsets
  cases one : field? first "offset" with
  | none => simp [spanOf, one, offsetText]
  | some a =>
      cases two : field? last "offset" with
      | none => simp [spanOf, one, two, offsetText]
      | some b => simp [spanOf, one, two, offsetText]

theorem spans_mapping {form : MappingForm} {entries : Entries} {span : Span} :
    Spans (.mapping form entries) span ↔
      span = spanOf (Entries.get? "start" entries) (Entries.get? "end" entries) := by
  constructor
  · rintro ⟨_, _, ⟨⟩, described⟩
    exact describes_iff.mp described
  · exact fun same => ⟨form, entries, rfl, describes_iff.mpr same⟩

theorem integers_spanOf (first last : Option Value) :
    (spanOf first last).integers =
      [coordinate (field? first "line"), coordinate (field? first "column"),
        coordinate (field? last "line"), coordinate (field? last "column")] ++
      match field? first "offset", field? last "offset" with
      | some a, some b => [a, b]
      | _, _ => [] := by
  cases one : field? first "offset" with
  | none => simp [spanOf, one, Span.integers]
  | some a =>
      cases two : field? last "offset" with
      | none => simp [spanOf, one, two, Span.integers]
      | some b => simp [spanOf, one, two, Span.integers]

theorem stringify_located {position : Value} (located : Located position) :
    ∃ span, (∀ other, Spans position other ↔ other = span) ∧
      stringify position = Decimal.write span.integers span.text := by
  obtain ⟨form, entries, rfl, given⟩ := located
  rw [← hasData_iff, ← hasData_iff, ← Bool.or_eq_true] at given
  refine ⟨_, fun other => spans_mapping, ?_⟩
  rw [stringify, written, if_pos given, text, if_pos given, offsets_spanOf, integers_spanOf]
  rfl

theorem stringify_unlocated {position : Value} (unlocated : ¬ Located position) :
    stringify position = .ok [] := by
  cases position with
  | mapping form entries =>
      have missing : ¬ (hasData (Entries.get? "start" entries) ||
          hasData (Entries.get? "end" entries)) = true := by
        rw [Bool.or_eq_true, hasData_iff, hasData_iff]
        exact fun given => unlocated ⟨form, entries, rfl, given⟩
      rw [stringify, written, if_neg missing, text, if_neg missing]
      rfl
  | _ => rfl

theorem stringify_empty_iff (position : Value) :
    stringify position = .ok [] ↔ ¬ Located position := by
  refine ⟨fun empty located => ?_, stringify_unlocated⟩
  obtain ⟨span, -, shown⟩ := stringify_located located
  rw [shown, Decimal.write_eq_ok_iff] at empty
  exact (span_written span).ne_nil empty.2.symm

end Text

/-- Two texts are the same if they are empty, or if they are written from one span. -/
theorem text_eq_iff {position second : Value} {shown also : Text}
    (one : stringify position = .ok shown) (two : stringify second = .ok also) :
    shown = also ↔ (Located position ↔ Located second) ∧
      (Located position → ∃ span, Spans position span ∧ Spans second span) := by
  have emptyOne := stringify_empty_iff position
  have emptyTwo := stringify_empty_iff second
  rw [one, Except.ok.injEq] at emptyOne
  rw [two, Except.ok.injEq] at emptyTwo
  by_cases both : Located position ∧ Located second
  · obtain ⟨span, spans, text⟩ := stringify_located both.1
    obtain ⟨other, others, alike⟩ := stringify_located both.2
    rw [text, Decimal.write_eq_ok_iff] at one
    rw [alike, Decimal.write_eq_ok_iff] at two
    rw [one.2, two.2]
    constructor
    · intro same
      have spelled := span_written other
      rw [← same] at spelled
      exact ⟨iff_of_true both.1 both.2, fun _ =>
        ⟨span, (spans span).mpr rfl, (others span).mpr ((span_written span).unique spelled)⟩⟩
    · rintro ⟨-, agree⟩
      obtain ⟨common, first, last⟩ := agree both.1
      rw [← (spans common).mp first, ← (others common).mp last]
  · constructor
    · intro same
      rw [same] at emptyOne
      have located : Located position ↔ Located second := by
        rw [← not_iff_not, ← emptyOne, emptyTwo]
      exact ⟨located, fun here => absurd ⟨here, located.mp here⟩ both⟩
    · rintro ⟨located, -⟩
      have nowhere : ¬ Located position := fun here => both ⟨here, located.mp here⟩
      rw [emptyOne.mpr nowhere, emptyTwo.mpr fun there => nowhere (located.mpr there)]

/-- The text of a position is empty exactly when neither of its points has a field.
Otherwise the points give one span. If one of its numbers is too long to be written there is
no text, else the text reads as that span only. Two positions with a text have the same one
exactly when it is empty for both, or both give the same span. -/
theorem range_text_reads_back (position : Value) :
    (stringify position = .ok [] ↔ ¬ Located position) ∧
      (Located position → ∃ span, (∀ other, Spans position other ↔ other = span) ∧
        ((∃ n ∈ span.integers, ¬ Decimal.Short n) → stringify position = .error ⟨⟩) ∧
        ((∀ n ∈ span.integers, Decimal.Short n) → ∃ shown, stringify position = .ok shown ∧
          ∀ other, Written other shown ↔ other = span)) ∧
      ∀ second shown also, stringify position = .ok shown → stringify second = .ok also →
        (shown = also ↔ (Located position ↔ Located second) ∧
          (Located position → ∃ span, Spans position span ∧ Spans second span)) := by
  refine ⟨stringify_empty_iff position, ?_, ?_⟩
  · intro located
    obtain ⟨span, spans, shown⟩ := stringify_located located
    rw [shown]
    have written := span_written span
    refine ⟨span, spans, Decimal.write_error, fun short => ⟨span.text, Decimal.write_ok short, ?_⟩⟩
    exact fun other => ⟨fun read => read.unique written, fun same => same ▸ written⟩
  · exact fun second shown also one two => text_eq_iff one two

/-- A sign beside the separator, a zero that shows as one, and one offset too few. -/
example : stringify (.mapping .dictionary [(.str "start", .mapping .view [(.str "line", .int (-3)),
    (.str "column", .float (.zero true)), (.str "offset", .int 0)]),
    (.str "end", .mapping .dictionary [(.str "line", .int (-7)), (.str "offset", .bool true)])]) =
      .ok "-3:1--7:1" := by decide +kernel

theorem stringify_long_line {n : Int} (long : ¬ Decimal.Short n) :
    let position : Value := .mapping .dictionary
      [(.str "start", .mapping .dictionary [(.str "line", .int n)])]
    Located position ∧ stringify position = .error ⟨⟩ := by
  intro position
  have located : Located position :=
    ⟨_, _, rfl, .inl ⟨"line", List.mem_cons_self, _, _, _, _, rfl, rfl, rfl⟩⟩
  obtain ⟨span, spans, shown⟩ := stringify_located located
  have same : span = _ := spans_mapping.mp ((spans span).mpr rfl)
  have nonzero : n ≠ 0 := by
    rintro rfl
    exact long (by decide)
  have line : span.line = n := (congrArg Span.line same).trans (if_neg nonzero)
  rw [← line] at long
  exact ⟨located, shown.trans (Decimal.write_error ⟨_, List.mem_cons_self, long⟩)⟩

theorem long_line_has_no_text :
    let position : Value := .mapping .dictionary
      [(.str "start", .mapping .dictionary [(.str "line", .int Decimal.leastLong)])]
    Located position ∧ stringify position = .error ⟨⟩ :=
  stringify_long_line Decimal.not_short_leastLong

end TreeReport.SourceRange
