/-! Text as a list of symbols. A document may spell half of a surrogate pair
with an escape, and such a half is kept, shown and counted like any other
symbol; it only has no encoding. Lines are the pieces between newlines, so the
empty text is one empty line. -/
namespace TreeReport

/-- One code point. Surrogate halves stand apart from the characters, so text
without them is exactly a list of characters. -/
inductive Symbol where
  | char (c : Char)
  | surrogate (half : Fin 0x800)
  deriving DecidableEq, Repr

def Symbol.code : Symbol → Nat
  | .char c => c.toNat
  | .surrogate half => 0xD800 + half

def Symbol.ofCode? (code : Nat) : Option Symbol :=
  if surrogate : 0xD800 ≤ code ∧ code < 0xE000 then
    some (.surrogate ⟨code - 0xD800, by omega⟩)
  else if scalar : code.isValidChar then
    some (.char (Char.ofNatAux code scalar))
  else none

def Symbol.toChar? : Symbol → Option Char
  | .char c => some c
  | .surrogate _ => none

abbrev Text := List Symbol

namespace Text

def ofString (s : String) : Text := s.toList.map Symbol.char

instance : Coe String Text := ⟨ofString⟩

def toString? (text : Text) : Option String :=
  (text.mapM Symbol.toChar?).map String.ofList

abbrev newline : Symbol := .char '\n'

/-- The pieces between separators; never an empty list. -/
def splitOn (separator : Symbol) : Text → List Text
  | [] => [[]]
  | symbol :: rest =>
      if symbol = separator then [] :: splitOn separator rest
      else match splitOn separator rest with
        | [] => [[symbol]]
        | first :: more => (symbol :: first) :: more

def lines (text : Text) : List Text := splitOn newline text

def joinWith (separator : Text) : List Text → Text
  | [] => []
  | [last] => last
  | first :: rest => first ++ separator ++ joinWith separator rest

def joinLines (pieces : List Text) : Text := joinWith [newline] pieces

def spaces (count : Nat) : Text := List.replicate count (.char ' ')

def padRight (width : Nat) (text : Text) : Text :=
  text ++ spaces (width - text.length)

def startsWith (opening text : Text) : Bool := opening.isPrefixOf text

/-- Code point order, the shorter of two texts first when it begins the other. -/
def precedes : Text → Text → Bool
  | [], _ => true
  | _ :: _, [] => false
  | a :: as, b :: bs =>
      if a.code < b.code then true
      else if b.code < a.code then false
      else precedes as bs

theorem splitOn_ne_nil (separator : Symbol) (text : Text) : splitOn separator text ≠ [] := by
  cases text with
  | nil => simp [splitOn]
  | cons symbol rest =>
      simp only [splitOn]
      split
      · simp
      · split <;> simp

theorem joinWith_cons (separator first : Text) {rest : List Text} (more : rest ≠ []) :
    joinWith separator (first :: rest) = first ++ separator ++ joinWith separator rest := by
  cases rest with
  | nil => exact absurd rfl more
  | cons second tail => rfl

theorem mem_joinWith {separator : Text} {pieces : List Text} {symbol : Symbol}
    (member : symbol ∈ joinWith separator pieces) :
    symbol ∈ separator ∨ ∃ piece ∈ pieces, symbol ∈ piece := by
  induction pieces with
  | nil => cases member
  | cons first rest ih =>
      cases rest with
      | nil => exact .inr ⟨first, List.mem_singleton.mpr rfl, member⟩
      | cons second more =>
          rw [joinWith_cons _ _ (by simp), List.mem_append, List.mem_append] at member
          rcases member with (inside | between) | later
          · exact .inr ⟨first, List.mem_cons_self, inside⟩
          · exact .inl between
          · rcases ih later with between | ⟨piece, listed, inside⟩
            · exact .inl between
            · exact .inr ⟨piece, List.mem_cons_of_mem first listed, inside⟩

theorem subset_joinWith {separator piece : Text} {pieces : List Text} (member : piece ∈ pieces) :
    piece ⊆ joinWith separator pieces := by
  induction pieces with
  | nil => contradiction
  | cons first rest ih =>
      by_cases last : rest = []
      · rw [last, List.mem_singleton] at member
        rw [last, member]
        exact List.Subset.refl _
      · rw [joinWith_cons _ _ last]
        rcases List.mem_cons.mp member with rfl | later
        · exact List.Subset.trans (List.subset_append_left _ _) (List.subset_append_left _ _)
        · exact List.Subset.trans (ih later) (List.subset_append_right _ _)

theorem joinWith_splitOn (separator : Symbol) (text : Text) :
    joinWith [separator] (splitOn separator text) = text := by
  induction text with
  | nil => rfl
  | cons symbol rest ih =>
      simp only [splitOn]
      split
      · next same =>
          rw [joinWith_cons _ _ (splitOn_ne_nil separator rest), ih, same]
          rfl
      · cases shape : splitOn separator rest with
        | nil => exact absurd shape (splitOn_ne_nil separator rest)
        | cons first more =>
            rw [shape] at ih
            cases more with
            | nil => simpa [joinWith] using ih
            | cons second tail => simpa [joinWith] using ih

theorem splitOn_of_free {separator : Symbol} {piece : Text} (free : separator ∉ piece) :
    splitOn separator piece = [piece] := by
  induction piece with
  | nil => rfl
  | cons symbol rest ih =>
      have apart : symbol ≠ separator := fun same => free (by simp [same])
      have tail : separator ∉ rest := fun inside => free (List.mem_cons_of_mem symbol inside)
      simp [splitOn, apart, ih tail]

theorem splitOn_free (separator : Symbol) (text : Text) :
    ∀ piece ∈ splitOn separator text, separator ∉ piece := by
  induction text with
  | nil => simp [splitOn]
  | cons symbol rest ih =>
      simp only [splitOn]
      split
      · simpa using ih
      · next apart =>
          split
          · simpa using Ne.symm apart
          · next first more shape =>
              rw [shape] at ih
              intro piece member
              rcases List.mem_cons.mp member with same | later
              · rw [same]
                simpa [Ne.symm apart] using ih first (by simp)
              · exact ih piece (List.mem_cons_of_mem first later)

theorem splitOn_separator (separator : Symbol) (text after : Text) :
    splitOn separator (text ++ separator :: after) =
      splitOn separator text ++ splitOn separator after := by
  induction text with
  | nil => simp [splitOn]
  | cons symbol rest ih =>
      rw [List.cons_append, splitOn, splitOn, ih]
      split
      · rfl
      · cases shape : splitOn separator rest with
        | nil => exact absurd shape (splitOn_ne_nil separator rest)
        | cons first more => rfl

theorem splitOn_append {separator : Symbol} {piece : Text} (free : separator ∉ piece)
    (rest : Text) :
    splitOn separator (piece ++ separator :: rest) = piece :: splitOn separator rest := by
  rw [splitOn_separator, splitOn_of_free free, List.singleton_append]

theorem splitOn_joinWith {separator : Symbol} {pieces : List Text} (nonempty : pieces ≠ [])
    (free : ∀ piece ∈ pieces, separator ∉ piece) :
    splitOn separator (joinWith [separator] pieces) = pieces := by
  induction pieces with
  | nil => exact absurd rfl nonempty
  | cons first rest ih =>
      have head := free first (by simp)
      cases rest with
      | nil => exact splitOn_of_free head
      | cons second tail =>
          rw [joinWith_cons _ _ (by simp), List.append_assoc, List.singleton_append,
            splitOn_append head,
            ih (by simp) fun piece member => free piece (List.mem_cons_of_mem first member)]

end Text

end TreeReport
