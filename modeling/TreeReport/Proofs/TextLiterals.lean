import TreeReport.Json.Reader

/-!
Text literals. The inside of a quoted text is read back as the symbols it was
quoted from, up to the closing quote. A control without a letter of its own comes
back as a code, which is never half of a pair and so never joins its neighbour.
-/
namespace TreeReport.Json

def lettered : List Symbol :=
  [.char '"', Text.backslash, .char '\n', .char '\r', .char '\t', .char '\x08', .char '\x0c']

def pieceOf (symbol : Symbol) : Piece :=
  if symbol.code < 0x20 ∧ symbol ∉ lettered then .coded symbol.code else .plain symbol

def Reads {ε α : Type} {text : Text} (found : Except ε (α × Rest text)) (value : α)
    (rest : Text) : Prop :=
  ∃ bound : rest.length < text.length, found = .ok (value, ⟨rest, bound⟩)

theorem Reads.unique {ε α : Type} {text left right : Text} {found : Except ε (α × Rest text)}
    {first second : α} (one : Reads found first left) (two : Reads found second right) :
    first = second ∧ left = right := by
  obtain ⟨before, shape⟩ := one
  obtain ⟨behind, other⟩ := two
  rw [shape] at other
  cases other
  exact ⟨rfl, rfl⟩

section Escapes

theorem escapedSymbol_lettered {symbol : Symbol} (listed : symbol ∈ lettered) :
    ∃ letter, escapedSymbol symbol = [Text.backslash, letter] ∧ letter ≠ .char 'u' ∧
      escapeLetter? letter = some symbol := by
  simp only [lettered, List.mem_cons, List.not_mem_nil, or_false] at listed
  rcases listed with rfl | rfl | rfl | rfl | rfl | rfl | rfl
  all_goals exact ⟨_, rfl, by decide, rfl⟩

theorem escapedSymbol_control {symbol : Symbol} (control : symbol.code < 0x20)
    (bare : symbol ∉ lettered) :
    escapedSymbol symbol = Text.backslash :: .char 'u' :: Text.hex 4 symbol.code := by
  simp only [lettered, List.mem_cons, List.not_mem_nil, or_false, not_or] at bare
  simp [escapedSymbol, bare, control]

theorem escapedSymbol_shown {symbol : Symbol} (shown : ¬ symbol.code < 0x20)
    (bare : symbol ∉ lettered) : escapedSymbol symbol = [symbol] := by
  simp only [lettered, List.mem_cons, List.not_mem_nil, or_false, not_or] at bare
  simp [escapedSymbol, bare, shown]

end Escapes

section Codes

theorem hex_four {code : Nat} (control : code < 0x20) :
    ∃ a b c d, Text.hex 4 code = [a, b, c, d] ∧ hexCode? [a, b, c, d] = some code := by
  have reads : ∀ code < 0x20, hexCode? (Text.hex 4 code) = some code := by decide
  exact ⟨_, _, _, _, rfl, reads code control⟩

theorem coded_control {symbol : Symbol} (control : symbol.code < 0x20) :
    coded symbol.code = symbol := by
  cases symbol with
  | surrogate half =>
      simp only [Symbol.code] at control
      omega
  | char c =>
      simp only [Symbol.code] at control
      have apart : ¬ (0xD800 ≤ c.toNat ∧ c.toNat < 0xE000) := by omega
      have scalar : c.toNat.isValidChar := c.valid
      rw [coded, Symbol.code, Symbol.ofCode?, dif_neg apart, dif_pos scalar, Option.getD_some]
      exact congrArg Symbol.char (Char.ext rfl)

end Codes

section Pieces

theorem pieces_plain {symbol : Symbol} (shown : ¬ symbol.code < 0x20) (bare : symbol ∉ lettered)
    (rest : Text) : pieces (symbol :: rest) = (pieces rest).map (prepend (.plain symbol)) := by
  simp only [lettered, List.mem_cons, not_or] at bare
  rw [pieces.eq_def]
  simp [bare, shown]

theorem pieces_letter {letter meant : Symbol} (apart : letter ≠ .char 'u')
    (known : escapeLetter? letter = some meant) (rest : Text) :
    pieces (Text.backslash :: letter :: rest) = (pieces rest).map (prepend (.plain meant)) := by
  have bare : Text.backslash ≠ .char '"' := by decide
  rw [pieces.eq_def]
  simp [bare, apart, known]

theorem pieces_code {code : Nat} (control : code < 0x20) {rest : Text} (more : rest ≠ []) :
    pieces (Text.backslash :: .char 'u' :: Text.hex 4 code ++ rest) =
      (pieces rest).map (prepend (.coded code)) := by
  have bare : Text.backslash ≠ .char '"' := by decide
  obtain ⟨a, b, c, d, shape, reads⟩ := hex_four control
  obtain ⟨next, others, rfl⟩ := List.exists_cons_of_ne_nil more
  rw [shape, List.cons_append, List.cons_append, pieces.eq_def]
  simp [bare, reads]

theorem pieces_escapedSymbol (symbol : Symbol) {rest : Text} (more : rest ≠ []) :
    pieces (escapedSymbol symbol ++ rest) = (pieces rest).map (prepend (pieceOf symbol)) := by
  by_cases listed : symbol ∈ lettered
  · obtain ⟨letter, shape, apart, known⟩ := escapedSymbol_lettered listed
    have plain : pieceOf symbol = .plain symbol := by simp [pieceOf, listed]
    rw [shape, plain]
    exact pieces_letter apart known rest
  · by_cases control : symbol.code < 0x20
    · have code : pieceOf symbol = .coded symbol.code := by simp [pieceOf, control, listed]
      rw [escapedSymbol_control control listed, code]
      exact pieces_code control more
    · have plain : pieceOf symbol = .plain symbol := by simp [pieceOf, control]
      rw [escapedSymbol_shown control listed, plain]
      exact pieces_plain control listed rest

theorem pieces_escaped (text rest : Text) :
    pieces (text.flatMap escapedSymbol ++ .char '"' :: rest) = .ok (text.map pieceOf, rest) := by
  induction text with
  | nil =>
      rw [List.flatMap_nil, List.nil_append, pieces.eq_def]
      simp
  | cons symbol more ih =>
      rw [List.flatMap_cons, List.append_assoc, pieces_escapedSymbol symbol (by simp), ih]
      rfl

theorem joinPairs_pieceOf (text : Text) : joinPairs (text.map pieceOf) = text := by
  induction text with
  | nil => rfl
  | cons symbol rest ih =>
      by_cases control : symbol.code < 0x20 ∧ symbol ∉ lettered
      · have code : pieceOf symbol = .coded symbol.code := by simp [pieceOf, control]
        have same := coded_control control.1
        have single : isHigh symbol.code = false := by
          simp only [isHigh, Bool.and_eq_false_iff, decide_eq_false_iff_not]
          omega
        rw [List.map_cons, code]
        cases shape : rest.map pieceOf with
        | nil =>
            rw [shape] at ih
            rw [joinPairs.eq_def]
            simp [same, ← ih, joinPairs]
        | cons next more =>
            rw [shape] at ih
            cases next with
            | plain other =>
                rw [joinPairs] at ih
                rw [joinPairs.eq_def]
                simp [same, ih]
            | coded low =>
                rw [joinPairs.eq_def]
                simp [single, same, ih]
      · have plain : pieceOf symbol = .plain symbol := by simp [pieceOf, control]
        rw [List.map_cons, plain, joinPairs, ih]

theorem readText_escaped (text rest : Text) :
    Reads (readText (text.flatMap escapedSymbol ++ .char '"' :: rest)) text rest := by
  unfold readText
  split
  · next cause failed =>
      rw [pieces_escaped] at failed
      contradiction
  · next found read =>
      have same := pieces_escaped text rest
      rw [read] at same
      cases same
      rw [joinPairs_pieceOf]
      exact ⟨pieces_shorter read, rfl⟩

theorem quotedText_append (text rest : Text) :
    quotedText text ++ rest = .char '"' :: (text.flatMap escapedSymbol ++ .char '"' :: rest) := by
  simp [quotedText]

theorem readQuoted_quotedText (text rest : Text) :
    Reads (readQuoted (quotedText text ++ rest)) text rest := by
  obtain ⟨bound, read⟩ := readText_escaped text rest
  rw [quotedText_append, readQuoted]
  simp only [↓reduceIte, read]
  exact ⟨Nat.lt_of_lt_of_le bound (by simp), rfl⟩

theorem quotedText_cut {first second left right : Text}
    (same : quotedText first ++ left = quotedText second ++ right) :
    first = second ∧ left = right := by
  have one := readQuoted_quotedText first left
  have two := readQuoted_quotedText second right
  rw [same] at one
  exact one.unique two

end Pieces

end TreeReport.Json
