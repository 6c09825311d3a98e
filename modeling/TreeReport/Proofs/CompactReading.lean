import TreeReport.Proofs.CompactShape

/-!
Compact text is read back. The reader finds each part of a proper document where
the text of that part stands, and leaves what is behind it; only integers with
too many digits are refused.
-/
namespace TreeReport.Json

section Read

theorem skipBlank_of_shown {symbol : Symbol} (shown : isBlank symbol = false) (rest : Text) :
    skipBlank (symbol :: rest) = symbol :: rest := by
  simp [skipBlank, shown]

theorem behind_found (wanted : Symbol) (shown : isBlank wanted = false) (rest : Text) :
    ∃ bound, behind? wanted (wanted :: rest) = some ⟨rest, bound⟩ := by
  unfold behind?
  split
  · next shape =>
      rw [skipBlank_of_shown shown] at shape
      contradiction
  · next symbol more shape =>
      rw [skipBlank_of_shown shown] at shape
      cases shape
      exact ⟨by simp, if_pos rfl⟩

theorem behind_none {wanted symbol : Symbol} (shown : isBlank symbol = false)
    (apart : symbol ≠ wanted) (rest : Text) : behind? wanted (symbol :: rest) = none := by
  unfold behind?
  split
  · rfl
  · next other more shape =>
      rw [skipBlank_of_shown shown] at shape
      cases shape
      simp [apart]

theorem isBlank_of_kind {symbol : Symbol} {kind : Kind} (opens : kindOf? symbol = some kind) :
    isBlank symbol = false := by
  have blank : ∀ symbol ∈ ([.char ' ', .char '\t', .char '\n', .char '\r'] : Text),
      kindOf? symbol = none := by decide
  by_contra shown
  simp only [isBlank, Bool.not_eq_false, Bool.or_eq_true, decide_eq_true_eq] at shown
  have none : kindOf? symbol = none := blank symbol (by simpa [or_assoc] using shown)
  rw [none] at opens
  contradiction

theorem skipBlank_compact {accepted : Int → Prop} {document : Json}
    (proper : Proper accepted document) (rest : Text) :
    skipBlank (document.compact ++ rest) = document.compact ++ rest := by
  obtain ⟨symbol, more, shape, kind⟩ := compact_head proper.writable
  rw [shape, List.cons_append]
  exact skipBlank_of_shown (isBlank_of_kind kind) _

theorem skipBlank_items {accepted : Int → Prop} {items : List Json} (nonempty : items ≠ [])
    (proper : ∀ item ∈ items, Proper accepted item) (rest : Text) :
    skipBlank (commas (items.map compact) ++ rest) = commas (items.map compact) ++ rest := by
  obtain ⟨item, more, rfl⟩ := List.exists_cons_of_ne_nil nonempty
  rw [List.map_cons, commas_cons]
  exact skipBlank_compact (proper item (by simp)) _

theorem skipBlank_members {members : List (Text × Json)} (nonempty : members ≠ [])
    (rest : Text) :
    skipBlank (commas (members.map memberText) ++ rest) =
      commas (members.map memberText) ++ rest := by
  obtain ⟨member, more, rfl⟩ := List.exists_cons_of_ne_nil nonempty
  rw [List.map_cons, commas_cons]
  exact skipBlank_of_shown (by decide) _

theorem behind_items {accepted : Int → Prop} {items : List Json} (nonempty : items ≠ [])
    (proper : ∀ item ∈ items, Proper accepted item) (rest : Text) :
    behind? (.char ']') (commas (items.map compact) ++ rest) = none := by
  obtain ⟨item, more, rfl⟩ := List.exists_cons_of_ne_nil nonempty
  obtain ⟨symbol, tail, shape, kind⟩ := compact_head (proper item (by simp)).writable
  have apart : symbol ≠ .char ']' := by
    rintro rfl
    contradiction
  rw [List.map_cons, commas_cons, shape, List.cons_append]
  exact behind_none (isBlank_of_kind kind) apart _

theorem behind_members {members : List (Text × Json)} (nonempty : members ≠ []) (rest : Text) :
    behind? (.char '\x7d') (commas (members.map memberText) ++ rest) = none := by
  obtain ⟨member, more, rfl⟩ := List.exists_cons_of_ne_nil nonempty
  rw [List.map_cons, commas_cons, memberText_append, quotedText_append]
  exact behind_none (by decide) (by decide) _

def Readable (document : Json) : Prop :=
  ∀ rest, Stops rest → Reads (readValue (document.compact ++ rest)) document rest

-- The reader skips blanks behind every comma, and the text of a part begins with none.
theorem readItems_last {item : Json} (readable : Readable item) (rest : Text) :
    Reads (readItems (item.compact ++ .char ']' :: rest)) [item] rest := by
  obtain ⟨bound, read⟩ := readable _ (stops_bracket rest)
  obtain ⟨shorter, closed⟩ := behind_found (.char ']') (by decide) rest
  rw [readItems]
  simp only [read, closed]
  exact ⟨Nat.lt_trans shorter bound, rfl⟩

theorem readItems_more {item : Json} {more : List Json} {tail rest : Text}
    (readable : Readable item) (opens : skipBlank tail = tail)
    (further : Reads (readItems tail) more rest) :
    Reads (readItems (item.compact ++ .char ',' :: tail)) (item :: more) rest := by
  rw [← opens] at further
  obtain ⟨within, further⟩ := further
  obtain ⟨bound, read⟩ := readable _ (stops_comma tail)
  have unclosed : behind? (.char ']') (.char ',' :: tail) = none :=
    behind_none (by decide) (by decide) tail
  obtain ⟨shorter, found⟩ := behind_found (.char ',') (by decide) tail
  rw [readItems]
  simp only [read, unclosed, found, further]
  rw [opens] at within
  exact ⟨by omega, rfl⟩

theorem readItems_commas {accepted : Int → Prop} {items : List Json} (nonempty : items ≠ [])
    (proper : ∀ item ∈ items, Proper accepted item) (readable : ∀ item ∈ items, Readable item)
    (rest : Text) :
    Reads (readItems (commas (items.map compact) ++ .char ']' :: rest)) items rest := by
  induction items with
  | nil => exact absurd rfl nonempty
  | cons item more ih =>
      have head := readable item (by simp)
      rw [List.map_cons, commas_cons]
      by_cases last : more = []
      · rw [last, List.map_nil, if_pos rfl]
        exact readItems_last head rest
      · have later := fun item inside => proper item (List.mem_cons_of_mem _ inside)
        rw [if_neg (by simpa using last)]
        exact readItems_more head (skipBlank_items last later _)
          (ih last later fun item inside => readable item (List.mem_cons_of_mem _ inside))

theorem readMembers_last {accepted : Int → Prop} {member : Text × Json}
    (proper : Proper accepted member.2) (readable : Readable member.2) (rest : Text) :
    Reads (readMembers (memberText member ++ .char '\x7d' :: rest)) [member] rest := by
  have value := readable _ (stops_brace rest)
  have opens := skipBlank_compact proper (.char '\x7d' :: rest)
  rw [← opens] at value
  obtain ⟨valueBound, value⟩ := value
  obtain ⟨nameBound, name⟩ :=
    readQuoted_quotedText member.1 (.char ':' :: (member.2.compact ++ .char '\x7d' :: rest))
  obtain ⟨colonBound, colon⟩ :=
    behind_found (.char ':') (by decide) (member.2.compact ++ .char '\x7d' :: rest)
  obtain ⟨shorter, closed⟩ := behind_found (.char '\x7d') (by decide) rest
  rw [memberText_append, readMembers]
  simp only [name, colon, value, closed]
  rw [opens] at valueBound
  exact ⟨by omega, rfl⟩

theorem readMembers_more {accepted : Int → Prop} {member : Text × Json}
    {more : List (Text × Json)} {tail rest : Text} (proper : Proper accepted member.2)
    (readable : Readable member.2) (blank : skipBlank tail = tail)
    (further : Reads (readMembers tail) more rest) :
    Reads (readMembers (memberText member ++ .char ',' :: tail)) (member :: more) rest := by
  have value := readable _ (stops_comma tail)
  have opens := skipBlank_compact proper (.char ',' :: tail)
  rw [← opens] at value
  rw [← blank] at further
  obtain ⟨within, further⟩ := further
  obtain ⟨valueBound, value⟩ := value
  obtain ⟨nameBound, name⟩ :=
    readQuoted_quotedText member.1 (.char ':' :: (member.2.compact ++ .char ',' :: tail))
  obtain ⟨colonBound, colon⟩ :=
    behind_found (.char ':') (by decide) (member.2.compact ++ .char ',' :: tail)
  have unclosed : behind? (.char '\x7d') (.char ',' :: tail) = none :=
    behind_none (by decide) (by decide) tail
  obtain ⟨shorter, found⟩ := behind_found (.char ',') (by decide) tail
  rw [memberText_append, readMembers]
  simp only [name, colon, value, unclosed, found, further]
  rw [opens] at valueBound
  rw [blank] at within
  exact ⟨by omega, rfl⟩

theorem readMembers_commas {accepted : Int → Prop} {members : List (Text × Json)}
    (nonempty : members ≠ []) (proper : ∀ member ∈ members, Proper accepted member.2)
    (readable : ∀ member ∈ members, Readable member.2) (rest : Text) :
    Reads (readMembers (commas (members.map memberText) ++ .char '\x7d' :: rest)) members rest := by
  induction members with
  | nil => exact absurd rfl nonempty
  | cons member more ih =>
      have good := proper member (by simp)
      have head := readable member (by simp)
      rw [List.map_cons, commas_cons]
      by_cases last : more = []
      · rw [last, List.map_nil, if_pos rfl]
        exact readMembers_last good head rest
      · rw [if_neg (by simpa using last)]
        exact readMembers_more good head (skipBlank_members last _)
          (ih last (fun member inside => proper member (List.mem_cons_of_mem _ inside))
            fun member inside => readable member (List.mem_cons_of_mem _ inside))

theorem word_number {numeral : Numeral} (whole : IsWhole numeral.whole) (rest : Text) :
    word? (numeral.spelled ++ rest) = none := by
  obtain ⟨digit, more, digital, shape⟩ := spelled_head whole
  have apart : ∀ letter, Text.isAsciiDigit (.char letter) = false → Symbol.char letter ≠ digit := by
    rintro letter other rfl
    rw [other] at digital
    contradiction
  rcases shape with plain | signed
  · rw [plain]
    simp [word?, words, Text.startsWith, Text.ofString, List.isPrefixOf, apart 'n' rfl,
      apart 't' rfl, apart 'f' rfl, apart 'N' rfl, apart 'I' rfl, apart '-' rfl]
  · rw [signed]
    simp [word?, words, Text.startsWith, Text.ofString, List.isPrefixOf, apart 'I' rfl]

theorem readValue_scalar {symbol : Symbol}
    (plain : symbol ∉ ([.char '"', .char '[', .char '\x7b'] : Text)) (body : Text) :
    readValue (symbol :: body) = readScalar (symbol :: body) := by
  simp only [List.mem_cons, List.not_mem_nil, or_false, not_or] at plain
  rw [readValue]
  simp only [plain, ↓reduceIte]

theorem reads_scalar {symbol : Symbol} {body rest : Text} {document : Json}
    (plain : symbol ∉ ([.char '"', .char '[', .char '\x7b'] : Text))
    (read : Reads (readScalar (symbol :: body)) document rest) :
    Reads (readValue (symbol :: body)) document rest := by
  rw [readValue_scalar plain]
  exact read

theorem reads_text {body text rest : Text}
    (read : Reads (readQuoted (.char '"' :: body)) text rest) :
    Reads (readValue (.char '"' :: body)) (.str text) rest := by
  obtain ⟨bound, read⟩ := read
  rw [readValue]
  simp only [↓reduceIte, read]
  exact ⟨bound, rfl⟩

theorem reads_array {body rest : Text} {items : List Json}
    (unclosed : behind? (.char ']') body = none)
    (inner : Reads (readItems (skipBlank body)) items rest) :
    Reads (readValue (.char '[' :: body)) (.array items) rest := by
  have apart : Symbol.char '[' ≠ .char '"' := by decide
  have blank := skipBlank_length body
  obtain ⟨bound, inner⟩ := inner
  rw [readValue]
  simp only [apart, ↓reduceIte, unclosed, inner]
  exact ⟨by simp; omega, rfl⟩

theorem reads_object {body rest : Text} {members : List (Text × Json)}
    (unclosed : behind? (.char '\x7d') body = none)
    (inner : Reads (readMembers (skipBlank body)) members rest) :
    Reads (readValue (.char '\x7b' :: body)) (.object (collectMembers members)) rest := by
  have apart : Symbol.char '\x7b' ≠ .char '"' ∧ Symbol.char '\x7b' ≠ .char '[' := by decide
  have blank := skipBlank_length body
  obtain ⟨bound, inner⟩ := inner
  rw [readValue]
  simp only [apart, ↓reduceIte, unclosed, inner]
  exact ⟨by simp; omega, rfl⟩

theorem reads_empty_array (rest : Text) :
    Reads (readValue (.char '[' :: .char ']' :: rest)) (.array []) rest := by
  have apart : Symbol.char '[' ≠ .char '"' := by decide
  obtain ⟨bound, closed⟩ := behind_found (.char ']') (by decide) rest
  rw [readValue]
  simp only [apart, ↓reduceIte, closed]
  exact ⟨Nat.lt_succ_of_lt bound, rfl⟩

theorem reads_empty_object (rest : Text) :
    Reads (readValue (.char '\x7b' :: .char '\x7d' :: rest)) (.object []) rest := by
  have apart : Symbol.char '\x7b' ≠ .char '"' ∧ Symbol.char '\x7b' ≠ .char '[' := by decide
  obtain ⟨bound, closed⟩ := behind_found (.char '\x7d') (by decide) rest
  rw [readValue]
  simp only [apart, ↓reduceIte, closed]
  exact ⟨Nat.lt_succ_of_lt bound, rfl⟩

theorem readScalar_word {name rest : Text} {document : Json}
    (found : word? (name ++ rest) = some (name, document)) :
    Reads (readScalar (name ++ rest)) document rest := by
  have bound := word_shorter found
  rw [List.drop_left] at bound
  unfold readScalar
  split
  · next other read =>
      rw [found] at read
      cases read
      simp only [List.drop_left]
      exact ⟨bound, rfl⟩
  · next missing =>
      rw [found] at missing
      contradiction

theorem readScalar_number {numeral : Numeral} {document : Json} (spells : Spells numeral document)
    (value : numeral.value = .ok document) {rest : Text} (stops : Stops rest) :
    Reads (readScalar (numeral.spelled ++ rest)) document rest := by
  have parts := numeral_spelled spells.whole spells.fraction stops
  unfold readScalar
  split
  · next word found =>
      rw [word_number spells.whole] at found
      contradiction
  · split
    · next missing =>
        rw [parts] at missing
        contradiction
    · next found read =>
        have same := parts
        rw [read] at same
        cases same
        rw [value]
        exact ⟨numeral_shorter read, rfl⟩

theorem number_plain {symbol : Symbol} (opens : kindOf? symbol = some .number) :
    symbol ∉ ([.char '"', .char '[', .char '\x7b'] : Text) := by
  have kinds : ∀ other ∈ ([.char '"', .char '[', .char '\x7b'] : Text),
      kindOf? other ≠ some .number := by decide
  exact fun listed => kinds symbol listed opens

theorem readable_number {document : Json} (proper : Proper Decimal.Short document)
    (number : document.kind = .number) : Readable document := by
  intro rest stops
  obtain ⟨numeral, spelled, spells⟩ := number_spelled proper.writable number
  obtain ⟨symbol, more, shape, kind⟩ := compact_head proper.writable
  have value : numeral.value = .ok document := by
    cases spells with
    | int n =>
        cases proper with
        | int allowed => exact integerNumeral_value allowed
    | float whole fraction written value => exact value
  have read := readScalar_number spells value stops
  have plain := number_plain (number ▸ kind)
  rw [spelled, shape, List.cons_append] at read
  rw [shape, List.cons_append]
  exact reads_scalar plain read

/-- A proper document without integers that are too long is read from its
compact text, and nothing behind that text is touched. -/
theorem readable_proper {document : Json} (proper : Proper Decimal.Short document) :
    Readable document := by
  induction proper with
  | int allowed => exact readable_number (.int allowed) rfl
  | float finite => exact readable_number (.float finite) rfl
  | null =>
      intro rest stops
      have read : Reads (readScalar (("null" : Text) ++ rest)) .null rest := readScalar_word rfl
      exact reads_scalar (by decide) read
  | bool b =>
      intro rest stops
      cases b with
      | true =>
          have read : Reads (readScalar (("true" : Text) ++ rest)) (.bool true) rest :=
            readScalar_word rfl
          exact reads_scalar (by decide) read
      | false =>
          have read : Reads (readScalar (("false" : Text) ++ rest)) (.bool false) rest :=
            readScalar_word rfl
          exact reads_scalar (by decide) read
  | str text =>
      intro rest stops
      have read := readQuoted_quotedText text rest
      change Reads (readValue (quotedText text ++ rest)) _ _
      rw [quotedText_append] at read ⊢
      exact reads_text read
  | @array items all ih =>
      intro rest stops
      rw [compact_array]
      by_cases none : items = []
      · rw [none]
        exact reads_empty_array rest
      · -- The parts are read by induction, then the list around them.
        have inner := readItems_commas none all ih rest
        rw [← skipBlank_items none all] at inner
        exact reads_array (behind_items none all _) inner
  | @object members names all ih =>
      intro rest stops
      rw [compact_object]
      by_cases none : members = []
      · rw [none]
        exact reads_empty_object rest
      · have inner := readMembers_commas none all ih rest
        rw [← skipBlank_members none] at inner
        have read := reads_object (behind_members none _) inner
        rwa [collectMembers_of_nodup names] at read

theorem compact_unmarked {accepted : Int → Prop} {document : Json}
    (proper : Proper accepted document) :
    Text.startsWith [.char '\uFEFF'] document.compact = false := by
  obtain ⟨symbol, more, shape, kind⟩ := compact_head proper.writable
  have none : kindOf? (.char '\uFEFF') = none := by decide
  have apart : symbol ≠ .char '\uFEFF' := by
    rintro rfl
    rw [none] at kind
    contradiction
  simp [shape, Text.startsWith, List.isPrefixOf, Ne.symm apart]

/-- A document is read from its compact text. -/
theorem read_compact {document : Json} (proper : Proper Decimal.Short document) :
    read document.compact = .ok document := by
  have nothing : Stops [] := by simp [Stops]
  have found := readable_proper proper [] nothing
  have opens := skipBlank_compact proper []
  have mark := compact_unmarked proper
  rw [List.append_nil] at opens found
  rw [← opens] at found
  obtain ⟨bound, found⟩ := found
  simp only [read, mark, found]
  rfl

end Read

end TreeReport.Json
