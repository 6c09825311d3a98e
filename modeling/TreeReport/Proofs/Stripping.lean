import TreeReport.Style

/-!
Stripping is a scan from the left, so it is no homomorphism: two texts may join
into a sequence that neither holds. It does split before a fresh text, one that
continues no sequence begun before it. A painted token is fresh and leaves the
scan outside of any sequence, so it hides nothing of what stands around it.
What the scan takes out is exactly the complete sequences, from the left.
-/
namespace TreeReport.Style

def Fresh (text : Text) : Prop := ∀ scan, stripFrom scan text = scan.held ++ strip text

/-- A symbol that neither begins nor continues a sequence. -/
def Inert (symbol : Symbol) : Prop :=
  symbol ≠ escape ∧ symbol ≠ .char '[' ∧ isParameter symbol = false ∧ symbol ≠ .char 'm'

instance (symbol : Symbol) : Decidable (Inert symbol) := by
  unfold Inert
  infer_instance

theorem stripFrom_escape (scan : Scan) (rest : Text) :
    stripFrom scan (escape :: rest) = scan.held ++ stripFrom .afterEscape rest := by
  cases scan <;> rfl

@[simp] theorem strip_nil : strip [] = [] := rfl

theorem strip_cons {symbol : Symbol} (plain : symbol ≠ escape) (rest : Text) :
    strip (symbol :: rest) = symbol :: strip rest := by
  simp [strip, stripFrom, plain]

/-- A text without escapes is kept as it is, whatever follows it. -/
theorem strip_plain_append {text : Text} (plain : escape ∉ text) (rest : Text) :
    strip (text ++ rest) = text ++ strip rest := by
  induction text with
  | nil => rfl
  | cons symbol more ih =>
      have apart : symbol ≠ escape := fun same => plain (by simp [same])
      have tail : escape ∉ more := fun inside => plain (List.mem_cons_of_mem symbol inside)
      rw [List.cons_append, strip_cons apart, ih tail, List.cons_append]

theorem stripFrom_parameters {parameters : Text}
    (all : ∀ symbol ∈ parameters, isParameter symbol = true) (seen rest : Text) :
    stripFrom (.inside seen) (parameters ++ rest) =
      stripFrom (.inside (parameters.reverse ++ seen)) rest := by
  induction parameters generalizing seen with
  | nil => rfl
  | cons symbol more ih =>
      have parameter := all symbol (by simp)
      have apart : symbol ≠ escape := by
        intro same
        rw [same] at parameter
        exact absurd parameter (by decide)
      have tail : ∀ other ∈ more, isParameter other = true :=
        fun other member => all other (List.mem_cons_of_mem symbol member)
      simp [stripFrom, apart, parameter, ih tail]

theorem stripFrom_sequence {parameters : Text}
    (all : ∀ symbol ∈ parameters, isParameter symbol = true) (scan : Scan) (rest : Text) :
    stripFrom scan (escape :: .char '[' :: (parameters ++ .char 'm' :: rest)) =
      scan.held ++ strip rest := by
  have ends : isParameter (.char 'm') = false := by decide
  have bracket : stripFrom .afterEscape (.char '[' :: (parameters ++ .char 'm' :: rest)) =
      strip rest := by
    simp [stripFrom, stripFrom_parameters all, ends, strip]
  rw [stripFrom_escape, bracket]

theorem strip_sequence {parameters : Text}
    (all : ∀ symbol ∈ parameters, isParameter symbol = true) (rest : Text) :
    strip (escape :: .char '[' :: (parameters ++ .char 'm' :: rest)) = strip rest :=
  stripFrom_sequence all .outside rest

section Fresh

theorem fresh_nil : Fresh [] := by
  intro scan
  simp [stripFrom]

theorem fresh_escape (rest : Text) : Fresh (escape :: rest) := by
  intro scan
  simp [strip, stripFrom, Scan.held]

theorem fresh_inert {symbol : Symbol} (inert : Inert symbol) (rest : Text) :
    Fresh (symbol :: rest) := by
  obtain ⟨plain, bracket, parameter, ends⟩ := inert
  intro scan
  rw [strip_cons plain]
  cases scan with
  | outside => simp [stripFrom, plain, Scan.held, strip]
  | afterEscape => simp [stripFrom, plain, bracket, Scan.held, strip]
  | inside parameters => simp [stripFrom, plain, parameter, ends, strip]

/-- A bracket may follow an escape, but what stands in brackets ends no sequence. -/
theorem fresh_bracketed {inside : Text} (all : ∀ symbol ∈ inside, isParameter symbol = true)
    (rest : Text) : Fresh (.char '[' :: (inside ++ .char ']' :: rest)) := by
  have plain : escape ∉ inside := by
    intro member
    exact absurd (all escape member) (by decide)
  have shown : strip (.char '[' :: (inside ++ .char ']' :: rest)) =
      .char '[' :: (inside ++ .char ']' :: strip rest) := by
    rw [strip_cons (by decide), strip_plain_append plain, strip_cons (by decide)]
  have closing : isParameter (.char ']') = false := by decide
  intro scan
  rw [shown]
  cases scan with
  | outside => rw [← shown]; rfl
  | afterEscape =>
      simp [stripFrom, stripFrom_parameters all, closing, Scan.held, strip]
  | inside parameters =>
      have release : isParameter (.char '[') = false := by decide
      have tail := strip_plain_append plain (.char ']' :: rest)
      rw [strip_cons (by decide)] at tail
      simpa [stripFrom, release, strip] using tail

theorem stripFrom_append_fresh {after : Text} (fresh : Fresh after) (scan : Scan)
    (before : Text) : stripFrom scan (before ++ after) = stripFrom scan before ++ strip after := by
  fun_induction stripFrom scan before with
  | case1 scan => exact fresh scan
  | case2 scan rest ih => rw [List.cons_append, stripFrom_escape, ih, List.append_assoc]
  | case3 symbol rest plain ih => simp [stripFrom, plain, ih]
  | case4 rest plain ih => simpa [stripFrom] using ih
  | case5 symbol rest plain bracket ih => simp [stripFrom, plain, bracket, ih]
  | case6 symbol rest plain parameters parameter ih => simp [stripFrom, plain, parameter, ih]
  | case7 rest parameters plain parameter ih => simpa [stripFrom, parameter] using ih
  | case8 symbol rest plain parameters parameter ends ih =>
      simp [stripFrom, plain, parameter, ends, ih]

theorem strip_append_fresh {after : Text} (fresh : Fresh after) (before : Text) :
    strip (before ++ after) = strip before ++ strip after :=
  stripFrom_append_fresh fresh .outside before

theorem strip_append_inert {symbol : Symbol} (inert : Inert symbol) (before rest : Text) :
    strip (before ++ symbol :: rest) = strip before ++ symbol :: strip rest := by
  rw [strip_append_fresh (fresh_inert inert rest), strip_cons inert.1]

end Fresh

section Paint

theorem sequenceOf_parameters (role : Role) :
    (∀ symbol ∈ Decimal.natural role.openingCode, isParameter symbol = true) ∧
      ∀ symbol ∈ Decimal.natural role.closingCode, isParameter symbol = true := by
  cases role <;> decide

theorem strip_opening (role : Role) (rest : Text) :
    strip (sequenceOf role.openingCode ++ rest) = strip rest := by
  simpa [sequenceOf] using strip_sequence (sequenceOf_parameters role).1 rest

theorem strip_closing (role : Role) (rest : Text) :
    strip (sequenceOf role.closingCode ++ rest) = strip rest := by
  simpa [sequenceOf] using strip_sequence (sequenceOf_parameters role).2 rest

theorem fresh_sequence (code : Nat) (rest : Text) : Fresh (sequenceOf code ++ rest) :=
  fresh_escape _

theorem fresh_token {symbol : Symbol} (inert : Inert symbol) (role : Role) (enabled : Bool)
    (more rest : Text) : Fresh (paint role enabled (symbol :: more) ++ rest) := by
  cases enabled with
  | false => exact fresh_inert inert (more ++ rest)
  | true => exact fresh_escape _

/-- A painted token that is not empty keeps what stands on both sides of it apart. -/
theorem strip_painted {text : Text} (some : text ≠ []) (role : Role) (before after : Text) :
    strip (before ++ paint role true text ++ after) =
      strip before ++ strip text ++ strip after := by
  have shape : paint role true text =
      sequenceOf role.openingCode ++ (text ++ sequenceOf role.closingCode) := by
    cases text with
    | nil => exact absurd rfl some
    | cons symbol rest => simp [paint]
  have closed : strip (text ++ (sequenceOf role.closingCode ++ after)) =
      strip text ++ strip after := by
    rw [strip_append_fresh (fresh_sequence _ after), strip_closing]
  rw [shape, List.append_assoc, List.append_assoc, List.append_assoc,
    strip_append_fresh (fresh_sequence _ _), strip_opening, closed, List.append_assoc]

theorem strip_paint_append {text : Text} (plain : escape ∉ text) (role : Role) (enabled : Bool)
    (rest : Text) : strip (paint role enabled text ++ rest) = text ++ strip rest := by
  cases text with
  | nil => simp [paint]
  | cons symbol more =>
      cases enabled with
      | false => exact strip_plain_append plain rest
      | true =>
          have kept := strip_plain_append plain []
          have split := strip_painted (List.cons_ne_nil symbol more) role [] rest
          simp only [List.append_nil, List.nil_append, strip_nil] at kept split
          rw [split, kept]

theorem strip_paint {text : Text} (plain : escape ∉ text) (role : Role) (enabled : Bool) :
    strip (paint role enabled text) = text := by
  simpa using strip_paint_append plain role enabled []

theorem strip_enclosed {opening : Text} {mark : Symbol} (plain : escape ∉ opening)
    (inert : Inert mark) (role : Role) (enabled : Bool) (raw : Text) :
    strip (paint role enabled opening ++ raw ++ paint role enabled [mark]) =
      opening ++ (strip raw ++ [mark]) := by
  have closing : escape ∉ [mark] := by simpa using Ne.symm inert.1
  have fresh := fresh_token inert role enabled [] []
  rw [List.append_nil] at fresh
  rw [List.append_assoc, strip_paint_append plain, strip_append_fresh fresh, strip_paint closing]

end Paint

section Sequences

/-- A complete sequence stands somewhere in the text. -/
def HasSequence (text : Text) : Prop :=
  ∃ before parameters after, (∀ symbol ∈ parameters, isParameter symbol = true) ∧
    text = before ++ escape :: .char '[' :: (parameters ++ .char 'm' :: after)

def Scan.Valid : Scan → Prop
  | .inside parameters => ∀ symbol ∈ parameters, isParameter symbol = true
  | _ => True

def BeginsSequence (text : Text) : Prop :=
  ∃ parameters after, (∀ symbol ∈ parameters, isParameter symbol = true) ∧
    text = escape :: .char '[' :: (parameters ++ .char 'm' :: after)

/-- Sequences are taken out from the left, each where it begins, and the search goes on
behind it. What is kept is not searched again. -/
inductive Erases : Text → Text → Prop where
  | nil : Erases [] []
  | sequence {parameters after kept : Text}
      (all : ∀ symbol ∈ parameters, isParameter symbol = true) (rest : Erases after kept) :
      Erases (escape :: .char '[' :: (parameters ++ .char 'm' :: after)) kept
  | symbol {symbol : Symbol} {after kept : Text} (absent : ¬ BeginsSequence (symbol :: after))
      (rest : Erases after kept) : Erases (symbol :: after) (symbol :: kept)

theorem stripFrom_released {scan : Scan} {text : Text} (valid : scan.Valid)
    (absent : ¬ BeginsSequence (scan.held ++ text)) :
    stripFrom scan text = scan.held ++ strip text := by
  fun_induction stripFrom scan text with
  | case1 scan => simp
  | case2 scan rest ih => rfl
  | case3 symbol rest plain ih => rw [strip_cons plain]; rfl
  | case4 rest plain ih =>
      rw [ih (by simp [Scan.Valid]) absent, strip_cons plain]
      rfl
  | case5 symbol rest plain bracket ih => rw [strip_cons plain]; rfl
  | case6 symbol rest plain parameters parameter ih =>
      have longer : (Scan.inside (symbol :: parameters)).Valid :=
        List.forall_mem_cons.mpr ⟨parameter, valid⟩
      rw [ih longer (by simpa [Scan.held] using absent), strip_cons plain]
      simp [Scan.held]
  | case7 rest parameters plain parameter ih =>
      -- A sequence comes to its end here, and it begins with what the scan holds.
      refine absurd ⟨parameters.reverse, rest, ?_, by simp [Scan.held]⟩ absent
      exact fun symbol member => valid symbol (List.mem_reverse.mp member)
  | case8 symbol rest plain parameters parameter ends ih => rw [strip_cons plain]; rfl

theorem strip_kept {symbol : Symbol} {after : Text}
    (absent : ¬ BeginsSequence (symbol :: after)) :
    strip (symbol :: after) = symbol :: strip after := by
  by_cases same : symbol = escape
  · subst same
    have begun : Scan.afterEscape.Valid := trivial
    exact stripFrom_released begun absent
  · exact strip_cons same after

theorem erases_strip (text : Text) : Erases text (strip text) := by
  induction length : text.length using Nat.strongRecOn generalizing text with
  | ind count ih =>
    cases text with
    | nil => exact .nil
    | cons symbol after =>
        by_cases begins : BeginsSequence (symbol :: after)
        · obtain ⟨parameters, rest, all, same⟩ := begins
          have shorter : rest.length < count := by
            rw [← length, same]
            simp only [List.length_cons, List.length_append]
            omega
          rw [same, strip_sequence all]
          exact .sequence all (ih _ shorter rest rfl)
        · have shorter : after.length < count := by
            rw [← length]
            exact Nat.lt_succ_self after.length
          rw [strip_kept begins]
          exact .symbol begins (ih _ shorter after rfl)

theorem hasSequence_cons_iff {symbol : Symbol} {after : Text} :
    HasSequence (symbol :: after) ↔ BeginsSequence (symbol :: after) ∨ HasSequence after := by
  constructor
  · rintro ⟨before, parameters, rest, all, same⟩
    cases before with
    | nil => exact .inl ⟨parameters, rest, all, same⟩
    | cons first more => exact .inr ⟨more, parameters, rest, all, (List.cons.inj same).2⟩
  · rintro (⟨parameters, rest, all, same⟩ | ⟨before, parameters, rest, all, rfl⟩)
    · exact ⟨[], parameters, rest, all, same⟩
    · exact ⟨symbol :: before, parameters, rest, all, rfl⟩

theorem Erases.length_le {text kept : Text} (erases : Erases text kept) :
    kept.length ≤ text.length := by
  induction erases with
  | nil => exact Nat.le_refl 0
  | sequence all rest ih =>
      simp only [List.length_cons, List.length_append]
      omega
  | symbol absent rest ih => simpa using ih

theorem Erases.length_lt {text kept : Text} (erases : Erases text kept)
    (found : HasSequence text) : kept.length < text.length := by
  induction erases with
  | nil =>
      obtain ⟨before, parameters, after, -, same⟩ := found
      simp at same
  | sequence all rest ih =>
      have within := rest.length_le
      simp only [List.length_cons, List.length_append]
      omega
  | symbol absent rest ih =>
      have later := (hasSequence_cons_iff.mp found).resolve_left absent
      simpa using ih later

theorem Erases.eq_of_absent {text kept : Text} (erases : Erases text kept)
    (absent : ¬ HasSequence text) : kept = text := by
  induction erases with
  | nil => rfl
  | sequence all rest ih => exact absurd ⟨[], _, _, all, rfl⟩ absent
  | symbol unbegun rest ih =>
      rw [ih fun found => absent (hasSequence_cons_iff.mpr (.inr found))]

/-- Stripping leaves a text as it is exactly when no sequence stands in it. -/
theorem strip_eq_self_iff (text : Text) : strip text = text ↔ ¬ HasSequence text := by
  constructor
  · intro same found
    have shorter := (erases_strip text).length_lt found
    rw [same] at shorter
    exact Nat.lt_irrefl _ shorter
  · exact (erases_strip text).eq_of_absent

end Sequences

section Lines

theorem inert_newline : Inert Text.newline := by decide

theorem strip_subset {scan : Scan} {text : Text} :
    ∀ symbol ∈ stripFrom scan text, symbol ∈ scan.held ++ text := by
  fun_induction stripFrom scan text <;> intro symbol member <;> simp_all [Scan.held] <;> grind

theorem newline_not_mem_strip {text : Text} (free : Text.newline ∉ text) :
    Text.newline ∉ strip text :=
  fun member => free (by simpa [Scan.held] using strip_subset _ member)

theorem strip_joinLines (pieces : List Text) :
    strip (Text.joinLines pieces) = Text.joinLines (pieces.map strip) := by
  induction pieces with
  | nil => rfl
  | cons first rest ih =>
      by_cases last : rest = []
      · rw [last]
        rfl
      · have mapped : rest.map strip ≠ [] := by simpa using last
        simp only [Text.joinLines] at ih ⊢
        rw [List.map_cons, Text.joinWith_cons _ _ last, Text.joinWith_cons _ _ mapped,
          List.append_assoc, List.append_assoc, List.singleton_append, List.singleton_append,
          strip_append_inert inert_newline, ih]

/-- Stripping goes line by line: no sequence runs over the end of a line. -/
theorem strip_lines (text : Text) : (Text.lines text).map strip = Text.lines (strip text) := by
  have free := Text.splitOn_free Text.newline text
  have whole : strip text = Text.joinLines ((Text.lines text).map strip) := by
    rw [← strip_joinLines, Text.joinLines, Text.lines, Text.joinWith_splitOn]
  rw [whole]
  refine (Text.splitOn_joinWith ?_ ?_).symm
  · simpa [Text.lines] using Text.splitOn_ne_nil Text.newline text
  · intro piece member
    obtain ⟨line, inside, rfl⟩ := List.mem_map.mp member
    exact newline_not_mem_strip (free line inside)

end Lines

end TreeReport.Style
