import TreeReport.Logging.Format

/-!
Formats that show every record. Such a format is made of text, in which percent
signs are doubled, and of the named parts of a record, each shown as it is. Its text
for a record is the text with the parts put in.
-/
namespace TreeReport.Logging.Format

inductive Piece where
  | literal (text : Text)
  | field (name : Text)
  deriving DecidableEq, Repr

def escaped (text : Text) : Text :=
  text.flatMap fun symbol => if symbol = .char '%' then [symbol, symbol] else [symbol]

def fieldText (name : Text) : Text := ("%(" : Text) ++ name ++ (")s" : Text)

def Piece.source : Piece → Text
  | .literal text => escaped text
  | .field name => fieldText name

def plain (pieces : List Piece) : Text := (pieces.map Piece.source).flatten

def partNames : List Text := [
  "name", "msg", "args", "levelname", "levelno", "pathname", "filename", "module", "exc_info",
  "exc_text", "stack_info", "lineno", "funcName", "created", "msecs", "relativeCreated", "thread",
  "threadName", "processName", "process", "message"]

def timeName : Text := "asctime"

def Piece.isKnown : Piece → Bool
  | .literal _ => true
  | .field name => (timeName :: partNames).contains name

def Piece.shown (entries : Entries) : Piece → Text
  | .literal text => text
  | .field name => ((entries.get? name).map Value.plain).getD []

section Filling

variable {entries : Entries}

theorem fill?_cons (reader : Reader) (symbol : Symbol) (rest : Text) :
    reader.fill? entries (symbol :: rest) =
      (reader.step? entries symbol).bind fun (text, next) =>
        (next.fill? entries rest).map (text ++ ·) := rfl

theorem fill?_escaped (text : Text) (fresh : Bool) (rest : Text) :
    Reader.fill? entries ⟨.literal, fresh⟩ (escaped text ++ rest) =
      (Reader.fill? entries ⟨.literal, fresh⟩ rest).map (text ++ ·) := by
  induction text with
  | nil => simp [escaped]
  | cons symbol text ih =>
      by_cases percent : symbol = .char '%'
      · rw [percent]
        have doubled : escaped (.char '%' :: text) = .char '%' :: .char '%' :: escaped text := by
          simp [escaped]
        simp [doubled, fill?_cons, Reader.step?, ih, Function.comp_def]
      · have single : escaped (symbol :: text) = symbol :: escaped text := by
          simp [escaped, percent]
        simp [single, fill?_cons, Reader.step?, ih, percent, Function.comp_def]

theorem fill?_name {name : Text} (opening : .char '(' ∉ name) (closing : .char ')' ∉ name)
    (done : Text) (fresh : Bool) (rest : Text) :
    Reader.fill? entries ⟨.key 0 done, fresh⟩ (name ++ .char ')' :: rest) =
      (entries.get? (done ++ name)).bind fun value =>
        Reader.fill? entries ⟨.within value {} .flags, false⟩ rest := by
  induction name generalizing done with
  | nil => cases found : entries.get? done <;> simp [fill?_cons, Reader.step?, found]
  | cons symbol name ih =>
      simp only [List.mem_cons, not_or] at opening closing
      have next := ih opening.2 closing.2 (done ++ [symbol])
      simp [fill?_cons, Reader.step?, Ne.symm opening.1, Ne.symm closing.1, next]

theorem convert?_plain (value : Value) :
    Reader.convert? value {} .flags (.char 's') = some (value.plain, ⟨.literal, false⟩) := by
  have final : refine? {} .flags (.char 's') = none := by decide
  have shown : fillText {} value.plain = value.plain := by
    simp [fillText, fill, Text.spaces]
  simp [Reader.convert?, final, convert?, shown]

theorem fill?_field {name : Text} {value : Value} (found : entries.get? name = some value)
    (opening : .char '(' ∉ name) (closing : .char ')' ∉ name) (fresh : Bool) (rest : Text) :
    Reader.fill? entries ⟨.literal, fresh⟩ (fieldText name ++ rest) =
      (Reader.fill? entries ⟨.literal, false⟩ rest).map (value.plain ++ ·) := by
  have source : fieldText name ++ rest =
      .char '%' :: .char '(' :: (name ++ .char ')' :: .char 's' :: rest) := by
    simp [fieldText, Text.ofString]
  rw [source, fill?_cons]
  simp [Reader.step?, fill?_cons, fill?_name opening closing, found, convert?_plain,
    Function.comp_def]

theorem known_clean {name : Text} (known : Piece.isKnown (.field name) = true) :
    .char '(' ∉ name ∧ .char ')' ∉ name := by
  have clean : ∀ name ∈ timeName :: partNames, .char '(' ∉ name ∧ .char ')' ∉ name := by decide
  exact clean name (List.contains_iff_mem.mp known)

theorem fill?_plain {pieces : List Piece} (known : ∀ piece ∈ pieces, piece.isKnown = true)
    (found : ∀ name, .field name ∈ pieces → ∃ value, entries.get? name = some value)
    (fresh : Bool) :
    Reader.fill? entries ⟨.literal, fresh⟩ (plain pieces) =
      some ((pieces.map (Piece.shown entries)).flatten) := by
  induction pieces generalizing fresh with
  | nil => rfl
  | cons piece rest ih =>
      have remaining := ih (fun other member => known other (List.mem_cons_of_mem piece member))
        (fun name member => found name (List.mem_cons_of_mem piece member))
      have split : plain (piece :: rest) = piece.source ++ plain rest := rfl
      cases piece with
      | literal text => simp [split, Piece.source, fill?_escaped, remaining, Piece.shown]
      | field name =>
          obtain ⟨value, here⟩ := found name List.mem_cons_self
          obtain ⟨opening, closing⟩ := known_clean (known _ List.mem_cons_self)
          simp [split, Piece.source, fill?_field here opening closing, remaining, Piece.shown, here]

end Filling

section Parts

theorem get?_append (first second : Entries) (name : Text) :
    (first ++ second).get? name = (first.get? name).or (second.get? name) := by
  induction first with
  | nil => rfl
  | cons entry rest ih =>
      obtain ⟨key, value⟩ := entry
      simp only [List.cons_append, Entries.get?]
      split
      · rfl
      · exact ih

theorem get?_of_name {entries : Entries} {name : Text}
    (named : .str name ∈ entries.map Prod.fst) : ∃ value, entries.get? name = some value := by
  induction entries with
  | nil => cases named
  | cons entry rest ih =>
      obtain ⟨key, value⟩ := entry
      simp only [List.map_cons, List.mem_cons] at named
      rcases named with rfl | later
      · exact ⟨value, by simp [Entries.get?, Value.isText]⟩
      · simp only [Entries.get?]
        split
        · exact ⟨value, rfl⟩
        · exact ih later

variable {record : Record} {origin : Origin}

theorem parts_timed (time : Text) :
    parts record origin (some time) =
      parts record origin none ++ [(.str timeName, .str time)] := by
  simp [parts, timeName]

theorem parts_names :
    (parts record origin none).map Prod.fst = partNames.map Value.str := by
  simp [parts, partNames]

theorem parts_found {name : Text} (known : name ∈ partNames) :
    ∃ value, (parts record origin none).get? name = some value := by
  apply get?_of_name
  rw [parts_names]
  exact List.mem_map_of_mem known

theorem timed_found {name : Text} (known : Piece.isKnown (.field name) = true) (time : Text) :
    ∃ value, (parts record origin (some time)).get? name = some value := by
  apply get?_of_name
  rw [parts_timed, List.map_append, parts_names]
  rcases List.mem_cons.mp (List.contains_iff_mem.mp known) with rfl | member
  · simp
  · exact List.mem_append_left _ (List.mem_map_of_mem member)

/-- But for the time itself, the time changes no part. -/
theorem untimed_get? {name : Text} (member : name ∈ partNames) (time : Text) :
    (parts record origin none).get? name = (parts record origin (some time)).get? name := by
  obtain ⟨value, found⟩ : ∃ value, (parts record origin none).get? name = some value :=
    parts_found member
  rw [parts_timed, get?_append, found, Option.some_or]

end Parts

section Time

theorem usesTime_append (first : Text) {rest : Text} (timed : usesTime rest = true) :
    usesTime (first ++ rest) = true := by
  induction first with
  | nil => exact timed
  | cons symbol first ih => simp [usesTime, ih]

theorem usesTime_field (rest : Text) : usesTime (fieldText timeName ++ rest) = true := by
  have opening : fieldText timeName ++ rest = ("%(asctime)" : Text) ++ .char 's' :: rest := by
    simp [fieldText, timeName, Text.ofString]
  have first : Text.startsWith "%(asctime)" (fieldText timeName ++ rest) = true := by
    rw [opening, Text.startsWith, List.isPrefixOf_iff_prefix]
    exact List.prefix_append _ _
  cases shape : fieldText timeName ++ rest with
  | nil => simp [fieldText, Text.ofString] at shape
  | cons symbol others =>
      rw [shape] at first
      simp [usesTime, first]

theorem usesTime_plain {pieces : List Piece} (member : .field timeName ∈ pieces) :
    usesTime (plain pieces) = true := by
  obtain ⟨before, after, rfl⟩ := List.append_of_mem member
  have split : plain (before ++ .field timeName :: after) =
      plain before ++ (fieldText timeName ++ plain after) := by
    simp [plain, Piece.source]
  rw [split]
  exact usesTime_append _ (usesTime_field _)

end Time

/-- A plain format with known names has a text for every record, if the time can be
shown: its own text with the named parts put in. -/
theorem recordText?_plain {pieces : List Piece} (known : ∀ piece ∈ pieces, piece.isKnown = true)
    {pattern : Value} {origin : Origin} {time : Text}
    (timely : timeText? pattern origin.created = some time) (record : Record) :
    recordText? (plain pieces) pattern record origin =
      some ((pieces.map (Piece.shown (parts record origin (some time)))).flatten) := by
  cases timed : usesTime (plain pieces) with
  | true =>
      simp only [recordText?, timed, if_true, timely]
      exact fill?_plain known (fun name member => timed_found (known _ member) time) true
  | false =>
      -- The time is left out only where no piece asks for it.
      have untimed : ∀ name, .field name ∈ pieces → name ∈ partNames := by
        intro name member
        rcases List.mem_cons.mp (List.contains_iff_mem.mp (known _ member)) with rfl | found
        · simp [usesTime_plain member] at timed
        · exact found
      have same : pieces.map (Piece.shown (parts record origin none)) =
          pieces.map (Piece.shown (parts record origin (some time))) := by
        apply List.map_congr_left
        intro piece member
        cases piece with
        | literal text => rfl
        | field name => rw [Piece.shown, Piece.shown, untimed_get? (untimed name member) time]
      simp only [recordText?, timed]
      rw [← same]
      exact fill?_plain known (fun name member => parts_found (untimed name member)) true

example : plain [.field "levelname", .literal " | ", .field "message"] =
    "%(levelname)s | %(message)s" := by decide

end TreeReport.Logging.Format
