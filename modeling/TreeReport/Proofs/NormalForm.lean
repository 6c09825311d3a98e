import TreeReport.Proofs.CompactReading
import TreeReport.Proofs.WrittenIntegers

/-!
The normal form of a value, said without the way it is found: what stands for a
set are its elements in the order of their literal texts, and what stands for a
mapping has the name of each key where it first comes and the value that comes
last. There is exactly one normal form, and compact text is read back as it.
-/
namespace TreeReport

namespace Text

theorem precedes_of_not {first second : Text} (behind : precedes first second = false) :
    precedes second first = true := by
  induction first generalizing second with
  | nil => contradiction
  | cons a rest ih =>
      cases second with
      | nil => rfl
      | cons b more =>
          simp only [precedes] at behind ⊢
          by_cases below : a.code < b.code
          · simp [below] at behind
          · by_cases above : b.code < a.code
            · simp [above]
            · simp only [below, above, ↓reduceIte] at behind ⊢
              exact ih behind

theorem precedes_trans {first second third : Text} (one : precedes first second = true)
    (two : precedes second third = true) : precedes first third = true := by
  induction first generalizing second third with
  | nil => rfl
  | cons a rest ih =>
      cases second with
      | nil => contradiction
      | cons b more =>
          cases third with
          | nil => contradiction
          | cons c others =>
              simp only [precedes] at one two ⊢
              by_cases below : a.code < b.code
              · have left : ¬ c.code < b.code := by
                  intro above
                  have kept : ¬ b.code < c.code := by omega
                  simp [above, kept] at two
                have order : a.code < c.code := by omega
                simp [order]
              · have level : ¬ b.code < a.code := by
                  intro above
                  simp [above, below] at one
                have same : a.code = b.code := by omega
                simp only [below, level, ↓reduceIte] at one
                rw [same]
                by_cases next : b.code < c.code
                · simp [next]
                · by_cases above : c.code < b.code
                  · simp [above, next] at two
                  · simp only [next, above, ↓reduceIte] at two ⊢
                    exact ih one two

theorem char_code_ne (c : Char) (half : Fin 0x800) :
    (Symbol.char c).code ≠ (Symbol.surrogate half).code := by
  have valid : c.toNat < 0xD800 ∨ 0xDFFF < c.toNat ∧ c.toNat < 0x110000 := c.valid
  have inside := half.isLt
  simp only [Symbol.code, ne_eq]
  omega

theorem code_injective {first second : Symbol} (same : first.code = second.code) :
    first = second := by
  cases first with
  | char c =>
      cases second with
      | char d => exact congrArg Symbol.char (Char.ext (UInt32.toNat_inj.mp same))
      | surrogate half => exact absurd same (char_code_ne c half)
  | surrogate half =>
      cases second with
      | char d => exact absurd same.symm (char_code_ne d half)
      | surrogate other =>
          simp only [Symbol.code] at same
          congr 1
          omega

theorem precedes_antisymm {first second : Text} (one : precedes first second = true)
    (two : precedes second first = true) : first = second := by
  induction first generalizing second with
  | nil =>
      cases second with
      | nil => rfl
      | cons b more => contradiction
  | cons a rest ih =>
      cases second with
      | nil => contradiction
      | cons b more =>
          simp only [precedes] at one two
          by_cases below : a.code < b.code
          · have kept : ¬ b.code < a.code := by omega
            simp [below, kept] at two
          · by_cases above : b.code < a.code
            · simp [below, above] at one
            · simp only [below, above, ↓reduceIte] at one two
              rw [code_injective (show a.code = b.code by omega), ih one two]

end Text

section Sorting

variable {α : Type}

theorem insertByKey_sorted {item : Text × α} {items : List (Text × α)}
    (sorted : items.Pairwise fun a b => Text.precedes a.1 b.1 = true) :
    (insertByKey item items).Pairwise fun a b => Text.precedes a.1 b.1 = true := by
  induction items with
  | nil => simp [insertByKey]
  | cons other rest ih =>
      obtain ⟨below, ordered⟩ := List.pairwise_cons.mp sorted
      simp only [insertByKey]
      split
      · next first =>
          refine List.pairwise_cons.mpr ⟨?_, sorted⟩
          intro later inside
          rcases List.mem_cons.mp inside with rfl | further
          · exact first
          · exact Text.precedes_trans first (below later further)
      · next behind =>
          refine List.pairwise_cons.mpr ⟨?_, ih ordered⟩
          intro later inside
          rcases List.mem_cons.mp ((Value.insertByKey_perm item rest).mem_iff.mp inside) with
            rfl | further
          · exact Text.precedes_of_not (by simpa using behind)
          · exact below later further

theorem sortByKey_sorted (items : List (Text × α)) :
    (sortByKey items).Pairwise fun a b => Text.precedes a.1 b.1 = true := by
  induction items with
  | nil => exact List.Pairwise.nil
  | cons item rest ih => exact insertByKey_sorted ih

theorem insertByKey_filter (item : Text × α) (items : List (Text × α)) (key : Text) :
    (insertByKey item items).filter (fun other => other.1 = key) =
      (item :: items).filter (fun other => other.1 = key) := by
  induction items with
  | nil => rfl
  | cons other rest ih =>
      simp only [insertByKey]
      split
      · rfl
      · next behind =>
          have apart : item.1 = key → other.1 ≠ key := by
            intro same equal
            rw [same, equal] at behind
            have self : Text.precedes key key = true := by
              cases order : Text.precedes key key with
              | true => rfl
              | false => exact (order.symm.trans (Text.precedes_of_not order))
            exact behind self
          by_cases held : item.1 = key
          · simp [ih, held, apart held]
          · simp [List.filter_cons, ih, held]

/-- Items of one key keep their order. Different values may have one literal text. -/
theorem sortByKey_filter (items : List (Text × α)) (key : Text) :
    (sortByKey items).filter (fun other => other.1 = key) =
      items.filter (fun other => other.1 = key) := by
  induction items with
  | nil => rfl
  | cons item rest ih =>
      have step := insertByKey_filter item (sortByKey rest) key
      rw [List.filter_cons, ih] at step
      rw [List.filter_cons]
      exact step

end Sorting

section Unique

theorem mem_of_filters {α : Type} (key : α → Text) {these those : List α}
    (alike : ∀ text, these.filter (fun item => key item = text) =
      those.filter (fun item => key item = text)) {item : α} (inside : item ∈ these) :
    item ∈ those := by
  have kept : item ∈ these.filter (fun other => key other = key item) := by simp [inside]
  rw [alike] at kept
  exact (List.mem_filter.mp kept).1

/-- Two sorted lists with the same items under each key are equal. -/
theorem eq_of_sorted {α : Type} (key : α → Text) {first second : List α}
    (one : first.Pairwise fun a b => Text.precedes (key a) (key b) = true)
    (two : second.Pairwise fun a b => Text.precedes (key a) (key b) = true)
    (same : ∀ text, first.filter (fun item => key item = text) =
      second.filter (fun item => key item = text)) : first = second := by
  induction first generalizing second with
  | nil =>
      cases second with
      | nil => rfl
      | cons item rest =>
          have inside : item ∈ [] :=
            mem_of_filters key (fun text => (same text).symm) (List.mem_cons_self ..)
          contradiction
  | cons item rest ih =>
      cases second with
      | nil =>
          have inside : item ∈ [] := mem_of_filters key same (List.mem_cons_self ..)
          contradiction
      | cons other more =>
          obtain ⟨least, sorted⟩ := List.pairwise_cons.mp one
          obtain ⟨lowest, ordered⟩ := List.pairwise_cons.mp two
          have found : item ∈ other :: more :=
            mem_of_filters key same (List.mem_cons_self ..)
          have held : other ∈ item :: rest :=
            mem_of_filters key (fun text => (same text).symm) (List.mem_cons_self ..)
          -- Each head is in the other list, so neither key stands behind the other.
          have keys : key item = key other := by
            rcases List.mem_cons.mp found with equal | later
            · rw [equal]
            · rcases List.mem_cons.mp held with equal | behind
              · rw [equal]
              · exact Text.precedes_antisymm (least other behind) (lowest item later)
          have heads : item = other := by
            have front := same (key other)
            simp only [List.filter_cons, keys, decide_true, ↓reduceIte] at front
            exact (List.cons.inj front).1
          subst heads
          have tails : ∀ text, rest.filter (fun item => key item = text) =
              more.filter (fun item => key item = text) := by
            intro text
            have both := same text
            simp only [List.filter_cons] at both
            split at both
            · exact (List.cons.inj both).2
            · exact both
          rw [ih sorted ordered tails]

end Unique

namespace Json

theorem collectMembers_names (members : List (Text × Json)) :
    (collectMembers members).map Prod.fst = (members.map Prod.fst).eraseDups := by
  induction members using List.reverseRecOn with
  | nil => rfl
  | append_singleton front member ih =>
      rw [collectMembers_snoc, insertMember_names, ih, List.map_append, List.eraseDups_append]
      by_cases known : member.1 ∈ front.map Prod.fst
      · simp [known, List.removeAll]
      · simp [known, List.removeAll, List.eraseDups_cons]

theorem insertMember_find (name : Text) (value : Json) (members : List (Text × Json))
    (wanted : Text) :
    (insertMember name value members).find? (fun member => member.1 = wanted) =
      if name = wanted then some (name, value)
      else members.find? (fun member => member.1 = wanted) := by
  induction members with
  | nil =>
      by_cases found : name = wanted
      · simp [insertMember, found]
      · simp [insertMember, found]
  | cons member rest ih =>
      obtain ⟨other, old⟩ := member
      by_cases same : other = name
      · by_cases found : name = wanted
        · simp [insertMember, same, found]
        · simp [insertMember, same, found]
      · have shape : insertMember name value ((other, old) :: rest) =
            (other, old) :: insertMember name value rest := by
          simp [insertMember, same]
        rw [shape, List.find?_cons, List.find?_cons, ih]
        by_cases found : other = wanted
        · have apart : name ≠ wanted := fun equal => same (found.trans equal.symm)
          simp [found, apart]
        · simp [found]

theorem collectMembers_find (members : List (Text × Json)) (name : Text) :
    (collectMembers members).find? (fun member => member.1 = name) =
      members.reverse.find? (fun member => member.1 = name) := by
  induction members using List.reverseRecOn with
  | nil => rfl
  | append_singleton front last ih =>
      rw [collectMembers_snoc, insertMember_find, ih, List.reverse_append, List.reverse_singleton,
        List.singleton_append, List.find?_cons]
      by_cases same : last.1 = name
      · simp [← same]
      · simp [same]

theorem find_of_nodup {members : List (Text × Json)} (names : (members.map Prod.fst).Nodup)
    {member : Text × Json} (inside : member ∈ members) :
    members.find? (fun other => other.1 = member.1) = some member := by
  induction members with
  | nil => contradiction
  | cons first rest ih =>
      obtain ⟨new, others⟩ := List.nodup_cons.mp names
      rcases List.mem_cons.mp inside with rfl | later
      · simp
      · have apart : first.1 ≠ member.1 := fun same =>
          new (same ▸ List.mem_map_of_mem later)
        simp [apart, ih others later]

end Json

namespace Value

/-- The items in the order of their literal texts; equal texts keep their order. -/
def Ordered (items placed : List Value) : Prop :=
  placed.Pairwise (fun a b => Text.precedes a.literal b.literal = true) ∧
    ∀ text, placed.filter (fun item => item.literal = text) =
      items.filter (fun item => item.literal = text)

def lastNamed? (name : Text) (entries : Entries) : Option (Value × Value) :=
  entries.reverse.find? fun entry => entry.1.plain = name

/-- The document that a value comes to. -/
inductive NormalForm : Value → Json → Prop where
  | null : NormalForm .null .null
  | bool (b : Bool) : NormalForm (.bool b) (.bool b)
  | int (n : Int) : NormalForm (.int n) (.int n)
  | finite {x : Binary64} (number : x.isFinite = true) : NormalForm (.float x) (.float x)
  | infinite {x : Binary64} (none : x.isFinite = false) : NormalForm (.float x) .null
  | str (text : Text) : NormalForm (.str text) (.str text)
  | bytes (content : List UInt8) :
      NormalForm (.bytes content) (.str (plain (.bytes content)))
  | sequence (form : SequenceForm) {items : List Value} {documents : List Json}
      (count : items.length = documents.length)
      (each : ∀ pair ∈ items.zip documents, NormalForm pair.1 pair.2) :
      NormalForm (.sequence form items) (.array documents)
  | set (form : SetForm) {items placed : List Value} {documents : List Json}
      (order : Ordered items placed) (count : placed.length = documents.length)
      (each : ∀ pair ∈ placed.zip documents, NormalForm pair.1 pair.2) :
      NormalForm (.set form items) (.array documents)
  | mapping (form : MappingForm) {entries : Entries} {members : List (Text × Json)}
      (names : members.map Prod.fst = (entries.map fun entry => entry.1.plain).eraseDups)
      (each : ∀ member ∈ members, ∀ entry, lastNamed? member.1 entries = some entry →
        NormalForm entry.2 member.2) :
      NormalForm (.mapping form entries) (.object members)
  | object (label : Text) : NormalForm (.object label) (.str (plain (.object label)))
  | options (showPositions colors : Value) :
      NormalForm (.options showPositions colors) (.str (plain (.options showPositions colors)))

theorem documents_of_each {items : List Value} {documents : List Json}
    (count : items.length = documents.length)
    (each : ∀ pair ∈ items.zip documents, pair.2 = pair.1.normal) :
    documents = items.map normal := by
  induction items generalizing documents with
  | nil => exact List.length_eq_zero_iff.mp count.symm
  | cons item rest ih =>
      cases documents with
      | nil => contradiction
      | cons document more =>
          have head := each (item, document) (by simp)
          have tail := ih (Nat.succ.inj count)
            fun pair inside => each pair (List.mem_cons_of_mem _ inside)
          rw [List.map_cons, tail, ← head]

theorem sortByKey_map {α β : Type} (meaning : α → β) (items : List (Text × α)) :
    sortByKey (items.map fun item => (item.1, meaning item.2)) =
      (sortByKey items).map fun item => (item.1, meaning item.2) := by
  have inserted : ∀ (item : Text × α) (others : List (Text × α)),
      insertByKey (item.1, meaning item.2) (others.map fun item => (item.1, meaning item.2)) =
        (insertByKey item others).map fun item => (item.1, meaning item.2) := by
    intro item others
    induction others with
    | nil => rfl
    | cons other rest ih =>
        simp only [List.map_cons, insertByKey, ih]
        split
        · rfl
        · rfl
  induction items with
  | nil => rfl
  | cons item rest ih =>
      have step := inserted item (sortByKey rest)
      rw [← ih] at step
      exact step

def byLiteral (items : List Value) : List Value :=
  (sortByKey (items.map fun item => (literal item, item))).map Prod.snd

theorem sortByKey_literal (items : List Value) :
    sortByKey (items.map fun item => (literal item, item)) =
      (byLiteral items).map fun item => (literal item, item) := by
  rw [byLiteral, List.map_map]
  refine ((List.map_congr_left fun pair inside => ?_).trans (List.map_id _)).symm
  obtain ⟨item, -, rfl⟩ := List.mem_map.mp ((sortByKey_perm _).mem_iff.mp inside)
  rfl

theorem byLiteral_perm (items : List Value) : (byLiteral items).Perm items := by
  have sorted := (sortByKey_perm (items.map fun item => (literal item, item))).map Prod.snd
  rw [List.map_map] at sorted
  exact sorted.trans (.of_eq (List.map_id _))

theorem ordered_byLiteral (items : List Value) : Ordered items (byLiteral items) := by
  constructor
  · have order := sortByKey_sorted (items.map fun item => (literal item, item))
    rw [sortByKey_literal, List.pairwise_map] at order
    exact order
  · intro text
    have same := sortByKey_filter (items.map fun item => (literal item, item)) text
    rw [sortByKey_literal, List.filter_map, List.filter_map] at same
    simpa [Function.comp_def] using congrArg (List.map Prod.snd) same

theorem map_byLiteral {α : Type} (shown : Value → α) (items : List Value) :
    (sortByKey (items.map fun item => (literal item, shown item))).map Prod.snd =
      (byLiteral items).map shown := by
  have pairs : items.map (fun item => (literal item, shown item)) =
      (items.map fun item => (literal item, item)).map fun pair => (pair.1, shown pair.2) := by
    rw [List.map_map]
    rfl
  rw [pairs, sortByKey_map, sortByKey_literal, List.map_map, List.map_map]
  rfl

theorem normal_byLiteral (items : List Value) :
    (sortByKey (keyedItems items)).map Prod.snd = (byLiteral items).map normal := by
  rw [keyedItems_map, map_byLiteral]

theorem exists_ordered (items : List Value) :
    ∃ placed, Ordered items placed ∧
      (sortByKey (keyedItems items)).map Prod.snd = placed.map normal :=
  ⟨byLiteral items, ordered_byLiteral items, normal_byLiteral items⟩

/-- The members have the names of the keys where they first come, each with the
normal form of the value that comes last. -/
def Named (entries : Entries) (members : List (Text × Json)) : Prop :=
  members.map Prod.fst = (entries.map fun entry => entry.1.plain).eraseDups ∧
    ∀ member ∈ members, ∀ entry, lastNamed? member.1 entries = some entry →
      member.2 = entry.2.normal

theorem named_unique {entries : Entries} {first second : List (Text × Json)}
    (one : Named entries first) (two : Named entries second) : first = second := by
  have spelled : ∀ {members : List (Text × Json)}, Named entries members →
      members = (members.map Prod.fst).map fun name =>
        (name, ((lastNamed? name entries).map fun entry => entry.2.normal).getD .null) := by
    intro members named
    rw [List.map_map]
    refine ((List.map_congr_left fun member inside => ?_).trans (List.map_id _)).symm
    have listed : member.1 ∈ entries.map fun entry => entry.1.plain := by
      have name : member.1 ∈ members.map Prod.fst := List.mem_map_of_mem inside
      rw [named.1] at name
      exact List.mem_eraseDups.mp name
    obtain ⟨source, held, same⟩ := List.mem_map.mp listed
    cases found : lastNamed? member.1 entries with
    | none =>
        have apart := List.find?_eq_none.mp found source (List.mem_reverse.mpr held)
        exact absurd same (by simpa using apart)
    | some entry =>
        have value := named.2 member inside entry found
        simp only [Function.comp_def, found, Option.map_some, Option.getD_some, id, ← value]
  rw [spelled one, spelled two, one.1, two.1]

theorem named_collectMembers (entries : Entries) :
    Named entries (Json.collectMembers (namedMembers entries)) := by
  constructor
  · rw [Json.collectMembers_names, namedMembers_map, List.map_map]
    rfl
  · intro member inside entry found
    have kept := Json.find_of_nodup (Json.collectMembers_names_nodup _) inside
    rw [Json.collectMembers_find, namedMembers_map, ← List.map_reverse, List.find?_map] at kept
    have same : entries.reverse.find? ((fun other : Text × Json => decide (other.1 = member.1)) ∘
        fun entry : Value × Value => (entry.1.plain, entry.2.normal)) = some entry := found
    rw [same, Option.map_some] at kept
    exact (congrArg Prod.snd (Option.some.inj kept)).symm

/-- There is one normal form at most. -/
theorem NormalForm.unique {value : Value} {document : Json} (form : NormalForm value document) :
    document = value.normal := by
  induction form with
  | null | bool b | int n | str text | bytes content | object label
  | options showPositions colors => rfl
  | finite number => simp [normal, number]
  | infinite none => simp [normal, none]
  | sequence form count each ih =>
      rw [normal, normalItems_map, documents_of_each count ih]
  | @set form items placed documents order count each ih =>
      obtain ⟨sorted, alike, shape⟩ := exists_ordered items
      have same : placed = sorted := eq_of_sorted literal order.1 alike.1
        fun text => (order.2 text).trans (alike.2 text).symm
      rw [normal, shape, ← same, documents_of_each count ih]
  | @mapping form entries members names each ih =>
      rw [normal, named_unique ⟨names, ih⟩ (named_collectMembers entries)]

theorem normalForm_normal (value : Value) : NormalForm value value.normal := by
  have whole : Integers (fun _ => True) value := integers_all (fun _ => trivial) value
  have zipped : ∀ items : List Value, (∀ item ∈ items, NormalForm item item.normal) →
      ∀ pair ∈ items.zip (items.map normal), NormalForm pair.1 pair.2 := by
    intro items all pair inside
    induction items with
    | nil => contradiction
    | cons item rest ih =>
        rcases List.mem_cons.mp inside with rfl | later
        · exact all item (by simp)
        · exact ih (fun other held => all other (List.mem_cons_of_mem _ held)) later
  induction whole with
  | null => exact .null
  | bool b => exact .bool b
  | @int n allowed => exact .int n
  | float x =>
      rw [normal]
      split
      · next number => exact .finite number
      · next none => exact .infinite (by simpa using none)
  | str text => exact .str text
  | bytes content => exact .bytes content
  | @sequence form items all ih =>
      rw [normal, normalItems_map]
      exact .sequence form (by simp) (zipped items ih)
  | @set form items all ih =>
      obtain ⟨placed, order, shape⟩ := exists_ordered items
      rw [normal, shape]
      exact .set form order (by simp)
        (zipped placed fun item inside => ih item (mem_of_filters literal order.2 inside))
  | @mapping form entries keys values keysIh valuesIh =>
      obtain ⟨names, each⟩ := named_collectMembers entries
      rw [normal]
      refine .mapping form names fun member inside entry found => ?_
      rw [each member inside entry found]
      exact valuesIh entry (List.mem_reverse.mp (List.mem_of_find?_eq_some found))
  | object label => exact .object label
  | options first second firstIh secondIh => exact .options _ _

/-- A value without integers that are too long has a compact text. It is visible and is
read back as the normal form, which differs for two values exactly when their compact
texts do, and has the same text. -/
theorem compact_text_decodes {value : Value} (short : Integers Decimal.Short value) :
    ∃ document, NormalForm value document ∧
      (∀ other, NormalForm value other → other = document) ∧
      value.encode = .ok value.compactText ∧
      Text.Visible value.compactText ∧ Json.read value.compactText = .ok document ∧
      (ofJson document).compactText = value.compactText ∧
      ∀ second target, NormalForm second target →
        (value.compactText = second.compactText ↔ document = target) := by
  have proper := normal_proper short
  have nothing : Json.Stops [] := by simp [Json.Stops]
  refine ⟨value.normal, normalForm_normal value, fun other form => form.unique,
    encode_ok short.written, compactText_visible value, Json.read_compact proper, ?_, ?_⟩
  · rw [compactText, normal_ofJson proper, compactText]
  · intro second target form
    rw [form.unique]
    constructor
    · intro same
      have ends : value.normal.compact ++ [] = second.normal.compact ++ [] := by
        rw [List.append_nil, List.append_nil]
        exact same
      exact (Json.compact_cut (normal_proper_any value) _ (normal_proper_any second) [] []
        nothing nothing ends).1
    · intro same
      rw [compactText, same, compactText]

theorem compact_text_decodes_mapping :
    let value : Value := .mapping .view [(.int 1, .null),
      (.null, .set .frozen [.str "b", .str "a\x1f"]), (.str "1", .sequence .tuple [.bool true])]
    Integers Decimal.Short value ∧
      value.compactText = "\x7b\"1\":[true],\"None\":[\"a\\u001f\",\"b\"]\x7d" ∧
      Json.read value.compactText = .ok (.object [
        ("1", .array [.bool true]), ("None", .array [.str "a\x1f", .str "b"])]) := by
  intro value
  have short : Integers Decimal.Short value := by
    refine .mapping .view ?_ ?_
    · rintro entry (_ | ⟨_, _ | ⟨_, _ | ⟨_, nothing⟩⟩⟩)
      · exact .int (by decide)
      · exact .null
      · exact .str "1"
      · contradiction
    · rintro entry (_ | ⟨_, _ | ⟨_, _ | ⟨_, nothing⟩⟩⟩)
      · exact .null
      · exact .set .frozen (by simp [Integers.str])
      · exact .sequence .tuple (by simp [Integers.bool])
      · contradiction
  obtain ⟨document, form, -, -, -, read, -⟩ := compact_text_decodes short
  have shape : document = .object [
      ("1", .array [.bool true]), ("None", .array [.str "a\x1f", .str "b"])] := form.unique
  exact ⟨short, by decide, shape ▸ read⟩

end Value

end TreeReport
