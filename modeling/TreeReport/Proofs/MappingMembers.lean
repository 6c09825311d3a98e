import TreeReport.Proofs.Literals
import TreeReport.Proofs.NodeAttributes

/-!
Which entries of a mapping have a member in compact text. Keys are written as texts, and
of all entries whose keys have one text a single member is left, in the place of the
first and with the value of the last. So every entry has a member of its own as long as
no two keys have one text. Unequal keys have one text when a string spells the literal
of the other key, or when they are the same value with NaN in it.
-/
namespace TreeReport.Value

mutual

/-- The document with a member for each entry of each mapping. -/
def entrywise : Value → Json
  | .sequence _ items => .array (entrywiseItems items)
  | .set _ items => .array ((sortByKey (entrywiseElements items)).map Prod.snd)
  | .mapping _ entries => .object (entrywiseMembers entries)
  | value => value.normal
termination_by structural value => value

def entrywiseItems : List Value → List Json
  | [] => []
  | item :: rest => entrywise item :: entrywiseItems rest
termination_by structural items => items

def entrywiseElements : List Value → List (Text × Json)
  | [] => []
  | item :: rest => (literal item, entrywise item) :: entrywiseElements rest
termination_by structural items => items

def entrywiseMembers : List (Value × Value) → List (Text × Json)
  | [] => []
  | (key, value) :: rest => (plain key, entrywise value) :: entrywiseMembers rest
termination_by structural entries => entries

end

/-- A mapping with these entries stands in the value, where it is not a key. -/
inductive Within (entries : Entries) : Value → Prop where
  | here (form : MappingForm) : Within entries (.mapping form entries)
  | item (form : SequenceForm) {items : List Value} {item : Value} (inside : item ∈ items)
      (within : Within entries item) : Within entries (.sequence form items)
  | element (form : SetForm) {items : List Value} {item : Value} (inside : item ∈ items)
      (within : Within entries item) : Within entries (.set form items)
  | value (form : MappingForm) {others : Entries} {entry : Value × Value}
      (inside : entry ∈ others) (within : Within entries entry.2) :
      Within entries (.mapping form others)

def keyTexts (entries : Entries) : List Text := entries.map fun entry => entry.1.plain

section Documents

theorem entrywiseItems_map (items : List Value) : entrywiseItems items = items.map entrywise := by
  induction items with
  | nil => rfl
  | cons item rest ih => rw [entrywiseItems, ih, List.map_cons]

theorem entrywiseElements_map (items : List Value) :
    entrywiseElements items = items.map fun item => (literal item, entrywise item) := by
  induction items with
  | nil => rfl
  | cons item rest ih => rw [entrywiseElements, ih, List.map_cons]

theorem entrywiseMembers_map (entries : Entries) :
    entrywiseMembers entries = entries.map fun entry => (plain entry.1, entrywise entry.2) := by
  induction entries with
  | nil => rfl
  | cons entry rest ih =>
      obtain ⟨key, value⟩ := entry
      rw [entrywiseMembers, ih, List.map_cons]

theorem entrywise_writable (value : Value) : value.entrywise.Writable := by
  have whole : Integers (fun _ => True) value := integers_all (fun _ => trivial) value
  induction whole with
  | sequence form all ih =>
      rw [entrywise, entrywiseItems_map]
      exact .array (List.forall_mem_map.mpr ih)
  | @set form items all ih =>
      rw [entrywise, entrywiseElements_map, map_byLiteral]
      refine .array (List.forall_mem_map.mpr fun item inside => ?_)
      exact ih item ((byLiteral_perm items).mem_iff.mp inside)
  | mapping form keys values keysIh valuesIh =>
      rw [entrywise, entrywiseMembers_map]
      exact .object (List.forall_mem_map.mpr valuesIh)
  | _ => exact (normal_proper_any _).writable

section Within

variable {holds : Entries → Prop}

theorem forall_within_sequence {form : SequenceForm} {items : List Value} :
    (∀ held, Within held (.sequence form items) → holds held) ↔
      ∀ item ∈ items, ∀ held, Within held item → holds held := by
  constructor
  · exact fun all item inside held within => all held (.item form inside within)
  · rintro each held (_ | ⟨_, inside, within⟩)
    exact each _ inside held within

theorem forall_within_set {form : SetForm} {items : List Value} :
    (∀ held, Within held (.set form items) → holds held) ↔
      ∀ item ∈ items, ∀ held, Within held item → holds held := by
  constructor
  · exact fun all item inside held within => all held (.element form inside within)
  · rintro each held (_ | _ | ⟨_, inside, within⟩)
    exact each _ inside held within

theorem forall_within_mapping {form : MappingForm} {entries : Entries} :
    (∀ held, Within held (.mapping form entries) → holds held) ↔
      holds entries ∧ ∀ entry ∈ entries, ∀ held, Within held entry.2 → holds held := by
  constructor
  · intro all
    exact ⟨all entries (.here form), fun entry inside held within =>
      all held (.value form inside within)⟩
  · rintro ⟨here, each⟩ held (_ | _ | _ | ⟨_, inside, within⟩)
    · exact here
    · exact each _ inside held within

end Within

theorem names_map (shown : Value → Json) (entries : Entries) :
    (entries.map fun entry => (plain entry.1, shown entry.2)).map Prod.fst = keyTexts entries := by
  rw [List.map_map]
  rfl

/-- The names come first: only when they differ the members can be compared one by one. -/
theorem collectMembers_entrywise_iff (entries : Entries) :
    Json.collectMembers (namedMembers entries) = entrywiseMembers entries ↔
      (keyTexts entries).Nodup ∧ ∀ entry ∈ entries, entry.2.normal = entry.2.entrywise := by
  rw [namedMembers_map, entrywiseMembers_map]
  constructor
  · intro same
    have names : (keyTexts entries).Nodup := by
      rw [← names_map entrywise, ← same]
      exact Json.collectMembers_names_nodup _
    rw [Json.collectMembers_of_nodup (by rwa [names_map]), List.map_inj_left] at same
    exact ⟨names, fun entry inside => (Prod.mk.inj (same entry inside)).2⟩
  · rintro ⟨names, values⟩
    rw [Json.collectMembers_of_nodup (by rwa [names_map])]
    exact List.map_congr_left fun entry inside =>
      congrArg (entry.1.plain, ·) (values entry inside)

theorem normal_entrywise_iff (value : Value) :
    value.normal = value.entrywise ↔
      ∀ entries, Within entries value → (keyTexts entries).Nodup := by
  have whole : Integers (fun _ => True) value := integers_all (fun _ => trivial) value
  induction whole with
  | sequence form all ih =>
      rw [normal, normalItems_map, entrywise, entrywiseItems_map, Json.array.injEq,
        List.map_inj_left, forall_within_sequence]
      exact forall₂_congr ih
  | @set form items all ih =>
      have listed {item : Value} : item ∈ byLiteral items ↔ item ∈ items :=
        (byLiteral_perm items).mem_iff
      rw [normal, normal_byLiteral, entrywise, entrywiseElements_map, map_byLiteral,
        Json.array.injEq, List.map_inj_left, forall_within_set]
      simp only [listed]
      exact forall₂_congr ih
  | mapping form keys values keysIh valuesIh =>
      rw [normal, entrywise, Json.object.injEq, collectMembers_entrywise_iff,
        forall_within_mapping]
      exact and_congr_right fun _ => forall₂_congr valuesIh
  | _ => exact ⟨fun _ entries within => (by cases within), fun _ => rfl⟩

theorem compactText_entrywise_iff (value : Value) :
    value.compactText = value.entrywise.compact ↔
      ∀ entries, Within entries value → (keyTexts entries).Nodup := by
  have nothing : Json.Stops [] := by simp [Json.Stops]
  rw [← normal_entrywise_iff, compactText]
  constructor
  · intro same
    exact (Json.writable_cut (normal_proper_any value).writable _ (entrywise_writable value) [] []
      nothing nothing (congrArg (· ++ []) same)).1
  · intro same
    rw [same]

end Documents

section Keys

inductive HoldsNan : Value → Prop where
  | nan : HoldsNan (.float .nan)
  | tuple {items : List Value} {item : Value} (inside : item ∈ items) (holds : HoldsNan item) :
      HoldsNan (.sequence .tuple items)

theorem sameItems_self {items : List Value} (each : ∀ item ∈ items, item.same item = true) :
    sameItems items items = true := by
  induction items with
  | nil => rfl
  | cons item rest ih =>
      rw [sameItems, each item (by simp),
        ih fun other inside => each other (List.mem_cons_of_mem _ inside)]
      rfl

/-- Only NaN keeps a value from being equal to itself. -/
theorem same_self {value : Value} (element : Element value) (number : ¬ HoldsNan value) :
    value.same value = true := by
  induction element with
  | null => rfl
  | bool b => cases b <;> rfl
  | int n => exact beq_self_eq_true n
  | float x =>
      cases x with
      | nan => exact absurd .nan number
      | infinite negative => exact beq_self_eq_true negative
      | finite negative exponent fraction => exact beq_self_eq_true (Binary64.signed _ _)
  | str text => exact beq_self_eq_true text
  | bytes content => exact beq_self_eq_true content
  | tuple all ih =>
      exact sameItems_self fun item inside =>
        ih item inside fun holds => number (.tuple inside holds)

/-- How keys that are not equal come to have one text. -/
inductive Clash : Value → Value → Prop where
  | nan {key : Value} (holds : HoldsNan key) : Clash key key
  | spelled {key : Value} (other : ∀ text, key ≠ .str text) : Clash (.str key.literal) key
  | spells {key : Value} (other : ∀ text, key ≠ .str text) : Clash key (.str key.literal)

theorem plain_literal {key : Value} (other : ∀ text, key ≠ .str text) :
    key.plain = key.literal := by
  cases key with
  | str text => exact absurd rfl (other text)
  | _ => rfl

theorem plain_eq_iff {first second : Value} (one : Element first) (two : Element second)
    (unequal : first.same second = false) :
    first.plain = second.plain ↔ Clash first second := by
  constructor
  · intro texts
    by_cases string : ∃ text, first = .str text
    · obtain ⟨text, rfl⟩ := string
      have other : ∀ text, second ≠ .str text := by
        rintro text rfl
        exact absurd (beq_iff_eq.mpr texts) (Bool.eq_false_iff.mp unequal)
      rw [plain_literal other] at texts
      cases texts
      exact .spelled other
    · have other : ∀ text, first ≠ .str text := fun text same => string ⟨text, same⟩
      rw [plain_literal other] at texts
      by_cases string : ∃ text, second = .str text
      · obtain ⟨text, rfl⟩ := string
        cases texts
        exact .spells other
      · rw [plain_literal fun text same => string ⟨text, same⟩] at texts
        obtain rfl := literal_injective one two texts
        refine .nan (by_contra fun number => ?_)
        exact absurd (same_self one number) (Bool.eq_false_iff.mp unequal)
  · intro clash
    cases clash with
    | nan holds => rfl
    | spelled other => exact (plain_literal other).symm
    | spells other => exact plain_literal other

theorem keyTexts_nodup_iff {entries : Entries} (elements : ∀ entry ∈ entries, Element entry.1)
    (distinct : entries.Distinct) :
    (keyTexts entries).Nodup ↔
      entries.Pairwise fun first second => ¬ Clash first.1 second.1 := by
  rw [keyTexts, List.Nodup, List.pairwise_map]
  constructor
  · intro apart
    exact (distinct.and apart).imp_of_mem fun inside listed ⟨unequal, texts⟩ clash =>
      texts ((plain_eq_iff (elements _ inside) (elements _ listed) unequal).mpr clash)
  · intro apart
    exact (distinct.and apart).imp_of_mem fun inside listed ⟨unequal, clash⟩ texts =>
      clash ((plain_eq_iff (elements _ inside) (elements _ listed) unequal).mp texts)

end Keys

/-- Keys as a dictionary can hold them together. -/
def ApartKeys (entries : Entries) : Prop :=
  (∀ entry ∈ entries, Element entry.1) ∧ entries.Distinct

/-- Every entry of every mapping has its member exactly when no integer is too long to be
written and no two keys of a mapping clash. The members of a mapping always have the names
of its keys where they first come, each with the value that comes last. -/
theorem every_entry_written_iff {value : Value}
    (keys : ∀ entries, Within entries value → ApartKeys entries) :
    (value.encode = .ok value.entrywise.compact ↔
      (∀ n ∈ value.written, Decimal.Short n) ∧ ∀ entries, Within entries value →
        entries.Pairwise fun first second => ¬ Clash first.1 second.1) ∧
    ((∃ n ∈ value.written, ¬ Decimal.Short n) → value.encode = .error ⟨⟩) ∧
    ∀ form entries shown, (Value.mapping form entries).encode = .ok shown →
      ∃ members, shown = (Json.object members).compact ∧ Named entries members := by
  refine ⟨?_, Decimal.write_error, ?_⟩
  · rw [encode, Decimal.write_eq_ok_iff, eq_comm, compactText_entrywise_iff]
    refine and_congr_right fun _ => forall_congr' fun entries => forall_congr' fun within => ?_
    obtain ⟨elements, distinct⟩ := keys entries within
    exact keyTexts_nodup_iff elements distinct
  · intro form entries shown encoded
    obtain ⟨-, rfl⟩ := Decimal.write_eq_ok_iff.mp encoded
    exact ⟨_, by rw [compactText, normal], named_collectMembers entries⟩

theorem every_entry_written_nested :
    let inner : Entries := [(.str "1", .bool true), (.float .nan, .int 2)]
    let entries : Entries := [(.int 1, .null), (.null, .mapping .dictionary inner)]
    let value : Value := .sequence .list [.mapping .view entries]
    (∀ held, Within held value → ApartKeys held) ∧
      value.encode = .ok value.entrywise.compact ∧
      value.encode = .ok "[\x7b\"1\":null,\"None\":\x7b\"1\":true,\"nan\":2\x7d\x7d]" := by
  intro inner entries value
  have each {holds : Entries → Prop} (outside : holds entries) (inside : holds inner) :
      ∀ held, Within held value → holds held := by
    rw [forall_within_sequence, List.forall_mem_singleton, forall_within_mapping]
    refine ⟨outside, List.forall_mem_cons.mpr ⟨nofun, List.forall_mem_singleton.mpr ?_⟩⟩
    rw [forall_within_mapping]
    exact ⟨inside, List.forall_mem_cons.mpr ⟨nofun, List.forall_mem_singleton.mpr nofun⟩⟩
  have outer : ApartKeys entries := ⟨by simp [entries, Element.int, Element.null], by decide⟩
  have deeper : ApartKeys inner := ⟨by simp [inner, Element.str, Element.float], by decide⟩
  have apart : ∀ held, Within held value →
      held.Pairwise fun first second => ¬ Clash first.1 second.1 :=
    each ((keyTexts_nodup_iff outer.1 outer.2).mp (by decide))
      ((keyTexts_nodup_iff deeper.1 deeper.2).mp (by decide))
  have keys := each outer deeper
  have short : ∀ n ∈ value.written, Decimal.Short n := by decide
  exact ⟨keys, (every_entry_written_iff keys).1.mpr ⟨short, apart⟩, by decide⟩

/-- The entry under the number is lost, and its value comes first instead of last. -/
theorem number_clashes_with_text :
    let entries : Entries := [(.str "1", .str "a"), (.str "b", .null), (.int 1, .str "c")]
    let value : Value := .mapping .dictionary entries
    (∀ held, Within held value → ApartKeys held) ∧
      value.encode ≠ .ok value.entrywise.compact ∧
      value.entrywise.compact = "\x7b\"1\":\"a\",\"b\":null,\"1\":\"c\"\x7d" ∧
      value.encode = .ok "\x7b\"1\":\"c\",\"b\":null\x7d" := by
  intro entries value
  have keys : ApartKeys entries := ⟨by simp [entries, Element.int, Element.str], by decide⟩
  refine ⟨forall_within_mapping.mpr ⟨keys, ?_⟩, by decide, by decide, by decide⟩
  simp only [entries, List.forall_mem_cons]
  exact ⟨nofun, nofun, nofun, nofun⟩

end TreeReport.Value
