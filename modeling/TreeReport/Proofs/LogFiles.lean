import Mathlib.Data.List.Induction
import TreeReport.Logging.Rotation

/-!
What log files hold. Every operation on a storage but the delivery of a line only
moves contents from path to path or drops them. A delivered line stands at the end
of its file. So whatever is rotated, each file holds lines in the order in which
they were delivered.
-/
namespace TreeReport

namespace Storage

/-- Each file of the later storage holds nothing, or what one of the earlier held. -/
def Rearranged (before after : Storage) : Prop :=
  ∀ path, after.content path = [] ∨ ∃ source, after.content path = before.content source

section Contents

variable {storage : Storage} {path other : Path}

theorem content_append_of_ne (apart : other ≠ path) (bytes : List UInt8) :
    (storage.append path bytes).content other = storage.content other := by
  rw [append, content, get?_put_of_ne apart, content]

theorem content_put_directory_self : (storage.put path .directory).content path = [] := by
  rw [content, get?_put_self]

theorem content_put_directory_of_ne (apart : other ≠ path) :
    (storage.put path .directory).content other = storage.content other := by
  rw [content, get?_put_of_ne apart, content]

theorem content_remove_self : (storage.remove path).content path = [] := by
  rw [content, get?_remove_self]

theorem content_remove_of_ne (apart : other ≠ path) :
    (storage.remove path).content other = storage.content other := by
  rw [content, get?_remove_of_ne apart, content]

end Contents

theorem content_of_missing {storage : Storage} {path : Path}
    (missing : storage.get? path = none) : storage.content path = [] := by
  rw [content, missing]

section Renaming

variable {storage : Storage} {source target path origin : Path} {entry : Entry}

theorem get?_repath_some {change : Path → Path}
    (found : (storage.repath change).get? path = some entry) :
    ∃ origin, change origin = path ∧ storage.get? origin = some entry := by
  induction storage with
  | nil => cases found
  | cons named rest ih =>
      obtain ⟨name, held⟩ := named
      simp only [repath, List.map_cons, get?] at found
      split at found
      · next here => exact ⟨name, here, by simpa [get?] using found⟩
      · next apart =>
          obtain ⟨origin, same, deep⟩ := ih found
          refine ⟨origin, same, ?_⟩
          rw [get?, if_neg, deep]
          rintro rfl
          exact apart same

theorem get?_repath_of_unique {change : Path → Path}
    (unique : ∀ named ∈ storage, change named.1 = path ↔ named.1 = origin) :
    (storage.repath change).get? path = storage.get? origin := by
  induction storage with
  | nil => rfl
  | cons named rest ih =>
      have here := unique named List.mem_cons_self
      have later := ih fun other member => unique other (List.mem_cons_of_mem named member)
      rw [repath] at later
      simp only [repath, List.map_cons, get?, here, later]

theorem moved_source (source target : Path) : moved source target source = target := by
  simp [moved]

theorem moved_eq_iff (apart : path ≠ target) (level : path.length ≤ target.length)
    {other : Path} : moved source target other = path ↔ other = path ∧ ¬ source <+: path := by
  unfold moved
  split
  · next below =>
      rw [List.isPrefixOf_iff_prefix] at below
      constructor
      · intro same
        have into : target <+: path := ⟨_, same⟩
        exact absurd (into.eq_of_length_le level).symm apart
      · rintro ⟨rfl, outside⟩
        exact absurd below outside
  · next outside =>
      rw [List.isPrefixOf_iff_prefix] at outside
      constructor
      · rintro rfl
        exact ⟨rfl, outside⟩
      · exact And.left

theorem get?_relocate_target :
    (storage.relocate source target).get? target = (storage.remove target).get? source := by
  apply get?_repath_of_unique
  intro named member
  have apart : named.1 ≠ target := by simpa [Storage.remove] using (List.mem_filter.mp member).2
  constructor
  · intro same
    unfold moved at same
    split at same
    · next below =>
        obtain ⟨more, shape⟩ := List.isPrefixOf_iff_prefix.mp below
        rw [← shape, List.drop_left, List.append_right_eq_self] at same
        rw [← shape, same, List.append_nil]
    · exact absurd same apart
  · intro same
    rw [same, moved_source]

theorem get?_relocate_source (apart : source ≠ target) (level : source.length ≤ target.length) :
    (storage.relocate source target).get? source = none := by
  rw [Option.eq_none_iff_forall_ne_some]
  intro entry found
  obtain ⟨origin, same, -⟩ := get?_repath_some found
  exact ((moved_eq_iff apart level).mp same).2 (List.prefix_refl source)

theorem get?_relocate_of_ne (first : path ≠ source) (last : path ≠ target)
    (above : path.length ≤ source.length) (level : path.length ≤ target.length) :
    (storage.relocate source target).get? path = storage.get? path := by
  have outside : ¬ source <+: path := by
    intro below
    exact first (below.eq_of_length_le above).symm
  have unique : ∀ named ∈ storage.remove target,
      moved source target named.1 = path ↔ named.1 = path := by
    intro named member
    rw [moved_eq_iff last level]
    exact ⟨And.left, fun same => ⟨same, outside⟩⟩
  exact (get?_repath_of_unique unique).trans (get?_remove_of_ne last storage)

/-- Renaming moves what is at its source, if there is anything, and has no other way to
succeed. -/
theorem rename_ok {after : Storage} (success : storage.rename source target = .ok after) :
    storage.holds source = false ∧ after = storage ∨
      storage.holds source = true ∧ takes target = true ∧
        after = storage.relocate source target := by
  unfold rename at success
  split at success
  · next missing => exact .inl ⟨by simpa using missing, (Except.ok.inj success).symm⟩
  · next there =>
      split at success
      · cases success
      · split at success
        · cases success
        · next room =>
            exact .inr ⟨by simpa using there, by simpa using room, (Except.ok.inj success).symm⟩

end Renaming

section Making

variable {storage made : Storage} {path : Path}

theorem makeDirectory_ok (success : storage.makeDirectory path = .ok made) :
    made = storage.put (onDisk path) .directory := by
  unfold makeDirectory at success
  split at success
  · cases success
  · split at success
    · cases success
    · split at success
      · cases success
      · split at success
        · cases success
        · split at success
          · cases success
          · split at success
            · cases success
            · exact (Except.ok.inj success).symm

/-- What every single directory keeps, a row of them keeps, whether it is completed or not. -/
theorem makeDirectories_keeps (property : Storage → Prop)
    (step : ∀ {storage made : Storage} {path : Path}, property storage →
      storage.makeDirectory path = .ok made → property made)
    (holds : property storage) (names : List Text) :
    property (storage.makeDirectories names).1 := by
  induction names with
  | nil => exact holds
  | cons name parents ih =>
      have above : property (if storage.holds (onDisk parents.reverse) then (storage, none)
          else storage.makeDirectories parents).1 := by
        split
        · exact holds
        · exact ih
      unfold makeDirectories
      revert above
      generalize (if storage.holds (onDisk parents.reverse) then (storage, none)
        else storage.makeDirectories parents) = result
      obtain ⟨reached, failed⟩ := result
      intro above
      cases failed with
      | some obstacle => exact above
      | none =>
          cases last : makeDirectory reached (parents.reverse ++ [name]) with
          | ok made => simpa only [last] using step above last
          | error obstacle => cases obstacle <;> simpa only [last] using above

theorem openForAppend_ok {opened : Storage} (success : storage.openForAppend path = .ok opened) :
    path ≠ [] ∧ opened = storage.append (onDisk path) [] := by
  unfold openForAppend at success
  split at success
  · cases success
  · split at success
    · cases success
    · split at success
      · cases success
      · next plain =>
          split at success
          · cases success
          · refine ⟨?_, (Except.ok.inj success).symm⟩
            rintro rfl
            exact plain rfl

end Making

section Lookup

variable {path : Path}

def FitsPath : Symbol → Prop
  | .char c => c ≠ '\x00'
  | .surrogate half => (Utf8.escapedByte? half).isSome = true

theorem unencodableName?_eq_none (position : Nat) (text : Text) :
    Utf8.unencodableName? position text = none ↔
      ∀ half, .surrogate half ∈ text → (Utf8.escapedByte? half).isSome = true := by
  induction text generalizing position with
  | nil => simp [Utf8.unencodableName?]
  | cons symbol rest ih =>
      cases symbol with
      | char c => simp [Utf8.unencodableName?, ih]
      | surrogate half =>
          cases stands : Utf8.escapedByte? half with
          | none => simp [Utf8.unencodableName?, stands]
          | some byte => simp [Utf8.unencodableName?, ih, stands]

theorem badPath?_eq_none {text : Text} :
    badPath? text = none ↔ ∀ symbol ∈ text, FitsPath symbol := by
  have clean : badPath? text = none ↔
      Utf8.unencodableName? 0 text = none ∧ .char '\x00' ∉ text := by
    unfold badPath?
    cases Utf8.unencodableName? 0 text with
    | some fault => simp
    | none => simp
  rw [clean, unencodableName?_eq_none]
  constructor
  · rintro ⟨encodable, free⟩ (c | half) member
    · rintro rfl
      exact free member
    · exact encodable half member
  · intro fits
    exact ⟨fun half member => fits _ member, fun member => fits _ member rfl⟩

theorem badPath?_of_subset {names : Path} (subset : names ⊆ path)
    (clean : badPath? (pathText path) = none) : badPath? (pathText names) = none := by
  rw [badPath?_eq_none] at clean ⊢
  intro symbol member
  rcases List.mem_cons.mp member with rfl | inside
  · exact clean _ List.mem_cons_self
  · rcases Text.mem_joinWith inside with slash | ⟨name, listed, here⟩
    · rw [List.mem_singleton.mp slash]
      exact clean _ List.mem_cons_self
    · exact clean symbol (List.mem_cons_of_mem _ (Text.subset_joinWith (subset listed) here))

theorem badPath?_dropLast (clean : badPath? (pathText path) = none) :
    badPath? (pathText path.dropLast) = none :=
  badPath?_of_subset (List.dropLast_subset path) clean

theorem makeDirectory_lookup (clean : badPath? (pathText path) = none) (storage : Storage)
    (bad : BadPath) : storage.makeDirectory path ≠ .error (.bad bad) := by
  unfold makeDirectory
  simp only [clean]
  split
  · simp
  · split
    · simp
    · split
      · simp
      · split
        · simp
        · split <;> simp

theorem makeDirectories_lookup (clean : badPath? (pathText path) = none) (storage : Storage)
    (bad : BadPath) : (storage.makeDirectories path.reverse).2 ≠ some (.bad bad) := by
  induction path using List.reverseRecOn with
  | nil => simp [makeDirectories]
  | append_singleton parents name ih =>
      have shorter := ih (badPath?_of_subset (List.subset_append_left parents [name]) clean)
      have above : (if storage.holds (onDisk parents) then (storage, none)
          else storage.makeDirectories parents.reverse).2 ≠ some (.bad bad) := by
        split
        · simp
        · exact shorter
      rw [List.reverse_append, List.reverse_singleton, List.singleton_append]
      unfold makeDirectories
      rw [List.reverse_reverse]
      generalize (if storage.holds (onDisk parents) then (storage, none)
        else storage.makeDirectories parents.reverse) = result at above ⊢
      obtain ⟨reached, failed⟩ := result
      cases failed with
      | some obstacle => exact above
      | none =>
          dsimp only
          cases last : makeDirectory reached (parents ++ [name]) with
          | ok made => simp
          | error obstacle =>
              cases obstacle with
              | bad other => exact absurd last (makeDirectory_lookup clean reached other)
              | refused fault =>
                  dsimp only
                  split <;> simp

theorem openForAppend_lookup (clean : badPath? (pathText path) = none) (storage : Storage)
    (bad : BadPath) : storage.openForAppend path ≠ .error (.bad bad) := by
  unfold openForAppend
  simp only [clean]
  split
  · simp
  · split
    · simp
    · split <;> simp

end Lookup

namespace Rearranged

variable {first middle last : Storage}

theorem refl (storage : Storage) : Rearranged storage storage :=
  fun path => .inr ⟨path, rfl⟩

theorem trans (begun : Rearranged first middle) (ended : Rearranged middle last) :
    Rearranged first last := by
  intro path
  rcases ended path with empty | ⟨source, moved⟩
  · exact .inl empty
  · rcases begun source with empty | ⟨origin, held⟩
    · exact .inl (by rw [moved, empty])
    · exact .inr ⟨origin, by rw [moved, held]⟩

theorem append_nothing (storage : Storage) (path : Path) :
    Rearranged storage (storage.append path []) := by
  intro other
  by_cases same : other = path
  · rw [same, content_append_self, List.append_nil]
    exact .inr ⟨path, rfl⟩
  · exact .inr ⟨other, content_append_of_ne same []⟩

theorem put_directory (storage : Storage) (path : Path) :
    Rearranged storage (storage.put path .directory) := by
  intro other
  by_cases same : other = path
  · rw [same]
    exact .inl content_put_directory_self
  · exact .inr ⟨other, content_put_directory_of_ne same⟩

theorem remove (storage : Storage) (path : Path) : Rearranged storage (storage.remove path) := by
  intro other
  by_cases same : other = path
  · rw [same]
    exact .inl content_remove_self
  · exact .inr ⟨other, content_remove_of_ne same⟩

theorem relocate (storage : Storage) (source target : Path) :
    Rearranged storage (storage.relocate source target) := by
  intro path
  cases found : (storage.relocate source target).get? path with
  | none => exact .inl (content_of_missing found)
  | some entry =>
      obtain ⟨origin, -, held⟩ := get?_repath_some found
      have kept : origin ≠ target := by
        rintro rfl
        rw [get?_remove_self] at held
        cases held
      rw [get?_remove_of_ne kept] at held
      exact .inr ⟨origin, by rw [content, content, found, held]⟩

theorem rename {storage after : Storage} {source target : Path}
    (success : storage.rename source target = .ok after) : Rearranged storage after := by
  rcases rename_ok success with ⟨-, rfl⟩ | ⟨-, -, rfl⟩
  · exact refl after
  · exact relocate storage source target

theorem makeDirectory {storage made : Storage} {path : Path}
    (success : storage.makeDirectory path = .ok made) : Rearranged storage made := by
  rw [makeDirectory_ok success]
  exact put_directory storage (onDisk path)

theorem makeDirectories (storage : Storage) (names : List Text) :
    Rearranged storage (storage.makeDirectories names).1 :=
  makeDirectories_keeps (Rearranged storage)
    (fun reached success => reached.trans (makeDirectory success)) (refl storage) names

theorem openForAppend {storage opened : Storage} {path : Path}
    (success : storage.openForAppend path = .ok opened) : Rearranged storage opened := by
  rw [(openForAppend_ok success).2]
  exact append_nothing storage (onDisk path)

end Rearranged

end Storage

namespace Logging.RotatingFile

open Storage

theorem shiftBackups_rearranged (path : Path) (count : Nat) (storage : Storage) :
    Rearranged storage (shiftBackups path count storage).1 := by
  induction count generalizing storage with
  | zero => exact .refl storage
  | succ number ih =>
      rw [shiftBackups]
      split
      · exact .refl storage
      · next moved success => exact (Rearranged.rename success).trans (ih moved)

theorem rollOver_rearranged (file : RotatingFile) (storage : Storage) :
    Rearranged storage (file.rollOver storage).1 := by
  unfold rollOver
  split
  · exact .refl storage
  · next kept _ =>
      split
      · exact .refl storage
      · split
        · exact .refl storage
        · have shifts := shiftBackups_rearranged file.path kept storage
          split
          · next shifted cause came => simpa only [came] using shifts
          · next shifted came =>
              rw [came] at shifts
              split
              · exact shifts
              · next moved success =>
                  exact (shifts.trans (.rename success)).trans (.append_nothing _ _)

theorem prepare_rearranged (file : RotatingFile) (line : Text) (storage : Storage) :
    Rearranged storage (file.prepare line storage).1 := by
  unfold prepare
  split
  · exact file.rollOver_rearranged storage
  · exact .refl storage

theorem backup_ne (path : Path) (number : Nat) : path ≠ backup path number := by
  intro same
  rcases path.eq_nil_or_concat with rfl | ⟨names, name, rfl⟩
  · simp [backup] at same
  · simp [backup] at same

theorem length_backup (path : Path) (number : Nat) :
    (backup path number).length = path.length - 1 + 1 := by
  simp [backup]

theorem rollOver_without_backups {file : RotatingFile} (bare : file.backupCount ≤ 0)
    (storage : Storage) : file.rollOver storage = (storage, none) := by
  have count : file.backupCount.toNat = 0 := by omega
  simp only [rollOver, count]

def kept (file : RotatingFile) (line : Text) (storage : Storage) : List UInt8 :=
  if file.isDue line storage ∧ 0 < file.backupCount then [] else storage.content file.path

/-- A line is either put behind what the file still holds, or lost. -/
theorem deliver_cases (file : RotatingFile) (line : Text) (storage : Storage) :
    (∃ ready, file.prepare line storage = (ready, none) ∧ Utf8.unencodable? 0 line = none ∧
      file.deliver line storage = (ready.append file.path (Utf8.encode line), none)) ∨
    ∃ loss, file.deliver line storage = ((file.prepare line storage).1, some loss) := by
  unfold deliver
  split
  · next reached fault came => exact .inr ⟨_, by rw [came]⟩
  · next reached came =>
      split
      · exact .inr ⟨_, by rw [came]⟩
      · next sound => exact .inl ⟨reached, came, sound, rfl⟩

theorem deliver_ok {file : RotatingFile} {line : Text} {storage : Storage}
    (roomy : (file.prepare line storage).2 = none) (encodable : Utf8.unencodable? 0 line = none) :
    file.deliver line storage =
      ((file.prepare line storage).1.append file.path (Utf8.encode line), none) := by
  revert roomy
  unfold deliver
  generalize file.prepare line storage = result
  obtain ⟨ready, failed⟩ := result
  rintro ⟨⟩
  simp [encodable]

end Logging.RotatingFile

namespace Storage

/-- Each file holds some of the lines in their order, after what a file held at first. -/
def Holds (first : Storage) (lines : List Text) (storage : Storage) : Prop :=
  ∀ path, ∃ base shown, storage.content path = base ++ Utf8.encode (List.flatten shown) ∧
    (base = [] ∨ ∃ source, base = first.content source) ∧ shown.Sublist lines

namespace Holds

variable {first storage later : Storage} {lines : List Text}

theorem refl (storage : Storage) : Holds storage [] storage :=
  fun path => ⟨storage.content path, [], by simp [Utf8.encode], .inr ⟨path, rfl⟩, .slnil⟩

theorem rearranged (held : Holds first lines storage) (moved : Rearranged storage later) :
    Holds first lines later := by
  intro path
  rcases moved path with empty | ⟨source, same⟩
  · exact ⟨[], [], by simp [empty, Utf8.encode], .inl rfl, List.nil_sublist lines⟩
  · rw [same]
    exact held source

theorem more (held : Holds first lines storage) (line : Text) :
    Holds first (lines ++ [line]) storage := by
  intro path
  obtain ⟨base, shown, content, origin, order⟩ := held path
  exact ⟨base, shown, content, origin, order.trans (List.sublist_append_left lines [line])⟩

theorem deliver (held : Holds first lines storage) (file : Logging.RotatingFile) (line : Text) :
    Holds first (lines ++ [line]) (file.deliver line storage).1 := by
  have rolled := held.rearranged (file.prepare_rearranged line storage)
  rcases file.deliver_cases line storage with ⟨ready, prepared, -, same⟩ | ⟨loss, lost⟩
  · rw [prepared] at rolled
    rw [same]
    -- Rolling over moved contents only, so the line joins what is left of its file.
    intro path
    by_cases here : path = file.path
    · obtain ⟨base, shown, content, origin, order⟩ := rolled path
      refine ⟨base, shown ++ [line], ?_, origin, order.append (.refl [line])⟩
      rw [here] at content ⊢
      rw [content_append_self, content]
      simp [Utf8.encode]
    · obtain ⟨base, shown, content, origin, order⟩ := rolled.more line path
      refine ⟨base, shown, ?_, origin, order⟩
      rw [content_append_of_ne here, content]
  · rw [lost]
    exact rolled.more line

end Holds

end Storage

end TreeReport
