import TreeReport.Proofs.LogFiles

/-!
Log files and their backups as lists of lines. The newest lines are in the file itself and
the older ones in its backups, each backup older than the one before it. Rolling over puts
an empty file in front and drops what does not fit, so whatever is delivered, the files
together hold the last lines and nothing else.
-/
namespace TreeReport

namespace Storage

section Moving

variable {storage : Storage} {source target path : Path}

theorem get?_append_of_ne (apart : path ≠ target) (bytes : List UInt8) :
    (storage.append target bytes).get? path = storage.get? path :=
  get?_put_of_ne apart _ storage

theorem get?_append_self (bytes : List UInt8) :
    (storage.append target bytes).get? target =
      some (.file (storage.content target ++ bytes)) :=
  get?_put_self target _ storage

theorem get?_of_not_holds (missing : storage.holds path = false) : storage.get? path = none := by
  simp only [Storage.holds, Bool.or_eq_false_iff] at missing
  simpa using missing.2

variable {after : Storage} (success : storage.rename source target = .ok after)
include success

theorem get?_rename_source (apart : source ≠ target) (level : source.length ≤ target.length) :
    after.get? source = none := by
  rcases rename_ok success with ⟨missing, rfl⟩ | ⟨-, -, rfl⟩
  · exact get?_of_not_holds missing
  · exact get?_relocate_source apart level

theorem get?_rename_target (below : source ≠ []) (apart : source ≠ target) :
    after.get? target = (storage.get? source).or (storage.get? target) := by
  rcases rename_ok success with ⟨missing, rfl⟩ | ⟨there, -, rfl⟩
  · rw [get?_of_not_holds missing, Option.none_or]
  · obtain ⟨entry, found⟩ : ∃ entry, storage.get? source = some entry := by
      rw [Storage.holds, List.isEmpty_eq_false_iff.mpr below, Bool.false_or] at there
      exact Option.isSome_iff_exists.mp there
    rw [get?_relocate_target, get?_remove_of_ne apart, found, Option.some_or]

theorem get?_rename_of_ne (first : path ≠ source) (last : path ≠ target)
    (above : path.length ≤ source.length) (level : path.length ≤ target.length) :
    after.get? path = storage.get? path := by
  rcases rename_ok success with ⟨-, rfl⟩ | ⟨-, -, rfl⟩
  · rfl
  · exact get?_relocate_of_ne first last above level

omit success

theorem content_of_get? {bytes : List UInt8} (found : storage.get? path = some (.file bytes)) :
    storage.content path = bytes := by
  rw [content, found]

end Moving

end Storage

namespace Logging.RotatingFile

open Storage

section Shifting

variable {path : Path} {count : Nat} {storage after : Storage}

theorem backup_injective {first second : Nat} (same : backup path first = backup path second) :
    first = second := by
  have last := (List.append_right_inj _).mp same
  simp only [List.cons.injEq, List.append_cancel_left_eq, and_true, true_and] at last
  exact Decimal.natural_injective last

theorem backup_apart {first second : Nat} (apart : first ≠ second) :
    backup path first ≠ backup path second :=
  fun same => apart (backup_injective same)

theorem backup_ne_nil {number : Nat} : backup path number ≠ [] := by
  simp [backup]

theorem length_backups (path : Path) (first second : Nat) :
    (backup path first).length ≤ (backup path second).length :=
  Nat.le_of_eq ((length_backup path first).trans (length_backup path second).symm)

theorem shiftBackups_succ (came : shiftBackups path (count + 1) storage = (after, none)) :
    ∃ moved, storage.rename (backup path (count + 1)) (backup path (count + 2)) = .ok moved ∧
      shiftBackups path count moved = (after, none) := by
  rw [shiftBackups] at came
  split at came
  · cases came
  · next moved success => exact ⟨moved, success, came⟩

theorem get?_shiftBackups_of_ne {other : Path} (apart : ∀ number, other ≠ backup path number)
    (level : other.length ≤ path.length - 1 + 1)
    (came : shiftBackups path count storage = (after, none)) :
    after.get? other = storage.get? other := by
  induction count generalizing storage with
  | zero =>
      cases came
      rfl
  | succ count ih =>
      obtain ⟨moved, success, rest⟩ := shiftBackups_succ came
      rw [ih rest, get?_rename_of_ne success (apart _) (apart _)] <;> rwa [length_backup]

theorem get?_shiftBackups_beyond {number : Nat} (beyond : count < number)
    (came : shiftBackups path count storage = (after, none)) :
    after.get? (backup path (number + 1)) = storage.get? (backup path (number + 1)) := by
  induction count generalizing storage with
  | zero =>
      cases came
      rfl
  | succ count ih =>
      obtain ⟨moved, success, rest⟩ := shiftBackups_succ came
      rw [ih (by omega) rest, get?_rename_of_ne success (backup_apart (by omega))
        (backup_apart (by omega)) (length_backups ..) (length_backups ..)]

/-- Each backup up to the count moves on by one. There must be no gap in front of the last
place, since nothing would come to fill it. -/
theorem get?_shiftBackups_moved {number : Nat}
    (closed : 0 < count → storage.get? (backup path count) = none →
      storage.get? (backup path (count + 1)) = none) (moved : number < count)
    (came : shiftBackups path count storage = (after, none)) :
    after.get? (backup path (number + 2)) = storage.get? (backup path (number + 1)) := by
  induction count generalizing storage with
  | zero => exact absurd moved (Nat.not_lt_zero number)
  | succ count ih =>
      obtain ⟨middle, success, rest⟩ := shiftBackups_succ came
      have free : middle.get? (backup path (count + 1)) = none :=
        get?_rename_source success (backup_apart (by omega)) (length_backups ..)
      by_cases last : number = count
      · subst last
        rw [get?_shiftBackups_beyond (Nat.lt_succ_self number) rest,
          get?_rename_target success backup_ne_nil (backup_apart (by omega))]
        cases here : storage.get? (backup path (number + 1)) with
        | none => rw [Option.none_or, closed (Nat.succ_pos number) here]
        | some entry => rw [Option.some_or]
      · rw [ih (fun _ _ => free) (by omega) rest, get?_rename_of_ne success
          (backup_apart (by omega)) (backup_apart (by omega)) (length_backups ..)
          (length_backups ..)]

end Shifting

section Room

variable {path : Path} {count : Nat} {storage after : Storage}

theorem encodeName_append (first second : Text) :
    Utf8.encodeName (first ++ second) = Utf8.encodeName first ++ Utf8.encodeName second :=
  List.flatMap_append

theorem length_encodeName_digits {digits : List Char} (all : ∀ c ∈ digits, c.isDigit = true) :
    (Utf8.encodeName (digits.map .char)).length = digits.length := by
  induction digits with
  | nil => rfl
  | cons c rest ih =>
      have digit : c.val ≤ 127 := by
        have range := all c List.mem_cons_self
        simp only [Char.isDigit, Bool.and_eq_true, decide_eq_true_eq] at range
        exact UInt32.le_trans range.2 (by decide)
      have one : (String.utf8EncodeChar c).length = 1 := by
        rw [String.length_utf8EncodeChar, Char.utf8Size_eq_one_iff]
        exact digit
      have split : Utf8.encodeName ((c :: rest).map .char) =
          String.utf8EncodeChar c ++ Utf8.encodeName (rest.map .char) := rfl
      rw [split, List.length_append, one, ih fun other member =>
        all other (List.mem_cons_of_mem _ member), List.length_cons, Nat.add_comm]

theorem length_encodeName_numbered (before : Text) (number : Nat) :
    (Utf8.encodeName (before ++ Decimal.natural number)).length =
      (Utf8.encodeName before).length + (Decimal.natural number).length := by
  have digits : (Utf8.encodeName (Decimal.natural number)).length =
      (Decimal.natural number).length := by
    rw [Decimal.natural, List.length_map]
    exact length_encodeName_digits fun c member =>
      Nat.isDigit_of_mem_toDigits (by decide) (by decide) member
  rw [encodeName_append, List.length_append, digits]

theorem joinWith_snoc (separator : Text) (names : List Text) (first second : Text) :
    Text.joinWith separator (names ++ [first ++ second]) =
      Text.joinWith separator (names ++ [first]) ++ second := by
  induction names with
  | nil => rfl
  | cons name rest ih =>
      rw [List.cons_append, List.cons_append, Text.joinWith_cons _ _ (by simp),
        Text.joinWith_cons _ _ (by simp), ih, List.append_assoc, List.append_assoc,
        List.append_assoc]

theorem numbered_backup (path : Path) :
    ∃ before name : Text, ∀ number,
      pathText (backup path number) = before ++ Decimal.natural number ∧
        (backup path number).getLast?.getD [] = name ++ Decimal.natural number := by
  refine ⟨.char '/' :: Text.joinWith "/" (path.dropLast ++ [path.getLast?.getD [] ++ [.char '.']]),
    path.getLast?.getD [] ++ [.char '.'], fun number => ⟨?_, ?_⟩⟩
  · rw [pathText, backup, List.cons_append, ← joinWith_snoc]
    simp
  · simp [backup]

theorem takes_backup_mono {first second : Nat} (order : first ≤ second)
    (room : takes (backup path second) = true) : takes (backup path first) = true := by
  have shorter := Decimal.length_natural_mono order
  obtain ⟨before, name, numbered⟩ := numbered_backup path
  simp only [takes, longPath, longName, numbered, length_encodeName_numbered, Bool.and_eq_true,
    Bool.not_eq_true', decide_eq_false_iff_not, Nat.not_lt] at room ⊢
  omega

def Clear (path : Path) (storage : Storage) : Prop :=
  ∀ number, storage.get? (backup path (number + 1)) ≠ some .directory

theorem Clear.rename (clear : Clear path storage) {first second : Nat} (apart : first ≠ second)
    (success : storage.rename (backup path (first + 1)) (backup path (second + 1)) = .ok after) :
    Clear path after := by
  intro number directory
  by_cases source : number = first
  · rw [source, get?_rename_source success (backup_apart (by omega)) (length_backups ..)]
      at directory
    cases directory
  · by_cases target : number = second
    · rw [target, get?_rename_target success backup_ne_nil (backup_apart (by omega)),
        Option.or_eq_some_iff] at directory
      rcases directory with moved | ⟨-, stayed⟩
      · exact clear first moved
      · exact clear second stayed
    · rw [get?_rename_of_ne success (backup_apart (by omega)) (backup_apart (by omega))
        (length_backups ..) (length_backups ..)] at directory
      exact clear number directory

theorem rename_backup_ok (source : Path) (number : Nat) (clear : Clear path storage)
    (room : takes (backup path (number + 1)) = true) :
    ∃ after, storage.rename source (backup path (number + 1)) = .ok after := by
  have plain : storage.isDirectory (backup path (number + 1)) = false := by
    simpa [Storage.isDirectory, backup_ne_nil] using clear number
  unfold Storage.rename
  split
  · exact ⟨_, rfl⟩
  · simp [plain, room]

theorem shiftBackups_ok (count : Nat) (clear : Clear path storage)
    (room : takes (backup path (count + 1)) = true) :
    ∃ after, shiftBackups path count storage = (after, none) := by
  induction count generalizing storage with
  | zero => exact ⟨storage, rfl⟩
  | succ count ih =>
      obtain ⟨moved, success⟩ := rename_backup_ok (backup path (count + 1)) _ clear room
      obtain ⟨after, rest⟩ := ih (clear.rename (by omega) success)
        (takes_backup_mono (Nat.le_succ _) room)
      exact ⟨after, by rw [shiftBackups, success]; exact rest⟩

theorem clear_shiftBackups (clear : Clear path storage)
    (came : shiftBackups path count storage = (after, none)) : Clear path after := by
  induction count generalizing storage with
  | zero =>
      cases came
      exact clear
  | succ count ih =>
      obtain ⟨moved, success, rest⟩ := shiftBackups_succ came
      exact ih (clear.rename (by omega) success) rest

/-- The first that cannot move is the last there is, so none has moved before it. -/
theorem shiftBackups_failed (clear : Clear path storage) {cause : Cause}
    (failed : shiftBackups path count storage = (after, some cause)) : after = storage := by
  induction count with
  | zero => cases failed
  | succ count ih =>
      rw [shiftBackups] at failed
      split at failed
      · cases failed
        rfl
      · next moved success =>
          rcases rename_ok success with ⟨-, rfl⟩ | ⟨-, room, -⟩
          · exact ih failed
          · -- What has room for the first that moves has it for all the others.
            obtain ⟨done, rest⟩ := shiftBackups_ok count
              (clear.rename (by omega) success) (takes_backup_mono (Nat.le_succ _) room)
            rw [rest] at failed
            cases failed

theorem shiftBackups_moves (came : shiftBackups path count storage = (after, none)) :
    after = storage ∨ takes (backup path 1) = true := by
  induction count generalizing storage with
  | zero =>
      cases came
      exact .inl rfl
  | succ count ih =>
      obtain ⟨moved, success, rest⟩ := shiftBackups_succ came
      rcases rename_ok success with ⟨-, rfl⟩ | ⟨-, room, -⟩
      · exact ih rest
      · exact .inr (takes_backup_mono (by omega) room)

end Room

section Contents

variable {file : RotatingFile} {current : List Text} {backups : List (List Text)}
  {storage after : Storage} {line : Text}

def linesEntry (lines : List Text) : Entry := .file (Utf8.encode lines.flatten)

/-- The current lines are in the file, and each group of older lines in its backup. -/
structure Stores (file : RotatingFile) (current : List Text) (backups : List (List Text))
    (storage : Storage) : Prop where
  below : file.path ≠ []
  current : storage.get? file.path = some (linesEntry current)
  backups : ∀ number, storage.get? (backup file.path (number + 1)) = backups[number]?.map linesEntry

theorem Stores.append (stores : Stores file current backups storage) (line : Text) :
    Stores file (current ++ [line]) backups (storage.append file.path (Utf8.encode line)) := by
  constructor
  · exact stores.below
  · rw [get?_append_self, content_of_get? stores.current]
    simp [linesEntry, Utf8.encode]
  · intro number
    rw [get?_append_of_ne (backup_ne file.path (number + 1)).symm]
    exact stores.backups number

theorem Stores.clear (stores : Stores file current backups storage) : Clear file.path storage := by
  intro number directory
  rw [stores.backups, Option.map_eq_some_iff] at directory
  obtain ⟨lines, -, same⟩ := directory
  cases same

/-- Backups are numbered without gaps, so behind a missing one there is none. -/
theorem Stores.closed (stores : Stores file current backups storage) {number : Nat}
    (positive : 0 < number) (missing : storage.get? (backup file.path number) = none) :
    storage.get? (backup file.path (number + 1)) = none := by
  obtain ⟨last, rfl⟩ : ∃ last, number = last + 1 := ⟨number - 1, by omega⟩
  rw [stores.backups, Option.map_eq_none_iff, List.getElem?_eq_none_iff] at missing ⊢
  omega

theorem Stores.length_path (stores : Stores file current backups storage) :
    file.path.length - 1 + 1 = file.path.length := by
  have positive := List.length_pos_iff.mpr stores.below
  omega

/-- What it takes to roll a file over. -/
theorem rollOver_ok_iff {kept : Nat} (count : file.backupCount.toNat = kept + 1) :
    file.rollOver storage = (after, none) ↔
      Decimal.Short kept ∧ file.form ≠ .bytes ∧ ∃ shifted moved,
        shiftBackups file.path kept storage = (shifted, none) ∧
        shifted.rename file.path (backup file.path 1) = .ok moved ∧
        after = moved.append file.path [] := by
  simp only [RotatingFile.rollOver, count]
  by_cases short : Decimal.Short kept
  · by_cases bytes : file.form = .bytes
    · simp [short, bytes]
    · generalize shiftBackups file.path kept storage = result
      obtain ⟨shifted, failed⟩ := result
      cases failed with
      | some cause => simp [short, bytes]
      | none =>
          cases moving : shifted.rename file.path (backup file.path 1) with
          | error cause => simp [short, bytes, moving]
          | ok moved => simp [short, bytes, moving, eq_comm]
  · simp [short]

/-- Rolling over puts an empty file before the current lines and keeps as many backups as
there may be. -/
theorem Stores.rollOver (stores : Stores file current backups storage)
    (keeps : 0 < file.backupCount) (few : backups.length ≤ file.backupCount.toNat)
    (rolled : file.rollOver storage = (after, none)) :
    Stores file [] ((current :: backups).take file.backupCount.toNat) after := by
  obtain ⟨kept, count⟩ : ∃ kept, file.backupCount.toNat = kept + 1 :=
    ⟨file.backupCount.toNat - 1, by omega⟩
  rw [count] at few ⊢
  obtain ⟨-, -, shifted, moved, came, success, rfl⟩ := (rollOver_ok_iff count).mp rolled
  have apart : ∀ number, file.path ≠ backup file.path number := backup_ne file.path
  have deep : ∀ number, (backup file.path number).length = file.path.length := by
    intro number
    rw [length_backup, stores.length_path]
  have level : ∀ number, file.path.length ≤ (backup file.path number).length :=
    fun number => Nat.le_of_eq (deep number).symm
  have above : ∀ number, (backup file.path number).length ≤ file.path.length :=
    fun number => Nat.le_of_eq (deep number)
  have present : shifted.get? file.path = some (linesEntry current) := by
    rw [get?_shiftBackups_of_ne apart (Nat.le_of_eq stores.length_path.symm) came, stores.current]
  constructor
  · exact stores.below
  · rw [get?_append_self, content_of_missing (get?_rename_source success (apart 1) (level 1))]
    rfl
  · intro number
    rw [get?_append_of_ne (apart _).symm]
    cases number with
    | zero =>
        rw [get?_rename_target success stores.below (apart 1), present]
        rfl
    | succ number =>
        rw [get?_rename_of_ne success (apart _).symm (backup_apart (by omega)) (above _)
          (length_backups ..)]
        by_cases inside : number < kept
        · rw [get?_shiftBackups_moved (fun positive => stores.closed positive) inside came,
            stores.backups]
          simp [inside]
        · rw [get?_shiftBackups_beyond (by omega) came, stores.backups,
            List.getElem?_eq_none (by omega), List.getElem?_eq_none (by simp; omega)]

/-- A file that cannot be rolled over is left as it is, and so are its backups. -/
theorem Stores.rollOver_failed (stores : Stores file current backups storage) {fault : RollFault}
    (failed : file.rollOver storage = (after, some fault)) : after = storage := by
  unfold RotatingFile.rollOver at failed
  split at failed
  · cases failed
  · next kept _ =>
      split at failed
      · cases failed
        rfl
      · split at failed
        · cases failed
          rfl
        · split at failed
          · next shifted cause came =>
              cases failed
              exact shiftBackups_failed stores.clear came
          · next shifted came =>
              split at failed
              · next cause refused =>
                  cases failed
                  rcases shiftBackups_moves came with same | room
                  · exact same
                  · -- With room for the first backup nothing keeps the file from moving there.
                    obtain ⟨moved, success⟩ := rename_backup_ok file.path 0
                      (clear_shiftBackups stores.clear came) room
                    rw [success] at refused
                    cases refused
              · cases failed

/-- What lets a file with backups be rolled over again and again: a name that takes
numbers, and room for the last backup. -/
structure Rolls (file : RotatingFile) : Prop where
  form : file.form = .text
  short : Decimal.Short (file.backupCount - 1)
  room : takes (backup file.path file.backupCount.toNat) = true

theorem Stores.rollOver_ok (stores : Stores file current backups storage) (rolls : file.Rolls)
    (keeps : 0 < file.backupCount) : ∃ after, file.rollOver storage = (after, none) := by
  obtain ⟨form, short, room⟩ := rolls
  obtain ⟨kept, count⟩ : ∃ kept, file.backupCount.toNat = kept + 1 :=
    ⟨file.backupCount.toNat - 1, by omega⟩
  rw [count] at room
  obtain ⟨shifted, came⟩ := shiftBackups_ok kept stores.clear room
  obtain ⟨moved, success⟩ := rename_backup_ok file.path 0
    (clear_shiftBackups stores.clear came) (takes_backup_mono (Nat.le_add_left 1 kept) room)
  have number : file.backupCount - 1 = (kept : Int) := by omega
  rw [number] at short
  exact ⟨_, (rollOver_ok_iff count).mpr ⟨short, by simp [form], shifted, moved, came, success, rfl⟩⟩

/-- The lines among those delivered that get into the file. -/
def taken (file : RotatingFile) : List Text → Storage → List Text
  | [], _ => []
  | line :: rest, storage =>
      let (after, loss) := file.deliver line storage
      if loss.isNone then line :: taken file rest after else taken file rest after

/-- What is in the files once some lines have been delivered: the last of those that were
taken, and all of these if the file is never rolled over. -/
structure Retains (file : RotatingFile) (lines taken lost : List Text)
    (backups : List (List Text)) (current : List Text) (storage : Storage) : Prop where
  stores : Stores file current backups storage
  few : backups.length ≤ file.backupCount.toNat
  order : taken.Sublist lines
  parts : taken = lost ++ (backups.reverse.flatten ++ current)
  latest : taken = lines → lines ≠ [] → current ≠ []
  whole : file.maxBytes ≤ 0 ∨ file.backupCount ≤ 0 → lost = [] ∧ backups = []

variable {lines taken lost : List Text}

theorem Stores.retains (stores : Stores file [] [] storage) :
    Retains file [] [] [] [] [] storage :=
  ⟨stores, Nat.zero_le _, .slnil, rfl, fun _ => id, fun _ => ⟨rfl, rfl⟩⟩

theorem groups_split (count : Nat) (current : List Text) (backups : List (List Text)) :
    backups.reverse.flatten ++ current =
      ((current :: backups).drop count).reverse.flatten ++
        ((current :: backups).take count).reverse.flatten := by
  calc
    _ = (current :: backups).reverse.flatten := by simp
    _ = ((current :: backups).take count ++ (current :: backups).drop count).reverse.flatten := by
      rw [List.take_append_drop]
    _ = _ := by rw [List.reverse_append, List.flatten_append]

/-- The files just before a line is written, or when the file could not be moved aside. -/
theorem Retains.prepare (retains : Retains file lines taken lost backups current storage)
    (line : Text) :
    ∃ lost backups current, Stores file current backups (file.prepare line storage).1 ∧
      backups.length ≤ file.backupCount.toNat ∧
      taken = lost ++ (backups.reverse.flatten ++ current) ∧
      (file.maxBytes ≤ 0 ∨ file.backupCount ≤ 0 → lost = [] ∧ backups = []) := by
  obtain ⟨stores, few, -, parts, -, whole⟩ := retains
  have stays : ∃ lost backups current, Stores file current backups storage ∧
      backups.length ≤ file.backupCount.toNat ∧
      taken = lost ++ (backups.reverse.flatten ++ current) ∧
      (file.maxBytes ≤ 0 ∨ file.backupCount ≤ 0 → lost = [] ∧ backups = []) :=
    ⟨lost, backups, current, stores, few, parts, whole⟩
  unfold RotatingFile.prepare
  split
  · next due =>
      have limit : 0 < file.maxBytes := by
        simp only [isDue, decide_eq_true_eq] at due
        exact due.1
      by_cases keeps : 0 < file.backupCount
      · generalize came : file.rollOver storage = result
        obtain ⟨after, failed⟩ := result
        cases failed with
        | some fault =>
            rw [stores.rollOver_failed came]
            exact stays
        | none =>
            refine ⟨lost ++ ((current :: backups).drop file.backupCount.toNat).reverse.flatten, _,
              [], stores.rollOver keeps few came, List.length_take_le _ _, ?_, ?_⟩
            · rw [parts, groups_split file.backupCount.toNat current backups]
              simp
            · rintro (bare | bare)
              · exact absurd limit (Int.not_lt.mpr bare)
              · exact absurd keeps (Int.not_lt.mpr bare)
      · rw [rollOver_without_backups (Int.not_lt.mp keeps)]
        exact stays
  · exact stays

theorem Retains.deliver (retains : Retains file lines taken lost backups current storage)
    (line : Text) :
    ∃ lost backups current, Retains file (lines ++ [line])
      (taken ++ if (file.deliver line storage).2.isNone then [line] else []) lost backups current
      (file.deliver line storage).1 := by
  obtain ⟨lost, backups, current, stores, few, parts, whole⟩ := retains.prepare line
  have order := retains.order
  rcases file.deliver_cases line storage with ⟨ready, prepared, -, came⟩ | ⟨loss, came⟩
  · rw [prepared] at stores
    rw [came]
    exact ⟨lost, backups, current ++ [line], stores.append line, few, order.append (.refl [line]),
      by simp [parts], by simp, whole⟩
  · rw [came]
    refine ⟨lost, backups, current, stores, few, ?_, by simpa using parts, ?_, whole⟩
    · simpa using order.trans (List.sublist_append_left lines [line])
    · -- A line that was lost makes the taken ones fewer.
      intro same
      have shorter := order.length_le
      have longer := congrArg List.length same
      simp at longer
      omega

theorem Retains.deliverAll (retains : Retains file lines taken lost backups current storage)
    (more : List Text) :
    ∃ lost backups current, Retains file (lines ++ more) (taken ++ file.taken more storage)
      lost backups current
      (more.foldl (fun storage line => (file.deliver line storage).1) storage) := by
  induction more generalizing lines taken lost backups current storage with
  | nil => exact ⟨lost, backups, current, by simpa [RotatingFile.taken] using retains⟩
  | cons line rest ih =>
      obtain ⟨lost, backups, current, next⟩ := retains.deliver line
      obtain ⟨lost, backups, current, last⟩ := ih next
      refine ⟨lost, backups, current, ?_⟩
      rw [List.append_assoc, List.append_assoc] at last
      rw [RotatingFile.taken, List.foldl_cons]
      generalize file.deliver line storage = result at last ⊢
      obtain ⟨after, loss⟩ := result
      cases loss <;> exact last

/-- Without an end to rolling over, only a line that has no encoding is lost. -/
theorem Retains.taken_all (retains : Retains file lines taken lost backups current storage)
    (rolls : file.maxBytes ≤ 0 ∨ file.backupCount ≤ 0 ∨ file.Rolls) {more : List Text}
    (encodable : ∀ line ∈ more, Utf8.unencodable? 0 line = none) :
    file.taken more storage = more := by
  induction more generalizing lines taken lost backups current storage with
  | nil => rfl
  | cons line rest ih =>
      have roomy : (file.prepare line storage).2 = none := by
        unfold RotatingFile.prepare
        split
        · next due =>
            simp only [isDue, decide_eq_true_eq] at due
            by_cases keeps : 0 < file.backupCount
            · rcases rolls with bare | bare | rolls
              · exact absurd due.1 (Int.not_lt.mpr bare)
              · exact absurd keeps (Int.not_lt.mpr bare)
              · obtain ⟨after, came⟩ := retains.stores.rollOver_ok rolls keeps
                rw [came]
            · rw [rollOver_without_backups (Int.not_lt.mp keeps)]
        · rfl
      have came := deliver_ok roomy (encodable line List.mem_cons_self)
      obtain ⟨lost, backups, current, next⟩ := retains.deliver line
      rw [RotatingFile.taken, came]
      rw [came] at next
      simp [ih next fun other member => encodable other (List.mem_cons_of_mem line member)]

end Contents

section Chain

variable {file : RotatingFile} {current : List Text} {backups : List (List Text)}
  {storage : Storage}

/-- The contents of all backups that there may be and of the file, from the oldest on. -/
def chain (file : RotatingFile) (storage : Storage) : List UInt8 :=
  ((List.range file.backupCount.toNat).reverse.flatMap fun number =>
    storage.content (backup file.path (number + 1))) ++ storage.content file.path

theorem Stores.content_backup (stores : Stores file current backups storage) (number : Nat) :
    storage.content (backup file.path (number + 1)) =
      Utf8.encode (backups[number]?.toList.flatten.flatten) := by
  rw [content, stores.backups]
  cases backups[number]? with
  | none => rfl
  | some lines => simp [linesEntry]

theorem Stores.content_backups (stores : Stores file current backups storage) (count : Nat) :
    ((List.range count).reverse.flatMap fun number =>
        storage.content (backup file.path (number + 1))) =
      Utf8.encode (backups.take count).reverse.flatten.flatten := by
  induction count with
  | zero => rfl
  | succ count ih =>
      have newer : (List.range (count + 1)).reverse = count :: (List.range count).reverse := by
        simp [List.range_succ]
      rw [newer, List.flatMap_cons, ih, stores.content_backup, List.take_add_one]
      cases backups[count]? with
      | none => simp [Utf8.encode]
      | some lines => simp [Utf8.encode]

theorem Stores.chain (stores : Stores file current backups storage)
    (few : backups.length ≤ file.backupCount.toNat) :
    file.chain storage = Utf8.encode (backups.reverse.flatten ++ current).flatten := by
  rw [RotatingFile.chain, stores.content_backups, List.take_of_length_le few,
    content_of_get? stores.current]
  simp [Utf8.encode]

end Chain

end Logging.RotatingFile

end TreeReport
