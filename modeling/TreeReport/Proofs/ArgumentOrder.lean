import Mathlib.Data.List.Induction
import TreeReport.CommandLine.Usage
import TreeReport.Proofs.ArgumentWords

/-!
Arguments in any order. Switches, log files with their paths and files are accepted
unless both colour options are among them or an option stands between two files. What they
come to then depends on the order of the files and on the last log file, and otherwise on
no order at all.
-/
namespace TreeReport.CommandLine

section Items

/-- A word that is taken for no option: a lone dash, or one that begins otherwise. -/
abbrev Operand := { word : Text // word = ("-" : Text) ∨ word.head? ≠ some (.char '-') }

inductive Item where
  | noPositions
  | color
  | noColor
  | debug
  | logFile (path : Operand)
  | file (name : Operand)
  deriving DecidableEq

namespace Item

def words : Item → List Text
  | .noPositions => ["--no-positions"]
  | .color => ["--color"]
  | .noColor => ["--no-color"]
  | .debug => ["--debug"]
  | .logFile path => ["--log-file", path.val]
  | .file name => [name.val]

def name? : Item → Option Text
  | .file name => some name.val
  | _ => none

def path? : Item → Option Text
  | .logFile path => some path.val
  | _ => none

def isFile (item : Item) : Bool := item.name?.isSome

end Item

/-- The words of all items in their order. -/
def wordsOf (items : List Item) : List Text := items.flatMap Item.words

def namesOf (items : List Item) : List Text := items.filterMap Item.name?

def pathsOf (items : List Item) : List Text := items.filterMap Item.path?

/-- Both colour options are among the items. -/
def Clashing (items : List Item) : Prop := .color ∈ items ∧ .noColor ∈ items

/-- Some option stands between two files. -/
def Scattered (items : List Item) : Prop :=
  ∃ first option last, [.file first, option, .file last].Sublist items ∧ option.isFile = false

def Trailed (items : List Item) : Prop :=
  ∃ first option, [.file first, option].Sublist items ∧ option.isFile = false

def Arguments.ofItems (items : List Item) : Arguments where
  files := namesOf items
  showPositions := decide (.noPositions ∉ items)
  colors :=
    if .color ∈ items then some true else if .noColor ∈ items then some false else none
  debug := decide (.debug ∈ items)
  logTarget := (pathsOf items).getLast?.elim .absent .file

end Items

section Words

theorem classify_undashed {word : Text} (other : word.head? ≠ some (.char '-')) :
    classify word = .ok (.plain word) := by
  unfold classify
  split
  · simp at other
  · rfl

theorem classify_operand (word : Operand) : classify word.val = .ok (.plain word.val) := by
  obtain ⟨word, rfl | other⟩ := word
  · rfl
  · exact classify_undashed other

theorem operand_ne_divider (word : Operand) : word.val ≠ ("--" : Text) := by
  obtain ⟨word, rfl | other⟩ := word
  · decide
  · rintro rfl
    exact other rfl

theorem tokens_cons {argument : Text} {token : Token} {rest : List Text} {found : List Token}
    (apart : argument ≠ ("--" : Text)) (classified : classify argument = .ok token)
    (read : tokens rest = .ok found) : tokens (argument :: rest) = .ok (token :: found) := by
  rw [tokens, if_neg apart, classified, read]
  rfl

def Item.tokens : Item → List Token
  | .noPositions => [.option .noPositions none]
  | .color => [.option .color none]
  | .noColor => [.option .noColor none]
  | .debug => [.option .debug none]
  | .logFile path => [.option .logFile none, .plain path.val]
  | .file name => [.plain name.val]

theorem tokens_item (item : Item) {rest : List Text} {found : List Token}
    (read : tokens rest = .ok found) :
    tokens (item.words ++ rest) = .ok (item.tokens ++ found) := by
  cases item with
  | noPositions => exact tokens_cons (by decide) rfl read
  | color => exact tokens_cons (by decide) rfl read
  | noColor => exact tokens_cons (by decide) rfl read
  | debug => exact tokens_cons (by decide) rfl read
  | logFile path =>
      exact tokens_cons (by decide) rfl
        (tokens_cons (operand_ne_divider path) (classify_operand path) read)
  | file name => exact tokens_cons (operand_ne_divider name) (classify_operand name) read

theorem tokens_wordsOf (items : List Item) :
    tokens (wordsOf items) = .ok (items.flatMap Item.tokens) := by
  induction items with
  | nil => rfl
  | cons item rest ih => exact tokens_item item ih

end Words

section Steps

def Progress.take (progress : Progress) : Item → Except Stop Progress
  | .noPositions => progress.leaveFiles.switch .noPositions
  | .color => progress.leaveFiles.switch .color
  | .noColor => progress.leaveFiles.switch .noColor
  | .debug => progress.leaveFiles.switch .debug
  | .logFile path => .ok (progress.leaveFiles.setLogTarget path.val)
  | .file name => .ok (progress.addPlain name.val)

theorem advance_flag (progress : Progress) {flag : Flag} (switch : flag ≠ .logFile)
    (rest : List Token) :
    advance progress (.option flag none :: rest) =
      progress.leaveFiles.switch flag >>= (advance · rest) := by
  rw [advance]
  · cases progress.leaveFiles.switch flag <;> rfl
  · exact fun _ _ _ same => switch same

theorem advance_item (progress : Progress) (item : Item) (rest : List Token) :
    advance progress (item.tokens ++ rest) = progress.take item >>= (advance · rest) := by
  cases item with
  | noPositions | color | noColor | debug => exact advance_flag progress (by decide) rest
  | logFile path => rfl
  | file name => rfl

theorem advance_items (progress : Progress) (items : List Item) :
    advance progress (items.flatMap Item.tokens) = items.foldlM Progress.take progress := by
  induction items generalizing progress with
  | nil => rfl
  | cons item rest ih =>
      rw [List.flatMap_cons, advance_item, List.foldlM_cons]
      exact bind_congr ih

end Steps

section Order

variable {items : List Item} {item : Item}

theorem isFile_iff : item.isFile = true ↔ ∃ name, item = .file name := by
  cases item <;> simp [Item.isFile, Item.name?]

theorem namesOf_ne_nil : namesOf items ≠ [] ↔ ∃ name, .file name ∈ items := by
  constructor
  · intro some
    obtain ⟨name, member⟩ := List.exists_mem_of_ne_nil _ some
    obtain ⟨item, inside, named⟩ := List.mem_filterMap.mp member
    cases item with
    | file name => exact ⟨name, inside⟩
    | _ => cases named
  · rintro ⟨name, member⟩
    exact List.ne_nil_of_mem (List.mem_filterMap.mpr ⟨_, member, rfl⟩)

theorem sublist_snoc (early : List Item) {list : List Item} {last other : Item} :
    (early ++ [last]).Sublist (list ++ [other]) ↔
      (early ++ [last]).Sublist list ∨ last = other ∧ early.Sublist list := by
  have turned (part whole : List Item) : part.Sublist whole ↔ part.reverse.Sublist whole.reverse :=
    List.reverse_sublist.symm
  rw [turned, turned (early ++ [last]) list, turned early]
  simp only [List.reverse_append, List.reverse_singleton, List.singleton_append,
    List.sublist_cons_iff, List.cons.injEq]
  constructor
  · rintro (before | ⟨rest, ⟨rfl, rfl⟩, here⟩)
    · exact .inl before
    · exact .inr ⟨rfl, here⟩
  · rintro (before | ⟨rfl, here⟩)
    · exact .inl before
    · exact .inr ⟨_, ⟨rfl, rfl⟩, here⟩

theorem trailed_snoc :
    Trailed (items ++ [item]) ↔ Trailed items ∨ item.isFile = false ∧ namesOf items ≠ [] := by
  rw [namesOf_ne_nil]
  constructor
  · rintro ⟨first, option, order, free⟩
    rcases (sublist_snoc [.file first]).mp order with before | ⟨rfl, here⟩
    · exact .inl ⟨first, option, before, free⟩
    · exact .inr ⟨free, first, List.singleton_sublist.mp here⟩
  · rintro (⟨first, option, order, free⟩ | ⟨free, name, member⟩)
    · exact ⟨first, option, order.trans (List.sublist_append_left items [item]), free⟩
    · exact ⟨name, item, (sublist_snoc [.file name]).mpr
        (.inr ⟨rfl, List.singleton_sublist.mpr member⟩), free⟩

theorem scattered_snoc :
    Scattered (items ++ [item]) ↔ Scattered items ∨ item.isFile = true ∧ Trailed items := by
  constructor
  · rintro ⟨first, option, last, order, free⟩
    rcases (sublist_snoc [.file first, option]).mp order with before | ⟨rfl, here⟩
    · exact .inl ⟨first, option, last, before, free⟩
    · exact .inr ⟨rfl, first, option, here, free⟩
  · rintro (⟨first, option, last, order, free⟩ | ⟨file, first, option, order, free⟩)
    · exact ⟨first, option, last, order.trans (List.sublist_append_left items [item]), free⟩
    · obtain ⟨last, rfl⟩ := isFile_iff.mp file
      exact ⟨first, option, last, (sublist_snoc [.file first, option]).mpr
        (.inr ⟨rfl, order⟩), free⟩

theorem trailed_of_scattered (scattered : Scattered items) : Trailed items := by
  obtain ⟨first, option, last, order, free⟩ := scattered
  have front : [Item.file first, option].Sublist [.file first, option, .file last] := by simp
  exact ⟨first, option, front.trans order, free⟩

theorem not_trailed_iff :
    ¬ Trailed items ↔ ∃ before block, items = before ++ block ∧
      (∀ item ∈ before, item.isFile = false) ∧ ∀ item ∈ block, item.isFile = true := by
  constructor
  · induction items using List.reverseRecOn with
    | nil => exact fun _ => ⟨[], [], rfl, by simp, by simp⟩
    | append_singleton items item ih =>
        rw [trailed_snoc, not_or]
        rintro ⟨untrailed, apart⟩
        cases file : item.isFile with
        | true =>
            obtain ⟨before, block, rfl, options, files⟩ := ih untrailed
            refine ⟨before, block ++ [item], by simp, options, ?_⟩
            simpa [or_imp, forall_and, file] using files
        | false =>
            -- An option that trails nothing has no file before it, so the block is still empty.
            have unnamed : ∀ name, .file name ∉ items := fun name early =>
              apart ⟨file, namesOf_ne_nil.mpr ⟨name, early⟩⟩
            have options : ∀ other ∈ items, other.isFile = false := by
              intro other early
              cases other with
              | file name => exact absurd early (unnamed name)
              | _ => rfl
            refine ⟨items ++ [item], [], by simp, ?_, by simp⟩
            simpa [or_imp, forall_and, file] using options
  · rintro ⟨before, block, rfl, options, files⟩
    induction block using List.reverseRecOn with
    | nil =>
        rintro ⟨first, option, order, -⟩
        have early : .file first ∈ before := by simpa using order.subset List.mem_cons_self
        cases options _ early
    | append_singleton block item ih =>
        rw [← List.append_assoc, trailed_snoc, files item (by simp)]
        simpa using ih fun other early => files other (by simp [early])

/-- The files are not scattered exactly when they form one block among the options. -/
theorem not_scattered_iff :
    ¬ Scattered items ↔ ∃ before block after, items = before ++ block ++ after ∧
      (∀ item ∈ before ++ after, item.isFile = false) ∧ ∀ item ∈ block, item.isFile = true := by
  constructor
  · induction items using List.reverseRecOn with
    | nil => exact fun _ => ⟨[], [], [], rfl, by simp, by simp⟩
    | append_singleton items item ih =>
        rw [scattered_snoc, not_or]
        rintro ⟨gathered, apart⟩
        cases file : item.isFile with
        | true =>
            obtain ⟨before, block, same, options, files⟩ :=
              not_trailed_iff.mp fun trailed => apart ⟨file, trailed⟩
            refine ⟨before, block ++ [item], [], by simp [same], by simpa using options, ?_⟩
            simpa [or_imp, forall_and, file] using files
        | false =>
            obtain ⟨before, block, after, rfl, options, files⟩ := ih gathered
            refine ⟨before, block, after ++ [item], by simp, ?_, files⟩
            rw [← List.append_assoc]
            simpa [or_imp, forall_and, file] using options
  · rintro ⟨before, block, after, rfl, options, files⟩
    induction after using List.reverseRecOn with
    | nil =>
        rw [List.append_nil] at options ⊢
        exact fun scattered =>
          not_trailed_iff.mpr ⟨before, block, rfl, options, files⟩ (trailed_of_scattered scattered)
    | append_singleton after item ih =>
        rw [← List.append_assoc, scattered_snoc, options item (by simp)]
        simpa using ih fun other early => options other (by
          rw [← List.append_assoc]
          exact List.mem_append_left _ early)

end Order

section Progress

variable {items : List Item} {item : Item} {files extras : List Text} {block : FileBlock}

theorem clashing_snoc :
    Clashing (items ++ [item]) ↔ Clashing items ∨
      item = .color ∧ .noColor ∈ items ∨ item = .noColor ∧ .color ∈ items := by
  simp only [Clashing, List.mem_append, List.mem_singleton]
  cases item with
  | color => simp only [reduceCtorEq]; tauto
  | noColor => simp only [reduceCtorEq]; tauto
  | _ => simp

/-- Progress with the settings of some items, and with some of their names as files. -/
def reached (items : List Item) (files : List Text) (block : FileBlock) (extras : List Text) :
    Progress :=
  ⟨{ Arguments.ofItems items with files := files }, block, extras⟩

def FileBlock.left : FileBlock → FileBlock
  | .open => .closed
  | block => block

/-- The names are divided into files and extras by the place of the options. -/
structure Divides (items : List Item) (files : List Text) (block : FileBlock)
    (extras : List Text) : Prop where
  names : files ++ extras = namesOf items
  ahead : block = .ahead ↔ namesOf items = []
  closed : block = .closed ↔ Trailed items
  gathered : extras = [] ↔ ¬ Scattered items

theorem Divides.start : Divides [] [] .ahead [] where
  names := rfl
  ahead := by simp [namesOf]
  closed := by simp [Trailed]
  gathered := by simp [Scattered]

theorem Divides.option (divides : Divides items files block extras)
    (free : item.isFile = false) : Divides (items ++ [item]) files block.left extras := by
  obtain ⟨names, ahead, closed, gathered⟩ := divides
  have same : namesOf (items ++ [item]) = namesOf items := by
    have unnamed : item.name? = none := by simpa [Item.isFile] using free
    simp [namesOf, unnamed]
  have beyond : Trailed (items ++ [item]) ↔ Trailed items ∨ namesOf items ≠ [] := by
    simp [trailed_snoc, free]
  have scattered : Scattered (items ++ [item]) ↔ Scattered items := by
    simp [scattered_snoc, free]
  refine ⟨names.trans same.symm, ?_, ?_, gathered.trans (not_congr scattered.symm)⟩
  · rw [same, ← ahead]
    cases block <;> simp [FileBlock.left]
  · rw [beyond, ← closed, Ne, ← ahead]
    cases block <;> simp [FileBlock.left]

/-- A file joins the block unless an option has closed it; then it is an extra. -/
theorem Divides.file (divides : Divides items files block extras) (name : Operand) :
    ∃ files' block' extras',
      (reached items files block extras).take (.file name) =
        .ok (reached (items ++ [.file name]) files' block' extras') ∧
      Divides (items ++ [.file name]) files' block' extras' := by
  obtain ⟨names, ahead, closed, gathered⟩ := divides
  have more : namesOf (items ++ [.file name]) = namesOf items ++ [name.val] := by
    simp [namesOf, Item.name?]
  have beyond : Trailed (items ++ [.file name]) ↔ Trailed items := by
    simp [trailed_snoc, Item.isFile, Item.name?]
  have scattered : Scattered (items ++ [.file name]) ↔ Trailed items := by
    rw [scattered_snoc]
    exact ⟨fun either => either.elim trailed_of_scattered And.right,
      fun trailed => .inr ⟨rfl, trailed⟩⟩
  -- The block is closed once an option stands behind a file.
  by_cases trailed : Trailed items
  · obtain rfl := closed.mpr trailed
    refine ⟨files, .closed, extras ++ [name.val], ?_, ?_, ?_, ?_, ?_⟩
    · simp [reached, Progress.take, Progress.addPlain, Progress.addExtra, Arguments.ofItems,
        pathsOf, Item.path?]
    · rw [more, ← names, List.append_assoc]
    · simp [more]
    · simp [beyond, trailed]
    · simp [scattered, trailed]
  · have still : block ≠ .closed := fun same => trailed (closed.mp same)
    obtain rfl : extras = [] := gathered.mpr fun apart => trailed (trailed_of_scattered apart)
    refine ⟨files ++ [name.val], .open, [], ?_, ?_, ?_, ?_, ?_⟩
    · cases block with
      | closed => exact absurd rfl still
      | ahead | «open» =>
          simp [reached, Progress.take, Progress.addPlain, Arguments.ofItems, pathsOf, Item.path?]
    · rw [more, ← names, List.append_nil, List.append_nil]
    · simp [more]
    · simp [beyond, trailed]
    · simp [scattered, trailed]

theorem reached_leaveFiles :
    (reached items files block extras).leaveFiles = reached items files block.left extras := by
  cases block <;> rfl

theorem take_reached (divides : Divides items files block extras) (apart : ¬ Clashing items)
    (item : Item) :
    (Clashing (items ++ [item]) ∧
        ∃ fault, (reached items files block extras).take item = .error (.usage fault)) ∨
      ¬ Clashing (items ++ [item]) ∧ ∃ files' block' extras',
        (reached items files block extras).take item =
          .ok (reached (items ++ [item]) files' block' extras') ∧
        Divides (items ++ [item]) files' block' extras' := by
  rw [clashing_snoc]
  cases item with
  | noPositions =>
      refine .inr ⟨by simp [apart], files, block.left, extras, ?_, divides.option rfl⟩
      simp only [Progress.take, reached_leaveFiles]
      simp [Progress.switch, reached, Arguments.ofItems, pathsOf, Item.path?]
  | debug =>
      refine .inr ⟨by simp [apart], files, block.left, extras, ?_, divides.option rfl⟩
      simp only [Progress.take, reached_leaveFiles]
      simp [Progress.switch, reached, Arguments.ofItems, pathsOf, Item.path?]
  | logFile path =>
      refine .inr ⟨by simp [apart], files, block.left, extras, ?_, divides.option rfl⟩
      have taken : LogTarget.ofValue path.val = .file path.val :=
        if_neg (operand_ne_divider path)
      simp only [Progress.take, reached_leaveFiles]
      simp [Progress.setLogTarget, taken, reached, Arguments.ofItems, pathsOf, Item.path?]
  | file name => exact .inr ⟨by simp [apart], divides.file name⟩
  | color =>
      simp only [Progress.take, reached_leaveFiles]
      by_cases bare : .noColor ∈ items
      · -- Both words were not among the items before, so the setting is the one of the other.
        have alone : .color ∉ items := fun painted => apart ⟨painted, bare⟩
        refine .inl ⟨by simp [bare], .conflict .color .noColor, ?_⟩
        simp [Progress.switch, Progress.setColors, reached, Arguments.ofItems, alone, bare]
      · refine .inr ⟨by simp [apart, bare], files, block.left, extras, ?_, divides.option rfl⟩
        simp [Progress.switch, Progress.setColors, reached, Arguments.ofItems, bare, pathsOf,
          Item.path?]
  | noColor =>
      simp only [Progress.take, reached_leaveFiles]
      by_cases painted : .color ∈ items
      · refine .inl ⟨by simp [painted], .conflict .noColor .color, ?_⟩
        simp [Progress.switch, Progress.setColors, reached, Arguments.ofItems, painted]
      · refine .inr ⟨by simp [apart, painted], files, block.left, extras, ?_, divides.option rfl⟩
        simp [Progress.switch, Progress.setColors, reached, Arguments.ofItems, painted, pathsOf,
          Item.path?]

/-- Reading goes on to the first clash; up to there the settings are those of the items. -/
theorem foldlM_take (items : List Item) :
    (Clashing items ∧ ∃ fault, items.foldlM Progress.take {} = .error (.usage fault)) ∨
      ¬ Clashing items ∧ ∃ files block extras,
        items.foldlM Progress.take {} = .ok (reached items files block extras) ∧
        Divides items files block extras := by
  induction items using List.reverseRecOn with
  | nil => exact .inr ⟨by simp [Clashing], [], .ahead, [], rfl, .start⟩
  | append_singleton items item ih =>
      have step : (items ++ [item]).foldlM Progress.take {} =
          items.foldlM Progress.take {} >>= (Progress.take · item) := by simp
      rw [step]
      rcases ih with ⟨clash, fault, stopped⟩ | ⟨apart, files, block, extras, done, divides⟩
      · rw [stopped]
        exact .inl ⟨clashing_snoc.mpr (.inl clash), fault, rfl⟩
      · rw [done]
        exact take_reached divides apart item

end Progress

section Acceptance

variable {items other : List Item}

/-- Items are refused with a usage error, or they come to what they stand for. -/
theorem parse_items (items : List Item) :
    ((Clashing items ∨ Scattered items) ∧
        ∃ fault, parse (wordsOf items) = .error (.usage fault)) ∨
      ¬ (Clashing items ∨ Scattered items) ∧ parse (wordsOf items) = .ok (.ofItems items) := by
  have read : parse (wordsOf items) =
      items.foldlM Progress.take {} >>= fun progress =>
        if progress.extras.isEmpty then .ok progress.arguments
        else .error (.usage (.unrecognized progress.extras)) := by
    rw [parse, tokens_wordsOf]
    simp only [advance_items]
    cases items.foldlM Progress.take {} <;> rfl
  rw [read]
  rcases foldlM_take items with
    ⟨clash, fault, stopped⟩ | ⟨apart, files, block, extras, done, divides⟩
  · rw [stopped]
    exact .inl ⟨.inl clash, fault, rfl⟩
  · rw [done]
    by_cases scattered : Scattered items
    · have spare : extras ≠ [] := fun empty => divides.gathered.mp empty scattered
      exact .inl ⟨.inr scattered, .unrecognized extras, if_neg (by simpa [reached] using spare)⟩
    · obtain rfl := divides.gathered.mpr scattered
      obtain rfl : files = namesOf items := by simpa using divides.names
      exact .inr ⟨by simp [apart, scattered], rfl⟩

theorem Arguments.ofItems_perm (same : other.Perm items) (names : namesOf other = namesOf items)
    (paths : pathsOf other = pathsOf items) : ofItems other = ofItems items := by
  simp only [ofItems, names, paths, same.mem_iff]

theorem clashing_perm (same : other.Perm items) : Clashing other ↔ Clashing items := by
  simp only [Clashing, same.mem_iff]

/-- Arguments are refused, with code two, exactly when the colour options clash or the files
are scattered. Accepted ones come to the same, however the options are ordered about the
block of files, as long as the files keep their order and the log files keep theirs. -/
theorem items_accepted (items : List Item) :
    ((∃ stop, parse (wordsOf items) = .error stop ∧ stop.ending.code = 2) ↔
        Clashing items ∨ Scattered items) ∧
      (¬ (Clashing items ∨ Scattered items) →
        (∃ arguments, parse (wordsOf items) = .ok arguments ∧
          arguments.files = namesOf items ∧
          (arguments.showPositions = false ↔ .noPositions ∈ items) ∧
          (arguments.colors = some true ↔ .color ∈ items) ∧
          (arguments.colors = some false ↔ .noColor ∈ items) ∧
          (arguments.debug = true ↔ .debug ∈ items) ∧
          arguments.logTarget = (pathsOf items).getLast?.elim .absent .file ∧
          arguments.options =
            (.str "showPositions", .bool arguments.showPositions) ::
              (arguments.colors.map fun colors => (.str "colors", .bool colors)).toList) ∧
        ∀ other before block after, other = before ++ block ++ after →
          (∀ item ∈ before ++ after, item.isFile = false) →
          (∀ item ∈ block, item.isFile = true) →
          other.Perm items → namesOf other = namesOf items → pathsOf other = pathsOf items →
          parse (wordsOf other) = parse (wordsOf items)) := by
  rcases parse_items items with ⟨refused, fault, stopped⟩ | ⟨sensible, accepted⟩
  · exact ⟨iff_of_true ⟨_, stopped, rfl⟩ refused, absurd refused⟩
  · refine ⟨iff_of_false ?_ sensible, fun _ => ⟨⟨_, accepted, ?_⟩, ?_⟩⟩
    · rintro ⟨stop, stopped, -⟩
      cases accepted.symm.trans stopped
    · have either : .color ∈ items → .noColor ∉ items :=
        fun painted bare => sensible (.inl ⟨painted, bare⟩)
      refine ⟨rfl, by simp [Arguments.ofItems], ?_, ?_, by simp [Arguments.ofItems], rfl, ?_⟩
      · grind [Arguments.ofItems]
      · grind [Arguments.ofItems]
      · cases chosen : (Arguments.ofItems items).colors <;> simp [Arguments.options, chosen]
    · intro other before block after parts options files same names paths
      have gathered := not_scattered_iff.mpr ⟨before, block, after, parts, options, files⟩
      rcases parse_items other with ⟨clash | scattered, -⟩ | ⟨-, reordered⟩
      · exact absurd (.inl ((clashing_perm same).mp clash)) sensible
      · exact absurd scattered gathered
      · rw [reordered, accepted, Arguments.ofItems_perm same names paths]

end Acceptance

end TreeReport.CommandLine
