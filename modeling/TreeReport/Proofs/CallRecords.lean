import TreeReport.Proofs.OptionAliases
import TreeReport.Proofs.QuietRuns

/-!
What calls of the entry points log. Three layers speak in turn: validation, the one that
reports its warnings, and the entry point itself. They speak to those who debug, but for a
complaint of validation about options of a wrong type. So a host that does not debug hears
of nothing else. A call that fails before a layer speaks leaves it unheard.
-/
namespace TreeReport

open Logging (Record Session Origin)

namespace Options

/-- The options that validation can read: none, a record of them, or a mapping. -/
inductive Readable : Value → Prop where
  | none : Readable .null
  | record (showPositions colors : Value) : Readable (.options showPositions colors)
  | mapping (form : MappingForm) (entries : Entries) : Readable (.mapping form entries)

variable {options : Value} {found : Validated}

theorem records_of_readable (readable : Readable options)
    (read : validate false options = .ok found) : found.records = [] := by
  cases readable with
  | none | record =>
      cases read
      rfl
  | mapping form entries =>
      rw [validate] at read
      cases came : readEntries false default entries with
      | ok pair =>
          rw [came] at read
          cases read
          rfl
      | error refusal =>
          rw [came] at read
          cases read

theorem validate_unreadable (unread : ¬ Readable options) :
    validate false options =
      .ok ⟨default, [.tolerated (.notMapping options.typeName)],
        [⟨.warning, loggerName, (Fault.notMapping options.typeName).message⟩]⟩ := by
  cases options with
  | null => exact absurd .none unread
  | options showPositions colors => exact absurd (.record showPositions colors) unread
  | mapping form entries => exact absurd (.mapping form entries) unread
  | _ => rfl

theorem records_of_unreadable (unread : ¬ Readable options)
    (read : validate false options = .ok found) :
    found.records = [⟨.warning, "treeinspect.core.options",
      ("Invalid options type: expected mapping, received " : Text) ++ options.typeName ++
        ("." : Text)⟩] := by
  rw [validate_unreadable unread] at read
  cases read
  rfl

theorem validate_raised {form : MappingForm} {entries : Entries}
    (read : validate false (.mapping form entries) = .ok found) :
    ∃ raised, List.Forall₂ Raises entries raised ∧ found.warnings = raised.flatten := by
  have speakable : Speakable entries := by
    by_contra dumb
    rw [validate_unspeakable form dumb] at read
    cases read
  obtain ⟨options, warnings, came, reads⟩ := readEntries_reads default speakable
  rw [validate, came] at read
  cases read
  exact reads.raised

end Options

namespace Logging.Session

theorem logAll_rootLevel (session : Session) (origin : Origin) (records : List Record) :
    (session.logAll origin records).rootLevel = session.rootLevel := by
  induction records generalizing session with
  | nil => rfl
  | cons record rest ih =>
      obtain ⟨storage, stderr, console, same⟩ := log_frame session origin record
      change ((session.log origin record).logAll origin rest).rootLevel = session.rootLevel
      rw [ih, same]

theorem logAll_debug {session : Session} (above : session.rootLevel.admits .debug = false)
    (origin : Origin) {records : List Record} (debug : ∀ record ∈ records, record.level = .debug) :
    session.logAll origin records = session := by
  induction records with
  | nil => rfl
  | cons record rest ih =>
      obtain ⟨here, later⟩ := List.forall_mem_cons.mp debug
      have unheard : session.log origin record = session :=
        log_below (by rw [here]; exact above) origin
      change (session.log origin record).logAll origin rest = session
      rw [unheard, ih later]

theorem logAll_undebugged {session : Session} (above : session.rootLevel.admits .debug = false)
    (origin : Origin) (records : List Record) {more : List Record}
    (debug : ∀ record ∈ more, record.level = .debug) :
    session.logAll origin (records ++ more) = session.logAll origin records := by
  have split : session.logAll origin (records ++ more) =
      (session.logAll origin records).logAll origin more := List.foldl_append
  rw [split]
  apply logAll_debug
  · rw [logAll_rootLevel]
    exact above
  · exact debug

end Logging.Session

namespace Inspection

open Options (Readable settle validate)

/-- The records that validation leaves to others: one for each warning, and one that
announces the report, if it can be written. -/
def debugRecords (value : Value) (found : Options.Validated) (resolved : Options) : List Record :=
  found.warnings.map Options.constraintRecord ++
    if ∀ n ∈ resolved.showPositions.spelled, Decimal.Short n then [announced value resolved] else []

theorem debugRecords_debug (value : Value) (found : Options.Validated) (resolved : Options) :
    ∀ record ∈ debugRecords value found resolved, record.level = .debug := by
  intro record member
  rcases List.mem_append.mp member with constraint | last
  · obtain ⟨warning, -, rfl⟩ := List.mem_map.mp constraint
    rfl
  · split at last
    · rw [List.mem_singleton.mp last]
      rfl
    · contradiction

variable {policy : ColorPolicy} {value options : Value} {overrides : Options.Overrides}
  {found : Options.Validated}

theorem inspect_records (read : validate false options = .ok found) :
    (inspect policy value options overrides).2 =
      found.records ++ debugRecords value found (settle found.options overrides policy.forced) := by
  rw [inspect_read (Options.lenient_of_ok read), debugRecords, constraints]
  split
  · exact List.append_assoc _ _ _
  · rw [List.append_nil]

/-- A call logs one record for each warning that lenient validation has about the options,
in order, and then one that announces the report, if its setting for positions can be
written, all for debugging. Of a mapping these warnings go through the entries. Before them
stands one record of a higher level, which is a warning, exactly when the options are not
of a type that validation can read; it is all that a host hears that does not debug. A call
whose options have no validation logs nothing, and it gives no report. -/
theorem calls_debug_but_for_wrong_type (policy : ColorPolicy) (value options : Value)
    (overrides : Options.Overrides) :
    let report := (inspect policy value options overrides).1
    let records := (inspect policy value options overrides).2
    (∀ refusal, validate false options = .error refusal → report = .error ⟨⟩ ∧ records = []) ∧
    ∀ validated, validate false options = .ok validated →
      let resolved := settle validated.options overrides policy.forced
      let constraints := validated.warnings.map fun warning =>
        (⟨.debug, "treeinspect.core.options",
          ("Option constraint: " : Text) ++ warning.message⟩ : Record)
      let announcement : Record := ⟨.debug, "treeinspect.api",
        ("Inspecting " : Text) ++ value.typeName ++ (" (positions=" : Text) ++
          resolved.showPositions.plain ++ (", colors=" : Text) ++ resolved.colors.plain ++
          (")" : Text)⟩
      ∃ complaint,
        ((∀ n ∈ resolved.showPositions.spelled, Decimal.Short n) →
          report = Report.render (displayOf resolved) value ∧
          records = complaint ++ constraints ++ [announcement]) ∧
        ((∃ n ∈ resolved.showPositions.spelled, ¬ Decimal.Short n) →
          report = .error ⟨⟩ ∧ records = complaint ++ constraints) ∧
        (∀ form entries, options = .mapping form entries →
          ∃ raised, List.Forall₂ Options.Raises entries raised ∧
            validated.warnings = raised.flatten) ∧
        (Readable options → complaint = []) ∧
        (¬ Readable options →
          complaint = [⟨.warning, "treeinspect.core.options",
            ("Invalid options type: expected mapping, received " : Text) ++ options.typeName ++
              ("." : Text)⟩]) ∧
        ((∀ record ∈ records, record.level = .debug) ↔ Readable options) ∧
        ∀ (session : Session) (origin : Origin), session.rootLevel.admits .debug = false →
          session.logAll origin records = session.logAll origin complaint := by
  intro report records
  constructor
  · intro refusal failed
    have nothing : inspect policy value options overrides = (.error ⟨⟩, []) :=
      inspect_unread (Options.lenient_of_failed failed)
    exact ⟨congrArg Prod.fst nothing, congrArg Prod.snd nothing⟩
  intro validated read resolved constraints announcement
  have split : records = validated.records ++ debugRecords value validated resolved :=
    inspect_records read
  have debug := debugRecords_debug value validated resolved
  refine ⟨validated.records, ?_, ?_, ?_, fun readable => Options.records_of_readable readable read,
    fun unread => Options.records_of_unreadable unread read, ⟨?_, ?_⟩, ?_⟩
  · intro short
    have whole : inspect policy value options overrides = _ :=
      inspect_read (Options.lenient_of_ok read)
    rw [if_pos short] at whole
    exact ⟨congrArg Prod.fst whole, congrArg Prod.snd whole⟩
  · rintro ⟨n, member, long⟩
    have whole : inspect policy value options overrides = _ :=
      inspect_read (Options.lenient_of_ok read)
    rw [if_neg fun short => long (short n member)] at whole
    exact ⟨congrArg Prod.fst whole, congrArg Prod.snd whole⟩
  · rintro form entries rfl
    exact Options.validate_raised read
  · intro all
    by_contra unread
    rw [split, Options.records_of_unreadable unread read] at all
    have apart : Logging.Level.warning ≠ .debug := by decide
    exact apart (List.forall_mem_cons.mp all).1
  · intro readable
    rw [split, Options.records_of_readable readable read]
    exact debug
  · intro session origin above
    rw [split]
    exact Session.logAll_undebugged above origin validated.records debug

/-- A list in the place of options is complained of at a level that hosts hear. -/
theorem list_as_options_warns :
    let records := (inspect .asAsked .null (.sequence .list []) {}).2
    let complaint : Text := ("Invalid options type: expected mapping, received " : Text) ++
      ("list" : Text) ++ ("." : Text)
    records =
        [⟨.warning, "treeinspect.core.options", complaint⟩,
          ⟨.debug, "treeinspect.core.options",
            ("Option constraint: " : Text) ++ (complaint ++ (" Using defaults." : Text))⟩,
          ⟨.debug, "treeinspect.api", ("Inspecting " : Text) ++ ("NoneType" : Text) ++
            (" (positions=" : Text) ++ ("True" : Text) ++ (", colors=" : Text) ++
            ("False" : Text) ++ (")" : Text)⟩] ∧
      ¬ ∀ record ∈ records, record.level = .debug := by
  intro records complaint
  have unread : ¬ Readable (.sequence .list []) := by
    intro readable
    cases readable
  have shown : records = _ := inspect_records (Options.validate_unreadable unread)
  have announceable : ∀ n ∈ (settle .default {} ColorPolicy.asAsked.forced).showPositions.spelled,
      Decimal.Short n := by
    simp [settle, Options.default, Value.isNull, Value.spelled]
  rw [debugRecords, if_pos announceable] at shown
  refine ⟨shown, fun all => ?_⟩
  rw [shown] at all
  exact absurd (List.forall_mem_cons.mp all).1 (by decide)

end Inspection

end TreeReport
