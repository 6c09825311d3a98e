import TreeReport.CommandLine.Arguments

/-!
Reading switches and files. Switches may come in any order and more than once, as long
as not both colour options are among them; the files follow, as they are or behind a
double dash. Every such list of arguments is accepted and comes to what it names.
-/
namespace TreeReport.CommandLine

section Words

/-- The options that take no value and do not stop the run. -/
def switches : List Flag := [.noPositions, .color, .noColor, .debug]

/-- The words name the files, plainly or behind a double dash. -/
def Names (words files : List Text) : Prop :=
  words = ("--" : Text) :: files ∨
    words = files ∧ ∀ name ∈ files, classify name = .ok (.plain name)

inductive Listed (files : List Text) : List Token → Prop where
  | divided : Listed files (.divider :: files.map .plain)
  | plain : Listed files (files.map .plain)

theorem tokens_plain {files : List Text}
    (plain : ∀ name ∈ files, classify name = .ok (.plain name)) :
    tokens files = .ok (files.map .plain) := by
  induction files with
  | nil => rfl
  | cons name rest ih =>
      have here := plain name (by simp)
      have other : name ≠ ("--" : Text) := by
        rintro rfl
        have ambiguous : classify "--" ≠ .ok (.plain "--") := by nofun
        exact ambiguous here
      have tail := ih fun later member => plain later (List.mem_cons_of_mem name member)
      simp only [tokens, other, if_false, here, tail]
      rfl

theorem tokens_names {words files : List Text} (names : Names words files) :
    ∃ found, tokens words = .ok found ∧ Listed files found := by
  rcases names with rfl | ⟨rfl, plain⟩
  · exact ⟨_, rfl, .divided⟩
  · exact ⟨_, tokens_plain plain, .plain⟩

theorem display_switch {flag : Flag} (switch : flag ∈ switches) :
    flag.display ≠ ("--" : Text) ∧ classify flag.display = .ok (.option flag none) := by
  simp only [switches, List.mem_cons, List.not_mem_nil, or_false] at switch
  rcases switch with rfl | rfl | rfl | rfl <;> exact ⟨by decide, rfl⟩

theorem tokens_switches {flags : List Flag} (all : ∀ flag ∈ flags, flag ∈ switches)
    {words : List Text} {found : List Token} (read : tokens words = .ok found) :
    tokens (flags.map Flag.display ++ words) =
      .ok (flags.map (fun flag => .option flag none) ++ found) := by
  induction flags with
  | nil => exact read
  | cons flag rest ih =>
      obtain ⟨word, here⟩ := display_switch (all flag (by simp))
      have tail := ih fun later member => all later (List.mem_cons_of_mem flag member)
      simp only [List.map_cons, List.cons_append, tokens, word, if_false, here, tail]
      rfl

end Words

section Progress

/-- The settings once the switches have been read. -/
def Arguments.settled (arguments : Arguments) (flags : List Flag) : Arguments :=
  { arguments with
    showPositions := arguments.showPositions && !flags.contains .noPositions
    colors := if flags.contains .color then some true
      else if flags.contains .noColor then some false else arguments.colors
    debug := arguments.debug || flags.contains .debug }

def Agree (colors : Option Bool) (flags : List Flag) : Prop :=
  ¬ (.color ∈ flags ∧ .noColor ∈ flags) ∧ (colors = some true → .noColor ∉ flags) ∧
    (colors = some false → .color ∉ flags)

theorem settled_nil (arguments : Arguments) : arguments.settled [] = arguments := by
  simp [Arguments.settled]

theorem advance_option {flag : Flag} (switch : flag ∈ switches) (arguments : Arguments)
    (rest : List Token) :
    advance { arguments := arguments } (.option flag none :: rest) =
      match Progress.switch { arguments := arguments } flag with
      | .error stop => .error stop
      | .ok next => advance next rest := by
  simp only [switches, List.mem_cons, List.not_mem_nil, or_false] at switch
  rcases switch with rfl | rfl | rfl | rfl <;> rfl

theorem switch_settles {flag : Flag} {flags : List Flag} (switch : flag ∈ switches)
    {arguments : Arguments} (agree : Agree arguments.colors (flag :: flags)) :
    ∃ next : Arguments,
      Progress.switch { arguments := arguments } flag = .ok { arguments := next } ∧
      Agree next.colors flags ∧ next.settled flags = arguments.settled (flag :: flags) := by
  obtain ⟨apart, painted, bare⟩ := agree
  simp only [List.mem_cons, not_or] at apart painted bare
  have further : Agree arguments.colors flags :=
    ⟨fun both => apart ⟨.inr both.1, .inr both.2⟩, fun set => (painted set).2,
      fun set => (bare set).2⟩
  simp only [switches, List.mem_cons, List.not_mem_nil, or_false] at switch
  rcases switch with rfl | rfl | rfl | rfl
  · exact ⟨{ arguments with showPositions := false }, rfl, further, by simp [Arguments.settled]⟩
  · have free : arguments.colors ≠ some false := fun set => (bare set).1 rfl
    have alone : .noColor ∉ flags := fun member => apart ⟨.inl rfl, .inr member⟩
    refine ⟨{ arguments with colors := some true }, ?_, ⟨further.1, fun _ => alone, nofun⟩, ?_⟩
    · simp [Progress.switch, Progress.setColors, free]
    · simp [Arguments.settled, alone]
  · have free : arguments.colors ≠ some true := fun set => (painted set).1 rfl
    have alone : .color ∉ flags := fun member => apart ⟨.inr member, .inl rfl⟩
    refine ⟨{ arguments with colors := some false }, ?_, ⟨further.1, nofun, fun _ => alone⟩, ?_⟩
    · simp [Progress.switch, Progress.setColors, free]
    · simp [Arguments.settled, alone]
  · exact ⟨{ arguments with debug := true }, rfl, further, by simp [Arguments.settled]⟩

theorem advance_switches {flags : List Flag} (all : ∀ flag ∈ flags, flag ∈ switches)
    {arguments : Arguments} (agree : Agree arguments.colors flags) (rest : List Token) :
    advance { arguments := arguments } (flags.map (fun flag => .option flag none) ++ rest) =
      advance { arguments := arguments.settled flags } rest := by
  induction flags generalizing arguments with
  | nil => rw [settled_nil, List.map_nil, List.nil_append]
  | cons flag flags ih =>
      obtain ⟨next, set, still, same⟩ := switch_settles (all flag (by simp)) agree
      have tail := ih (fun other member => all other (List.mem_cons_of_mem flag member)) still
      rw [List.map_cons, List.cons_append, advance_option (all flag (by simp)), set]
      simp only [tail, same]

theorem advance_plain (files : List Text) {progress : Progress}
    (still : progress.block ≠ .closed) :
    ∃ block, advance progress (files.map .plain) =
      .ok ⟨{ progress.arguments with files := progress.arguments.files ++ files }, block,
        progress.extras⟩ := by
  induction files generalizing progress with
  | nil => exact ⟨progress.block, by simp [advance]⟩
  | cons name rest ih =>
      have opened : (progress.addPlain name).block ≠ .closed ∧
          (progress.addPlain name).extras = progress.extras ∧
          (progress.addPlain name).arguments =
            { progress.arguments with files := progress.arguments.files ++ [name] } := by
        unfold Progress.addPlain
        split
        · next closed => exact absurd closed still
        · exact ⟨nofun, rfl, rfl⟩
      obtain ⟨block, same⟩ := ih opened.1
      refine ⟨block, ?_⟩
      rw [List.map_cons, advance, same, opened.2.1, opened.2.2]
      simp

end Progress

def Arguments.ofSwitches (flags : List Flag) (files : List Text) : Arguments where
  files := files
  showPositions := !flags.contains .noPositions
  colors := if flags.contains .color then some true
    else if flags.contains .noColor then some false else none
  debug := flags.contains .debug

/-- Switches in any order and files behind them are accepted for what they stand for. -/
theorem parse_switches {flags : List Flag} (all : ∀ flag ∈ flags, flag ∈ switches)
    (apart : ¬ (.color ∈ flags ∧ .noColor ∈ flags)) {words files : List Text}
    (names : Names words files) :
    parse (flags.map Flag.display ++ words) = .ok (.ofSwitches flags files) := by
  obtain ⟨found, read, listed⟩ := tokens_names names
  have agree : Agree ({} : Arguments).colors flags := ⟨apart, nofun, nofun⟩
  have advanced := advance_switches all agree found
  have ended : ∃ block, advance { arguments := ({} : Arguments).settled flags } found =
      .ok ⟨{ ({} : Arguments).settled flags with files := files }, block, []⟩ := by
    cases listed with
    | divided => exact advance_plain files nofun
    | plain => exact advance_plain files nofun
  obtain ⟨block, last⟩ := ended
  rw [parse, tokens_switches all read]
  simp only [advanced, last]
  simp [Arguments.settled, Arguments.ofSwitches]

end TreeReport.CommandLine
