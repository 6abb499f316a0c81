import TicketMigration.CommandLine.Program
import TicketMigration.Proofs.Transcript

/-!
# Options that a command line gives

A flag can only be set on the command line, never be taken back, and there is no option for a
dictionary of user names.  So of the settings that come from a command line it is known what they
can be: a flag that is there is on, and the verification of the certificate is off.

Each argument is taken by one of a few steps, and every step keeps this.

## Main definitions

* `Flag` — the settings that are on or off, `Flag.given` finds one in the settings.
* `Settings.OnlySwitches` — what is known of the settings from a command line.

## Main statements

* `Arguments.onlySwitches_of_takeBundle` — one step of taking options.
* `onlySwitches_of_parseArguments` — **a command line only switches flags on, and the verification
  off.**
-/

namespace TicketMigration

/-! ### Flags -/

/-- A setting that is on or off. -/
inductive Flag
  /-- The token is one of an administrator. -/
  | admin
  /-- Each issue has a link to its ticket. -/
  | link
  /-- The component is a label. -/
  | labelComponent
  /-- The milestone is a label. -/
  | labelMilestone
  /-- Nothing is created. -/
  | dryRun
  deriving DecidableEq, Repr

namespace Flag

/-- What the settings say about a flag. -/
def given (settings : Settings) : Flag → Option Bool
  | admin => settings.admin
  | link => settings.link
  | labelComponent => settings.labelComponent
  | labelMilestone => settings.labelMilestone
  | dryRun => settings.dryRun

/-- The name of a flag in the section of a settings file that is about issues. -/
def name : Flag → String
  | admin => "admin"
  | link => "link"
  | labelComponent => "label_component"
  | labelMilestone => "label_milestone"
  | dryRun => "dry_run"

end Flag

/-! ### Steps -/

/-- No flag is off, the verification is not on, and there are no user names. -/
structure Settings.OnlySwitches (settings : Settings) : Prop where
  /-- A flag that is given is on. -/
  flag : ∀ flag : Flag, flag.given settings ≠ some false
  /-- The verification is off if it is given. -/
  verify : ∀ verify, settings.verify = some verify → verify = some false
  /-- There is no dictionary of user names. -/
  usernames : settings.usernames = none

theorem Settings.onlySwitches_default : ({} : Settings).OnlySwitches where
  flag flag := by cases flag <;> exact nofun
  verify := nofun
  usernames := rfl

namespace Arguments

variable {arguments next : Arguments}

/-- An option with a value sets no flag. -/
theorem onlySwitches_of_takeValue (h : arguments.settings.OnlySwitches) {option : CommandOption}
    {value : List Char} (taken : arguments.takeValue option value = .ok next) :
    next.settings.OnlySwitches := by
  obtain ⟨flag, verify, usernames⟩ := h
  have kept {settings : Settings} (same : ∀ f : Flag, f.given settings = f.given arguments.settings)
      (hv : settings.verify = arguments.settings.verify)
      (hu : settings.usernames = arguments.settings.usernames) : settings.OnlySwitches :=
    ⟨fun f => same f ▸ flag f, hv ▸ verify, hu ▸ usernames⟩
  cases option
  case maxTickets =>
    simp only [takeValue] at taken
    generalize (if value = dashes then some 0 else Text.integer? value) = number at taken
    cases number with
    | none => cases taken
    | some n =>
      cases taken
      exact kept (fun f => by cases f <;> rfl) rfl rfl
  all_goals
    cases taken
    exact kept (fun f => by cases f <;> rfl) rfl rfl

/-- A flag is switched on, or the verification off. -/
theorem onlySwitches_of_takeFlag (h : arguments.settings.OnlySwitches) {option : CommandOption}
    (taken : arguments.takeFlag option = .migrate next) : next.settings.OnlySwitches := by
  obtain ⟨flag, verify, usernames⟩ := h
  cases option
  case help => cases taken
  case version => cases taken
  case noVerify =>
    cases taken
    refine ⟨fun f => ?_, fun v hv => (Option.some.inj hv).symm, usernames⟩
    have before := flag f
    cases f <;> exact before
  all_goals
    cases taken
    refine ⟨fun f => ?_, verify, usernames⟩
    have before := flag f
    -- the flag itself is on now, and every other one is as it was
    cases f <;> first | exact before | exact nofun

theorem onlySwitches_of_takeFlags {options : List CommandOption} :
    ∀ {arguments : Arguments}, arguments.settings.OnlySwitches →
      arguments.takeFlags options = .migrate next → next.settings.OnlySwitches := by
  induction options with
  | nil =>
    intro arguments h taken
    cases taken
    exact h
  | cons option rest ih =>
    intro arguments h taken
    rw [takeFlags] at taken
    split at taken
    · next between ht => exact ih (onlySwitches_of_takeFlag h ht) taken
    · next other ht => exact absurd taken (ht next)

/-- **One step of taking options.** -/
theorem onlySwitches_of_takeBundle (h : arguments.settings.OnlySwitches) {b : Bundle}
    {value : Option (List Char)} (taken : arguments.takeBundle b value = .ok (.migrate next)) :
    next.settings.OnlySwitches := by
  cases value with
  | none => exact onlySwitches_of_takeFlags h (Except.ok.inj taken)
  | some value =>
    rw [takeBundle] at taken
    split at taken
    · next between ht =>
      obtain ⟨after, ha, hm⟩ := Except.map_eq_ok taken
      cases hm
      exact onlySwitches_of_takeValue (onlySwitches_of_takeFlags h ht) ha
    · next other ht => exact absurd (Except.ok.inj taken) (ht next)

end Arguments

/-! ### The command line -/

/-- An argument that is taken is passed over, or a bundle of options that is taken. -/
theorem takeArguments_cons {arguments next : Arguments} {unused : List (List Char)}
    {argument : Argument} {rest : List Argument}
    (taken : takeArguments arguments unused (argument :: rest) = .ok (.migrate next)) :
    (∃ unused, takeArguments arguments unused rest = .ok (.migrate next)) ∨
      ∃ b value rest' between, Bundle.complete b rest = .ok (value, rest') ∧
        arguments.takeBundle b value = .ok (.migrate between) ∧
        takeArguments between unused rest' = .ok (.migrate next) := by
  rw [takeArguments] at taken
  split at taken
  · exact .inl ⟨_, taken⟩
  · cases taken
  · next b hb =>
    split at taken
    · cases taken
    · next value rest' hc =>
      split at taken
      · next between ht => exact .inr ⟨b, value, rest', between, hc, ht, taken⟩
      · next ht => exact absurd taken (ht next)

/-- Whatever arguments are taken, flags are only switched on. -/
theorem onlySwitches_of_takeArguments {arguments next : Arguments} {unused : List (List Char)}
    {sorted : List Argument} (h : arguments.settings.OnlySwitches)
    (taken : takeArguments arguments unused sorted = .ok (.migrate next)) :
    next.settings.OnlySwitches := by
  cases sorted with
  | nil =>
    rw [takeArguments] at taken
    split at taken
    · cases taken
      exact h
    · cases taken
  | cons argument rest =>
    rcases takeArguments_cons taken with ⟨_, further⟩ | ⟨b, value, rest', between, hc, hb, further⟩
    · exact onlySwitches_of_takeArguments h further
    · have shorter := Bundle.length_complete_le hc
      exact onlySwitches_of_takeArguments (Arguments.onlySwitches_of_takeBundle h hb) further
termination_by sorted.length
decreasing_by
  all_goals
    subst_vars
    simp only [List.length_cons]
    omega

/-- **A command line only switches flags on, and the verification off.** -/
theorem onlySwitches_of_parseArguments {argv : List String} {arguments : Arguments}
    (parsed : parseArguments argv = .ok (.migrate arguments)) :
    arguments.settings.OnlySwitches := by
  rw [parseArguments] at parsed
  split at parsed
  · cases parsed
  · exact onlySwitches_of_takeArguments Settings.onlySwitches_default parsed

end TicketMigration
