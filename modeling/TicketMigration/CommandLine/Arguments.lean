import TicketMigration.CommandLine.Options
import TicketMigration.Settings.Basic
import TicketMigration.Text.Decimal

/-!
# Arguments

The arguments of the command line are sorted into options and values first.  Long names may be
shortened as long as only one option is meant; the value of an option follows as the next argument,
behind an equals sign, or right behind a letter; several letters may follow one dash.  A negative
number and a text with a space are values even though they begin with a dash.  Behind `--`
everything is a value.

Then the options are taken in their order.  There are no values but those of options.

## Main definitions

* `Argument` is an argument that has been sorted, `sortArguments` sorts.
* `Bundle` is what one argument with options asks for.
* `parseArguments` reads the command line.
* `UsageFault` lists what can be wrong with it.
-/

namespace TicketMigration

open Text

/-- What is wrong with the command line. -/
inductive UsageFault
  /-- A shortened name could mean several options. -/
  | ambiguous (argument : List Char) (options : List CommandOption)
  /-- A flag has a value. -/
  | flagWithValue (option : CommandOption) (value : List Char)
  /-- An option lacks its value. -/
  | noValue (option : CommandOption)
  /-- The value of an option is no number. -/
  | notNumber (option : CommandOption) (value : List Char)
  /-- Arguments are neither options nor values of options. -/
  | unrecognized (arguments : List (List Char))
  deriving DecidableEq, Repr

/-- The text that is shown for a fault. -/
def UsageFault.message : UsageFault → String
  | ambiguous argument options =>
    "ambiguous option: " ++ String.ofList argument ++ " could match " ++
      ", ".intercalate (options.map CommandOption.longName)
  | flagWithValue option value =>
    "argument " ++ option.display ++ ": ignored explicit argument " ++ shown value
  | noValue option => "argument " ++ option.display ++ ": expected one argument"
  | notNumber option value =>
    "argument " ++ option.display ++ ": invalid int value: " ++ shown value
  | unrecognized arguments =>
    "unrecognized arguments: " ++ " ".intercalate (arguments.map String.ofList)

/-! ### Sorting -/

/-- What an argument is. -/
inductive Argument
  /-- A value. -/
  | value (s : List Char)
  /-- The mark that only values follow. -/
  | mark
  /-- A long name, with the value behind its equals sign. -/
  | long (option : CommandOption) (value : Option (List Char))
  /-- A letter, with what follows it. -/
  | short (option : CommandOption) (value : Option (List Char))
  /-- A name that no option has. -/
  | unknown (s : List Char)
  deriving DecidableEq, Repr

/-- The two dashes behind which there are only values. -/
def dashes : List Char := ['-', '-']

/-- Whether a text has digits and nothing else, at least one. -/
def areDigits (s : List Char) : Bool :=
  !s.isEmpty && s.all isDigit

/-- Whether an argument is a negative number, with or without a point.  A newline may follow it. -/
def isNegativeNumber (s : List Char) : Bool :=
  match s with
  | '-' :: rest =>
    let number := if rest.getLast? = some '\n' then rest.dropLast else rest
    areDigits number ||
      match number.dropWhile isDigit with
      | '.' :: fraction => areDigits fraction
      | _ => false
  | _ => false

/-- What an argument is that begins with a dash but has no known name. -/
def nameless (s : List Char) : Argument :=
  if isNegativeNumber s || s.contains ' ' then .value s else .unknown s

/-- What the part of a long name in front of an equals sign is cut into. -/
def cutAtEquals (s : List Char) : List Char × Option (List Char) :=
  match s.dropWhile (· != '=') with
  | _ :: value => (s.takeWhile (· != '='), some value)
  | [] => (s, none)

/-- Sorts an argument that begins with two dashes.  A whole name is taken as it is. -/
def sortLong (s : List Char) : Except UsageFault Argument :=
  let (name, value) := cutAtEquals s
  match CommandOption.all.find? fun o => o.longName.toList == name with
  | some option => .ok (.long option value)
  | none =>
    match CommandOption.beginningWith name with
    | [] => .ok (nameless s)
    | [option] => .ok (.long option value)
    | options => .error (.ambiguous s options)

/-- Sorts an argument that begins with one dash and a letter. -/
def sortShort (s : List Char) (letter : Char) (rest : List Char) : Argument :=
  match CommandOption.ofLetter? letter, rest with
  | none, _ => nameless s
  | some option, [] => .short option none
  | some option, '=' :: value => .short option (some value)
  | some option, value => .short option (some value)

/-- Sorts an argument. -/
def sortArgument (s : List Char) : Except UsageFault Argument :=
  match s with
  | '-' :: '-' :: _ => sortLong s
  | '-' :: letter :: rest => .ok (sortShort s letter rest)
  | _ => .ok (.value s)

/-- Sorts the arguments. -/
def sortArguments : List (List Char) → Except UsageFault (List Argument)
  | [] => .ok []
  | s :: rest =>
    if s = dashes then .ok (.mark :: rest.map .value)
    else do
      let argument ← sortArgument s
      let arguments ← sortArguments rest
      return argument :: arguments

/-! ### Taking options -/

/-- What one argument asks for: some flags, and then one option, perhaps with its value. -/
structure Bundle where
  /-- The flags in front. -/
  flags : List CommandOption
  /-- The last option. -/
  last : CommandOption
  /-- The value of the last option, if the argument has it. -/
  value : Option (List Char)
  deriving DecidableEq, Repr

/-- The bundle of a letter and what follows it.  More letters may follow a flag. -/
def bundle (option : CommandOption) : List Char → Except UsageFault Bundle
  | [] => .ok ⟨[], option, none⟩
  | c :: rest =>
    if option.takesValue then .ok ⟨[], option, some (c :: rest)⟩
    else
      match CommandOption.ofLetter? c with
      | none => .error (.flagWithValue option (c :: rest))
      | some next => (bundle next rest).map fun b => { b with flags := option :: b.flags }

/-- The bundle of an option of which it is known whether it has a value. -/
def bundleOf (option : CommandOption) (value : Option (List Char)) (more : Bool) :
    Except UsageFault Bundle :=
  match value with
  | none => .ok ⟨[], option, none⟩
  | some value =>
    if option.takesValue then .ok ⟨[], option, some value⟩
    else if more && !value.isEmpty then bundle option value
    else .error (.flagWithValue option value)

/-- What the command line says. -/
structure Arguments where
  /-- The settings that it gives. -/
  settings : Settings := {}
  /-- The settings file that it names. -/
  config : Option String := none
  /-- The log is shown in full. -/
  debug : Bool := false
  deriving Repr

/-- What the command line asks for. -/
inductive Command
  /-- To explain the options. -/
  | help
  /-- To tell the version. -/
  | version
  /-- To migrate. -/
  | migrate (arguments : Arguments)
  deriving Repr

namespace Arguments

/-- Takes an option with a value.  Two dashes stand for no value at all, which is an empty text or
zero. -/
def takeValue (arguments : Arguments) (option : CommandOption) (value : List Char) :
    Except UsageFault Arguments :=
  let settings := arguments.settings
  let words := if value = dashes then some "" else some (String.ofList value)
  match option with
  | .tracker => .ok { arguments with settings := { settings with tracker := words } }
  | .forge => .ok { arguments with settings := { settings with forge := words } }
  | .token => .ok { arguments with settings := { settings with token := words } }
  | .project => .ok { arguments with settings := { settings with project := words } }
  | .component => .ok { arguments with settings := { settings with component := words } }
  | .query => .ok { arguments with settings := { settings with query := words } }
  | .mapping => .ok { arguments with settings := { settings with mapping := words } }
  | .extraLabel => .ok { arguments with settings := { settings with extraLabel := words } }
  | .user => .ok { arguments with settings := { settings with user := words } }
  | .password => .ok { arguments with settings := { settings with password := words } }
  | .cacheDirectory => .ok { arguments with settings := { settings with cacheDirectory := words } }
  | .config => .ok { arguments with config := words }
  | .maxTickets =>
    match if value = dashes then some 0 else integer? value with
    | some n => .ok { arguments with settings := { settings with maxTickets := some n } }
    | none => .error (.notNumber option value)
  | _ => .ok arguments

/-- Takes a flag. -/
def takeFlag (arguments : Arguments) (option : CommandOption) : Command :=
  let settings := arguments.settings
  match option with
  | .help => .help
  | .version => .version
  | .admin => .migrate { arguments with settings := { settings with admin := some true } }
  | .link => .migrate { arguments with settings := { settings with link := some true } }
  | .labelComponent =>
    .migrate { arguments with settings := { settings with labelComponent := some true } }
  | .labelMilestone =>
    .migrate { arguments with settings := { settings with labelMilestone := some true } }
  | .dryRun => .migrate { arguments with settings := { settings with dryRun := some true } }
  | .noVerify =>
    .migrate { arguments with settings := { settings with verify := some (some false) } }
  | .debug => .migrate { arguments with debug := true }
  | _ => .migrate arguments

/-- Takes flags, up to one that asks for something else than to migrate. -/
def takeFlags (arguments : Arguments) : List CommandOption → Command
  | [] => .migrate arguments
  | option :: rest =>
    match arguments.takeFlag option with
    | .migrate next => next.takeFlags rest
    | command => command

end Arguments

/-- The value of the last option of a bundle, and the arguments behind it.  A flag has no value. -/
def Bundle.complete (b : Bundle) (rest : List Argument) :
    Except UsageFault (Option (List Char) × List Argument) :=
  match b.value with
  | some value => .ok (some value, rest)
  | none =>
    if b.last.takesValue then
      match rest with
      | .value s :: rest => .ok (some s, rest)
      | _ => .error (.noValue b.last)
    else .ok (none, rest)

/-- Takes the options of a bundle. -/
def Arguments.takeBundle (arguments : Arguments) (b : Bundle) (value : Option (List Char)) :
    Except UsageFault Command :=
  match value with
  | none => .ok (arguments.takeFlags (b.flags ++ [b.last]))
  | some value =>
    match arguments.takeFlags b.flags with
    | .migrate next => (next.takeValue b.last value).map .migrate
    | command => .ok command

/-- The text of an argument that is not used. -/
def Argument.unused? : Argument → Option (List Char)
  | .value s => some s
  | .mark => some dashes
  | .unknown s => some s
  | _ => none

/-- The bundle of an argument, if it has options. -/
def Argument.bundle? : Argument → Option (Except UsageFault Bundle)
  | .long option s => some (bundleOf option s false)
  | .short option s => some (bundleOf option s true)
  | _ => none

theorem Bundle.length_complete_le {b : Bundle} {rest : List Argument} {value : Option (List Char)}
    {rest' : List Argument} (h : b.complete rest = .ok (value, rest')) :
    rest'.length ≤ rest.length := by
  unfold Bundle.complete at h
  split at h
  · cases h; exact Nat.le_refl _
  · split at h
    · split at h
      · cases h; simp
      · cases h
    · cases h; exact Nat.le_refl _

/-- Takes arguments in their order, and finds fault with those that are not used when all are
taken. -/
def takeArguments (arguments : Arguments) (unused : List (List Char)) :
    List Argument → Except UsageFault Command
  | [] => if unused.isEmpty then .ok (.migrate arguments) else .error (.unrecognized unused)
  | argument :: rest =>
    match argument.bundle? with
    | none => takeArguments arguments (unused ++ argument.unused?.toList) rest
    | some (.error fault) => .error fault
    | some (.ok b) =>
      match h : b.complete rest with
      | .error fault => .error fault
      | .ok (value, rest') =>
        have := Bundle.length_complete_le h
        match arguments.takeBundle b value with
        | .ok (.migrate next) => takeArguments next unused rest'
        | other => other
termination_by l => l.length
decreasing_by
  · simp
  · simp only [List.length_cons]
    omega

/-- Reads the command line. -/
def parseArguments (arguments : List String) : Except UsageFault Command :=
  match sortArguments (arguments.map String.toList) with
  | .error fault => .error fault
  | .ok sorted => takeArguments {} [] sorted

end TicketMigration
