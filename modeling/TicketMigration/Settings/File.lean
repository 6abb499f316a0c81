import TicketMigration.Text.Blank
import TicketMigration.Text.Lines
import TicketMigration.Text.Lower
import TicketMigration.Text.Quoted
import TicketMigration.Text.Utf8

/-!
# Settings files

A settings file has sections, each with a header `[name]` and options `name = value` or
`name: value`.  A line that is indented more than the option before it continues the value of that
option.  A line whose first character is `#` or `;` is a comment.  No section but the defaults and
no option may be given twice.

## Main definitions

* `SettingsFile` is what a file says, `SettingsFile.get?` looks an option up.
* `SettingsFile.parse` reads the text of a file, `SettingsFile.ofBytes` its bytes.
* `FileFault.message` is the text that is shown for a faulty file.
* `writeSections` writes a file.
-/

namespace TicketMigration

open Text

/-- What is wrong with a settings file. -/
inductive FileFault
  /-- A line that should stand in a section, with its number. -/
  | noSection (number : Nat) (line : List Char)
  /-- A section that is there already, with the number of its line. -/
  | repeatedSection (number : Nat) (name : List Char)
  /-- An option that its section has already, with the number of its line. -/
  | repeatedOption (number : Nat) (sectionName name : List Char)
  /-- Lines that are neither headers nor options, with their numbers. -/
  | strayLines (lines : List (Nat × List Char))
  /-- The bytes of the file are no text. -/
  | noText
  deriving DecidableEq, Repr

/-- A number, with a space in front if it has one digit. -/
def lineNumber (n : Nat) : String :=
  if n < 10 then " " ++ toString n else toString n

/-- A text between quotes. -/
def shown (s : List Char) : String :=
  String.ofList (quoted s)

/-- The text that is shown for a fault of the file at a path. -/
def FileFault.message (path : String) : FileFault → String
  | noSection number line =>
    "File contains no section headers.\nfile: " ++ quotedString path ++ ", line: " ++
      toString number ++ "\n" ++ shown line
  | repeatedSection number name =>
    "While reading from " ++ quotedString path ++ " [line " ++ lineNumber number ++ "]: section " ++
      shown name ++ " already exists"
  | repeatedOption number sectionName name =>
    "While reading from " ++ quotedString path ++ " [line " ++ lineNumber number ++ "]: option " ++
      shown name ++ " in section " ++ shown sectionName ++ " already exists"
  | strayLines lines =>
    "Source contains parsing errors: " ++ quotedString path ++ String.join (lines.map fun line =>
      "\n\t[line " ++ lineNumber line.1 ++ "]: " ++ shown line.2)
  | noText => ""

/-- An option of a file. -/
structure FileEntry where
  /-- The section that it stands in. -/
  sectionName : List Char
  /-- Its name, in small letters. -/
  name : List Char
  /-- The lines of its value. -/
  value : List (List Char)
  deriving DecidableEq, Repr

/-- What a settings file says. -/
structure SettingsFile where
  /-- The names of its sections, without the defaults, the last one first. -/
  sections : List (List Char) := []
  /-- Its options, the last one first. -/
  entries : List FileEntry := []
  deriving DecidableEq, Repr

/-- The section that holds defaults for all sections. -/
def defaultsName : List Char := "DEFAULT".toList

/-- The options that every section has, unless a file says otherwise. -/
def builtinDefaults : List (List Char × List Char) :=
  [("ssl_verify".toList, "yes".toList), ("admin".toList, "false".toList),
    ("link".toList, "false".toList), ("label_component".toList, "false".toList),
    ("label_milestone".toList, "false".toList), ("dry_run".toList, "false".toList)]

namespace SettingsFile

/-- The option of a section, not counting the defaults. -/
def entry? (file : SettingsFile) (sectionName name : List Char) : Option FileEntry :=
  file.entries.find? fun entry => entry.sectionName == sectionName && entry.name == name

/-- The value of an option, not counting the defaults. -/
def own? (file : SettingsFile) (sectionName name : List Char) : Option (List Char) :=
  (file.entry? sectionName name).map fun entry => trimEnd (unlines entry.value)

/-- Whether the file has a section. -/
def has (file : SettingsFile) (sectionName : String) : Bool :=
  file.sections.contains sectionName.toList

/-- The value of an option of a section, if the file has the section. -/
def get? (file : SettingsFile) (sectionName name : String) : Option (List Char) :=
  if file.has sectionName then
    (file.own? sectionName.toList name.toList <|> file.own? defaultsName name.toList) <|>
      builtinDefaults.lookup name.toList
  else none

end SettingsFile

/-! ### Lines -/

/-- Reads the header of a section.  The name goes to the last bracket of the line. -/
def header? : List Char → Option (List Char)
  | '[' :: rest =>
    let name := (dropEndWhile (· != ']') rest).dropLast
    if name.isEmpty then none else some name
  | _ => none

/-- Whether a character stands between the name of an option and its value. -/
def isDelimiter (c : Char) : Bool :=
  c == '=' || c == ':'

/-- Reads an option: its name, in small letters, and its value. -/
def option? (s : List Char) : Option (List Char × List Char) :=
  match s.dropWhile (!isDelimiter ·) with
  | [] => none
  | _ :: value => some (lower (trimEnd (s.takeWhile (!isDelimiter ·))), trim value)

/-- What a line says. -/
inductive FileLine
  /-- Nothing, and it has no comment. -/
  | blank
  /-- A comment. -/
  | comment
  /-- Something, after a number of blanks. -/
  | words (indent : Nat) (s : List Char)
  deriving DecidableEq, Repr

/-- What a line says. -/
def FileLine.of (line : List Char) : FileLine :=
  match trim line with
  | [] => blank
  | c :: s =>
    if c = '#' || c = ';' then comment else words (line.takeWhile isBlank).length (c :: s)

/-! ### Reading -/

/-- What has been read of a file. -/
structure Reading where
  /-- What the file says so far. -/
  file : SettingsFile := {}
  /-- The section that options are added to. -/
  current : Option (List Char) := none
  /-- Whether the value of the last option may go on. -/
  continues : Bool := false
  /-- The indentation that a line must exceed to continue a value. -/
  indent : Nat := 0
  /-- The stray lines, the last one first. -/
  stray : List (Nat × List Char) := []
  deriving DecidableEq, Repr

namespace Reading

/-- Adds a line to the value of the last option, if that may go on. -/
def extend (state : Reading) (s : List Char) : Reading :=
  match state.continues, state.file.entries with
  | true, entry :: rest =>
    { state with
      file := { state.file with entries := { entry with value := entry.value ++ [s] } :: rest } }
  | _, _ => state

/-- Begins a section. -/
def beginSection (state : Reading) (number : Nat) (name : List Char) : Except FileFault Reading :=
  let next := { state with current := some name, continues := false }
  if name = defaultsName then .ok next
  else if state.file.sections.contains name then .error (.repeatedSection number name)
  else .ok { next with file := { state.file with sections := name :: state.file.sections } }

/-- Adds an option to a section.  An option without a name is a stray line, and its value does not
go on. -/
def addOption (state : Reading) (number : Nat) (line sectionName name value : List Char) :
    Except FileFault Reading :=
  let stray := if name.isEmpty then (number, line) :: state.stray else state.stray
  if (state.file.entry? sectionName name).isSome then
    .error (.repeatedOption number sectionName name)
  else
    .ok { state with
      stray
      continues := !name.isEmpty
      file := { state.file with
        entries := ⟨sectionName, name, [value]⟩ :: state.file.entries } }

/-- Reads a line that does not continue a value. -/
def beginLine (state : Reading) (number : Nat) (line s : List Char) : Except FileFault Reading :=
  match header? s with
  | some name => state.beginSection number name
  | none =>
    match state.current with
    | none => .error (.noSection number line)
    | some sectionName =>
      match option? s with
      | some (name, value) => state.addOption number line sectionName name value
      | none => .ok { state with stray := (number, line) :: state.stray }

/-- Reads a line. -/
def step (state : Reading) (number : Nat) (line : List Char) : Except FileFault Reading :=
  match FileLine.of line with
  | .blank => .ok (state.extend [])
  | .comment => .ok state
  | .words indent s =>
    if state.continues && state.indent < indent then .ok (state.extend s)
    else { state with indent }.beginLine number line s

/-- Reads lines, of which the first has this number. -/
def steps (state : Reading) (number : Nat) : List (List Char) → Except FileFault Reading
  | [] => .ok state
  | line :: rest =>
    match state.step number line with
    | .ok next => next.steps (number + 1) rest
    | .error fault => .error fault

end Reading

/-- The text with all line ends turned into newlines. -/
def unifyLineEnds : List Char → List Char
  | [] => []
  | '\r' :: '\n' :: s => '\n' :: unifyLineEnds s
  | c :: s => (if c = '\r' then '\n' else c) :: unifyLineEnds s

/-- The lines of a text that end in a newline, with their newlines. -/
def endedLines (s : List Char) : List (List Char) :=
  (lines s).dropLast.map (· ++ ['\n'])

/-- The lines of a text with their newlines; the last line may lack its own. -/
def keptLines (s : List Char) : List (List Char) :=
  endedLines s ++ ((lines s).getLast?.filter fun line => !line.isEmpty).toList

namespace SettingsFile

/-- Reads the text of a file.  Stray lines are only a fault when the whole file has been read. -/
def parse (s : List Char) : Except FileFault SettingsFile :=
  match ({} : Reading).steps 1 (keptLines (unifyLineEnds s)) with
  | .error fault => .error fault
  | .ok state =>
    if state.stray.isEmpty then .ok state.file else .error (.strayLines state.stray.reverse)

/-- Finds fault with the first lines of a file that is no text from then on.  A carriage return at
the end does not end a line, since a newline could follow. -/
def faultBefore (s : List Char) : FileFault :=
  let known := if s.getLast? = some '\r' then s.dropLast else s
  match ({} : Reading).steps 1 (endedLines (unifyLineEnds known)) with
  | .error fault => fault
  | .ok _ => .noText

/-- How many bytes of a file are read at once. -/
def pieceSize : Nat := 8192

/-- The text of the bytes of a file up to the piece that is no text. -/
def textBefore (bytes : List UInt8) : List Char :=
  let fronts := (List.range (bytes.length / pieceSize + 1)).reverse
  (fronts.findSome? fun count =>
    match decode (bytes.take (count * pieceSize)) with
    | .text s | .brokenOff s => some s
    | .malformed => none).getD []

/-- Reads the bytes of a file.  Where they are no text, the lines of the pieces before are read
first. -/
def ofBytes (bytes : List UInt8) : Except FileFault SettingsFile :=
  match decode bytes with
  | .text s => parse s
  | .brokenOff s => .error (faultBefore s)
  | .malformed => .error (faultBefore (textBefore bytes))

end SettingsFile

/-! ### Writing -/

/-- Writes a section. -/
def writeSection (name : List Char) (options : List (List Char × List Char)) : List Char :=
  '[' :: name ++ [']', '\n'] ++
    options.flatMap fun option => option.1 ++ [' ', '=', ' '] ++ option.2 ++ ['\n']

/-- Writes a file. -/
def writeSections (sections : List (List Char × List (List Char × List Char))) : List Char :=
  sections.flatMap fun part => writeSection part.1 part.2

end TicketMigration
