import TableScript.CommandLine.Grammar

/-!
# Reading the command line

Arguments are read from left to right. The value of a switch that stands in an argument of its own,
and the files after a verb, are only looked at when the next switch is accepted or the level ends; a
word that fits nowhere is refused before that. The arguments after a verb are read, and checked,
before the level of the verb itself.

* `Progress` is how far a level is read: its flags, and what is still unchecked (`Unchecked`).
* `Progress.argument` takes one argument, by its form: `Progress.longSwitch`,
  `Progress.shortSwitches` or `Progress.word`. `Progress.settle` looks at what is unchecked.
* `readAfter` reads the level behind a verb to its end, `readTop` the level before it; both go
  through the arguments once.
* `parse` makes the two levels an invocation, or refuses the arguments for the first thing that is
  wrong in this order.
-/

namespace TableScript.CommandLine

/-- What a level was given so far, already checked. -/
structure Flags where
  /-- The switches, in the order in which they were accepted. -/
  seen : List Switch
  dialect : Option DialectKind
  config : Option String
  format : Option OutputFormat
  database : Option String
  files : List String

def Flags.empty : Flags := ⟨[], none, none, none, none, []⟩

/-- What a level was given last and has not looked at yet. -/
inductive Unchecked where
  | nothing
  | awaiting (s : Switch)
  | value (s : Switch) (text : String)
  | files (paths : List String)

/-- A level while its arguments are read. -/
structure Progress where
  level : Level
  flags : Flags
  unchecked : Unchecked
  /-- Behind `--`, where nothing is a switch. -/
  trailing : Bool

def Progress.start (level : Level) : Progress := ⟨level, .empty, .nothing, false⟩

/-! ## Checking -/

/-- The value of a switch, once it is known that there is one. -/
def Flags.store (flags : Flags) (s : Switch) (value : String) : Except Refusal Flags :=
  if s ∈ flags.seen then .error (.repeatedSwitch s)
  else
    let flags := { flags with seen := flags.seen ++ [s] }
    let refused := if value = "" then Refusal.missingValue s else Refusal.unknownValue value s
    match s with
    | .dialect =>
      match DialectKind.ofName? value with
      | some kind => .ok { flags with dialect := some kind }
      | none => .error refused
    | .format =>
      match OutputFormat.ofName? value with
      | some format => .ok { flags with format := some format }
      | none => .error refused
    | .config => if value = "" then .error refused else .ok { flags with config := some value }
    | .database => .ok { flags with database := some value }
    | _ => .ok flags

/-- Files that are there, added one by one. -/
def Flags.addFiles (isThere : String → Bool) : Flags → List String → Except Refusal Flags
  | flags, [] => .ok flags
  | flags, path :: rest =>
    if isThere path then addFiles isThere { flags with files := flags.files ++ [path] } rest
    else .error (.missingFile path)

/-- Look at what was given last. -/
def Progress.settle (isThere : String → Bool) (p : Progress) : Except Refusal Progress :=
  let settled (flags : Flags) : Progress := { p with flags := flags, unchecked := .nothing }
  match p.unchecked with
  | .nothing => .ok p
  | .awaiting s => .error (.missingValue s)
  | .value s text => settled <$> p.flags.store s text
  | .files paths => settled <$> p.flags.addFiles isThere paths

/-- A switch without a value. -/
def Progress.acceptFlag (isThere : String → Bool) (p : Progress) (s : Switch) (long : Bool) :
    Except Refusal Progress := do
  let p ← p.settle isThere
  match s with
  | .help =>
    .error (.helpAsked (match p.level with | .top => .program | .after v => .verb v) long)
  | .version => .error .versionAsked
  | s =>
    if s ∈ p.flags.seen then .error (.repeatedSwitch s)
    else .ok { p with flags := { p.flags with seen := p.flags.seen ++ [s] } }

/-- A switch with its value in the same argument, or none so far. -/
def Progress.acceptValue (isThere : String → Bool) (p : Progress) (s : Switch)
    (attached : Option String) : Except Refusal Progress := do
  let p ← p.settle isThere
  match attached with
  | none => .ok { p with unchecked := .awaiting s }
  | some value => .ok { p with flags := ← p.flags.store s value }

/-! ## Arguments -/

/-- A word after `--`, with the value behind its first `=` if it has one. -/
def splitValue (cs : List Char) : List Char × Option (List Char) :=
  match cs.dropWhile (· ≠ '=') with
  | [] => (cs, none)
  | _ :: value => (cs.takeWhile (· ≠ '='), some value)

def Progress.longSwitch (isThere : String → Bool) (p : Progress) (cs : List Char) :
    Except Refusal Progress :=
  let (name, value) := splitValue cs
  let name := String.ofList name
  match p.level.switches.find? fun s => s.long == name with
  | none => .error (.unknownArgument ("--" ++ name))
  | some s =>
    if s.takesValue then p.acceptValue isThere s (value.map String.ofList)
    else
      match value with
      | some value => .error (.unwantedValue (String.ofList value) s)
      | none => p.acceptFlag isThere s true

/-- Switches by their letters; the first that takes a value takes what is left, an `=` in front of
it aside. -/
def Progress.shortSwitches (isThere : String → Bool) :
    Progress → List Char → Except Refusal Progress
  | p, [] => .ok p
  | p, c :: rest =>
    match p.level.switches.find? fun s => s.short? == some c with
    | none => .error (.unknownArgument (String.ofList ['-', c]))
    | some s =>
      if s.takesValue then
        p.acceptValue isThere s <|
          match rest with
          | [] => none
          | '=' :: value => some (String.ofList value)
          | value => some (String.ofList value)
      else do shortSwitches isThere (← p.acceptFlag isThere s false) rest

/-- A word that is neither a switch nor its value: one of the files, or refused. -/
def Progress.word (isThere : String → Bool) (p : Progress) (argument : String) :
    Except Refusal Progress :=
  match p.level with
  | .top =>
    if p.trailing && ((Verb.ofName? argument).isSome || argument == helpWord) then
      .error (.unknownArgument argument)
    else .error (.unknownVerb argument)
  | .after verb =>
    if verb.takesFiles then
      match p.unchecked with
      | .files paths => .ok { p with unchecked := .files (paths ++ [argument]) }
      | _ => do
        let p ← p.settle isThere
        .ok { p with unchecked := .files [argument] }
    else .error (.unknownArgument argument)

/-- One argument that is no verb. -/
def Progress.argument (isThere : String → Bool) (p : Progress) (argument : String) :
    Except Refusal Progress :=
  if p.trailing then p.word isThere argument
  else
    match argument.toList with
    | ['-', '-'] => .ok { p with trailing := true }
    | '-' :: '-' :: cs => p.longSwitch isThere cs
    | '-' :: c :: cs => p.shortSwitches isThere (c :: cs)
    | _ =>
      match p.unchecked with
      | .awaiting s => .ok { p with unchecked := .value s argument }
      | _ => p.word isThere argument

/-! ## Levels -/

/-- Two switches of a level that exclude each other, in the order in which they were given. -/
def Flags.checkConflict (flags : Flags) : Except Refusal Unit :=
  match flags.seen.filter fun s => s = .verbose ∨ s = .quiet with
  | first :: second :: _ => .error (.conflictingSwitches first second)
  | _ => .ok ()

/-- Read all arguments after a verb. -/
def readAfter (isThere : String → Bool) (verb : Verb) (arguments : List String) :
    Except Refusal Flags := do
  let p ← arguments.foldlM (Progress.argument isThere) (Progress.start (.after verb))
  let p ← p.settle isThere
  p.flags.checkConflict
  if verb.takesFiles && p.flags.files.isEmpty then .error .missingFiles
  return p.flags

/-- The page that the words after `help` lead to. -/
def helpPage : List String → Except Refusal Page
  | [] => .ok .program
  | [word] =>
    match Verb.ofName? word with
    | some v => .ok (.verb v)
    | none => if word = helpWord then .ok .help else .error (.unknownVerb word)
  | word :: next :: _ =>
    if (Verb.ofName? word).isSome ∨ word = helpWord then .error (.unknownVerb next)
    else .error (.unknownVerb word)

/-- A verb may stand where no value of a switch is awaited. -/
def Progress.verbHere (p : Progress) : Bool :=
  !p.trailing &&
    match p.unchecked with
    | .awaiting _ => false
    | _ => true

/-- Read the arguments up to the verb and, if there is one, those after it. -/
def readTop (isThere : String → Bool) :
    Progress → List String → Except Refusal (Flags × Option (Verb × Flags))
  | p, [] => do
    let p ← p.settle isThere
    return (p.flags, none)
  | p, argument :: rest =>
    match p.verbHere, Verb.ofName? argument with
    | true, some verb => do
      let after ← readAfter isThere verb rest
      let p ← p.settle isThere
      return (p.flags, some (verb, after))
    | verbHere, _ =>
      if verbHere && argument == helpWord then do
        .error (.helpAsked (← helpPage rest) true)
      else do readTop isThere (← p.argument isThere argument) rest

/-- The command of a verb with what it was given. -/
def Verb.command (verb : Verb) (flags : Flags) : Command :=
  match verb with
  | .createTable => .createTable flags.files
  | .init => .init flags.database flags.files
  | .drop => .drop flags.database
  | .types => .types

/-- Both levels together. After the verb counts more than before it. -/
def Invocation.ofLevels (top : Flags) (verb : Verb) (after : Flags) : Invocation where
  dialect := after.dialect.or top.dialect
  config := (after.config.or top.config).getD Configuration.defaultPath
  format := (after.format.or top.format).getD .table
  verbose := decide (Switch.verbose ∈ after.seen ∨ Switch.verbose ∈ top.seen)
  quiet := decide (Switch.quiet ∈ after.seen ∨ Switch.quiet ∈ top.seen)
  command := verb.command after

/-- The command line, without the name of the program. `isThere` says which files there are. -/
def parse (isThere : String → Bool) (arguments : List String) : Except Refusal Invocation := do
  match ← readTop isThere (Progress.start .top) arguments with
  | (top, some (verb, after)) =>
    top.checkConflict
    return Invocation.ofLevels top verb after
  | (top, none) => if top.seen.isEmpty then .error .helpNeeded else .error .missingVerb

end TableScript.CommandLine
