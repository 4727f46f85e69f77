import TableScript.Command

/-!
# The grammar of the command line

The words of the command line: verbs, which name commands, and switches, most of which may stand
before the verb as well as after it. A switch before the verb and one after it are at different
levels, and each level is checked on its own.

* `Verb` and `Switch` are the words, with their spelling (`Verb.name`, `Switch.long`,
  `Switch.short?`) and the values that a switch may take (`Switch.values`).
* `Level.switches` lists what may stand at a level.
* `Refusal` has a constructor for every way in which a command line does not lead to a command, the
  requests for help and for the version included.
* `Invocation` is a command line that does: the command, with what is to be done about the
  configuration, the dialect, the format and the log.
-/

namespace TableScript.CommandLine

def programName : String := "schema_ddl"

def programVersion : String := "0.1.0"

inductive Verb where
  | createTable
  | init
  | drop
  | types
  deriving DecidableEq

namespace Verb

def all : List Verb := [.createTable, .init, .drop, .types]

def name : Verb → String
  | .createTable => "create-table"
  | .init => "init"
  | .drop => "drop"
  | .types => "types"

def ofName? (s : String) : Option Verb := all.find? fun v => v.name == s

/-- The verb is followed by files. -/
def takesFiles : Verb → Bool
  | .createTable => true
  | .init => true
  | .drop => false
  | .types => false

/-- The verb is about one database. -/
def takesDatabase : Verb → Bool
  | .createTable => false
  | .init => true
  | .drop => true
  | .types => false

end Verb

/-- The word that asks for help about another. -/
def helpWord : String := "help"

/-- The part of the command line before the verb, or after it. -/
inductive Level where
  | top
  | after (verb : Verb)
  deriving DecidableEq

inductive Switch where
  | dialect
  | database
  | config
  | format
  | verbose
  | quiet
  | help
  | version
  deriving DecidableEq

namespace Switch

def long : Switch → String
  | .dialect => "dialect"
  | .database => "database"
  | .config => "config"
  | .format => "format"
  | .verbose => "verbose"
  | .quiet => "quiet"
  | .help => "help"
  | .version => "version"

def short? : Switch → Option Char
  | .dialect => some 'd'
  | .database => none
  | .config => some 'c'
  | .format => some 'f'
  | .verbose => some 'v'
  | .quiet => some 'q'
  | .help => some 'h'
  | .version => some 'V'

/-- The placeholder of the value that the switch takes. -/
def placeholder? : Switch → Option String
  | .dialect => some "<DIALECT>"
  | .database => some "<DATABASE>"
  | .config => some "<CONFIG>"
  | .format => some "<FORMAT>"
  | .verbose => none
  | .quiet => none
  | .help => none
  | .version => none

def takesValue (s : Switch) : Bool := s.placeholder?.isSome

/-- The switch with its placeholder. -/
def label (s : Switch) : String :=
  match s.placeholder? with
  | some p => "--" ++ s.long ++ " " ++ p
  | none => "--" ++ s.long

/-- The values of a switch that takes only some. -/
def values : Switch → List String
  | .dialect => DialectKind.all.map (·.name)
  | .format => OutputFormat.all.map (·.name)
  | _ => []

end Switch

/-- The switches of a level, in the order in which help shows them. -/
def Level.switches : Level → List Switch
  | .top => [.dialect, .config, .format, .verbose, .quiet, .help, .version]
  | .after verb =>
    .dialect :: (if verb.takesDatabase then [.database] else []) ++
      [.config, .format, .verbose, .quiet, .help]

/-- The placeholder of the files after a verb. -/
def filesLabel : String := "<FILES>..."

/-- What a help text is about. -/
inductive Page where
  | program
  | verb (v : Verb)
  | help
  deriving DecidableEq

/-- Why a command line does not lead to a command. -/
inductive Refusal where
  | helpAsked (page : Page) (long : Bool)
  | helpNeeded
  | versionAsked
  | unknownArgument (argument : String)
  | unknownVerb (word : String)
  | missingVerb
  | missingFiles
  | repeatedSwitch (s : Switch)
  | conflictingSwitches (first second : Switch)
  | missingValue (s : Switch)
  | unknownValue (value : String) (s : Switch)
  | unwantedValue (value : String) (s : Switch)
  | missingFile (path : String)
  deriving DecidableEq

/-- A command, and what the switches say. -/
structure Invocation where
  dialect : Option DialectKind
  config : String
  format : OutputFormat
  verbose : Bool
  quiet : Bool
  command : Command
  deriving DecidableEq

end TableScript.CommandLine
