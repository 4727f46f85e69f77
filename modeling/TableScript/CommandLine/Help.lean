import TableScript.CommandLine.Grammar
import TableScript.Text.Terminal

/-!
# Help and other answers

Help has a short form, with a line for every switch, and a long form, with a paragraph for each. The
other refusals are sentences.

* `Page.text` is the help of a page in either form: its usage, its commands or files, its switches
  and its examples, in sections with aligned columns.
* `Refusal.message` is the text for any refusal, and `Refusal.isAnswer` tells those that are
  answers, which go to the output and are no failure.

An argument is cited as it was given, but for what would steer a terminal (`cited`).
-/

namespace TableScript.CommandLine

/-! ## Texts -/

def Verb.about : Verb → String
  | .createTable => "Print CREATE TABLE statements for record description files"
  | .init => "Print the script that creates the database and all tables"
  | .drop => "Print the script that drops the database"
  | .types => "Show the dialect's logical to column type table"

def helpAbout : String := "Print this message or the help of the given subcommand(s)"

def Page.about : Page → String
  | .program => "Render record descriptions as CREATE TABLE statements"
  | .verb v => v.about
  | .help => helpAbout

def Verb.filesAbout : Verb → String
  | .createTable => "Record description files (one description or an array per file)"
  | _ => "Record description files, in table creation order"

def Verb.examples : Verb → List String
  | .createTable => [
    "schema_ddl create-table users.json                # One statement per description",
    "schema_ddl create-table blog.json -d postgres     # Render for PostgreSQL",
    "schema_ddl create-table *.json -f json            # Statements as JSON"]
  | .init => [
    "schema_ddl init --database app users.json blog.json   # CREATE DATABASE + tables",
    "schema_ddl init users.json                            # Database name from .schema_ddl.json"]
  | .drop => [
    "schema_ddl drop --database app_test       # DROP DATABASE IF EXISTS app_test",
    "schema_ddl drop -d sqlite --database app  # SQLite has nothing to drop"]
  | .types => [
    "schema_ddl types                 # MySQL (or configured) type table",
    "schema_ddl types -d postgres     # PostgreSQL type table"]

/-- What a switch is for; the database of `init` is created, any other dropped. -/
def Switch.about (page : Page) (long : Bool) : Switch → String
  | .dialect => "Target SQL dialect (overrides the config file)"
  | .database =>
    "Database to " ++ (if page = .verb .init then "create" else "drop") ++
      " (defaults to \"database\" in the config file)"
  | .config => "Path to the JSON config file"
  | .format => "Output format"
  | .verbose => "Log debug details to stderr"
  | .quiet => "Only log errors"
  | .help =>
    "Print help (see " ++ (if long then "a summary with '-h'" else "more with '--help'") ++ ")"
  | .version => "Print version"

/-- What holds when the switch is not given. -/
def Switch.default? : Switch → Option String
  | .config => some Configuration.defaultPath
  | .format => some "table"
  | _ => none

/-- The values of a switch, each with what it stands for. -/
def Switch.valueTexts : Switch → List (String × String)
  | .dialect => [("mysql", "MySQL / MariaDB"), ("postgres", "PostgreSQL"), ("sqlite", "SQLite")]
  | .format => [
    ("table", "Human-readable SQL script or table"), ("json", "JSON format"),
    ("toon", "Token-efficient toon format")]
  | _ => []

/-! ## Layout -/

/-- The text with blanks up to a width. -/
def padded (width : Nat) (s : String) : String := s ++ "".pushn ' ' (width - s.length)

/-- The length of the longest text. -/
def widest (labels : List String) : Nat := labels.foldl (fun w l => max w l.length) 0

/-- A line for every row, with the second column aligned. -/
def twoColumns (rows : List (String × String)) : List String :=
  let width := widest (rows.map (·.1))
  rows.map fun row => "  " ++ padded width row.1 ++ "  " ++ row.2

/-- The indentation of the long form. -/
def margin : String := "          "

/-- A head and its lines, after an empty line. -/
def sectionOf (head : String) (lines : List String) : List String := "" :: (head ++ ":") :: lines

def possibleValues (names : List String) : String :=
  "[possible values: " ++ ", ".intercalate names ++ "]"

def Switch.heading (s : Switch) : String :=
  (match s.short? with | some c => "-" ++ c.toString ++ ", " | none => "    ") ++ s.label

/-- The row of a switch in the short form. -/
def Switch.shortRow (page : Page) (s : Switch) : String × String :=
  (s.heading,
    s.about page false ++
      (match s.default? with | some d => " [default: " ++ d ++ "]" | none => "") ++
      (if s.values = [] then "" else " " ++ possibleValues s.values))

/-- The paragraph of a switch in the long form. -/
def Switch.longRow (page : Page) (s : Switch) : List String :=
  let width := widest (s.valueTexts.map (·.1)) + 1
  ["  " ++ s.heading, margin ++ s.about page true] ++
    (if s.valueTexts = [] then []
      else "" :: (margin ++ "Possible values:") ::
        s.valueTexts.map fun v => margin ++ "- " ++ padded width (v.1 ++ ":") ++ " " ++ v.2) ++
    (match s.default? with
      | some d => [margin, margin ++ "[default: " ++ d ++ "]"]
      | none => [])

/-- Paragraphs with an empty line between them. -/
def paragraphs (ps : List (List String)) : List String := [""].intercalate ps

def Page.usage : Page → String
  | .program => " [OPTIONS] <COMMAND>"
  | .verb v => " " ++ v.name ++ " [OPTIONS]" ++ (if v.takesFiles then " " ++ filesLabel else "")
  | .help => " help [COMMAND]..."

def Page.commands : Page → List String
  | .program =>
    sectionOf "Commands" <|
      twoColumns (Verb.all.map (fun v => (v.name, v.about)) ++ [(helpWord, helpAbout)])
  | _ => []

def Page.arguments (long : Bool) : Page → List String
  | .program => []
  | .verb v =>
    if v.takesFiles then
      sectionOf "Arguments" <|
        if long then ["  " ++ filesLabel, margin ++ v.filesAbout]
        else twoColumns [(filesLabel, v.filesAbout)]
    else []
  | .help =>
    sectionOf "Arguments" (twoColumns [("[COMMAND]...", "Print help for the subcommand(s)")])

def Page.switches : Page → List Switch
  | .program => Level.top.switches
  | .verb v => (Level.after v).switches
  | .help => []

def Page.options (long : Bool) (page : Page) : List String :=
  match page.switches with
  | [] => []
  | switches =>
    sectionOf "Options" <|
      if long then paragraphs (switches.map fun s => s.longRow page)
      else twoColumns (switches.map fun s => s.shortRow page)

def Page.examples : Page → List String
  | .verb v => sectionOf "Examples" (v.examples.map ("  " ++ ·))
  | _ => []

/-- The help text of a page, ended by a line break. -/
def Page.text (long : Bool) (page : Page) : String :=
  "\n".intercalate
    ([page.about, "", "Usage: " ++ programName ++ page.usage] ++ page.commands ++
      page.arguments long ++ page.options long ++ page.examples) ++ "\n"

def versionText : String := programName ++ " " ++ programVersion ++ "\n"

/-! ## Sentences -/

/-- The second line of a refusal that names values, if there are any to name. -/
def valueHint (s : Switch) : String :=
  if s.values = [] then "" else "\n  " ++ possibleValues s.values

/-- A piece of the command line in quotes. -/
def cited (s : String) : String := "'" ++ Text.shown s ++ "'"

/-- What the program answers to a command line that does not lead to a command. -/
def Refusal.message : Refusal → String
  | .helpAsked page long => page.text long
  | .helpNeeded => Page.program.text false
  | .versionAsked => versionText
  | .unknownArgument a => "error: unexpected argument " ++ cited a ++ " found"
  | .unknownVerb w => "error: unrecognized subcommand " ++ cited w
  | .missingVerb =>
    "error: " ++ cited programName ++
      " requires a subcommand but one was not provided\n  [subcommands: "
      ++ ", ".intercalate (Verb.all.map (·.name) ++ [helpWord]) ++ "]"
  | .missingFiles =>
    "error: the following required arguments were not provided:\n  " ++ filesLabel
  | .repeatedSwitch s =>
    "error: the argument " ++ cited s.label ++ " cannot be used multiple times"
  | .conflictingSwitches a b =>
    "error: the argument " ++ cited a.label ++ " cannot be used with " ++ cited b.label
  | .missingValue s =>
    "error: a value is required for " ++ cited s.label ++ " but none was supplied" ++ valueHint s
  | .unknownValue v s =>
    "error: invalid value " ++ cited v ++ " for " ++ cited s.label ++ valueHint s
  | .unwantedValue v s =>
    "error: unexpected value " ++ cited v ++ " for " ++ cited s.label ++
      " found; no more were expected"
  | .missingFile path =>
    "error: invalid value " ++ cited path ++ " for " ++ cited filesLabel ++ ": File not found: " ++
      Text.shown path

/-- Help and version are what was asked for; any other refusal is a failure. -/
def Refusal.isAnswer : Refusal → Bool
  | .helpAsked _ _ => true
  | .versionAsked => true
  | _ => false

end TableScript.CommandLine
