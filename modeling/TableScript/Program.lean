import TableScript.CommandLine.Help
import TableScript.CommandLine.Parse
import TableScript.Log.Filter

/-!
# The program

A run as a function: from the arguments, the log filter of the environment and the files to what is
printed and the exit code. A command line that does not lead to a command ends with code 2, or 0 for
help and version; an error ends with code 1 and leaves nothing on the output.

* `Outcome` is what a run leaves: two texts and the exit code.
* `Invocation.run` loads the configuration, resolves the dialect, runs the command and formats its
  report, with the records of all of them in one log.
* `outcomeOf` prints the log before anything else on the error stream, as far as the filter shows
  it.
* `Program.paths` lists the paths that a run may ask for, which is more than it does ask for.
-/

namespace TableScript

/-- What a run leaves behind. -/
structure Outcome where
  exitCode : UInt32
  stdout : String
  stderr : String
  deriving DecidableEq

namespace CommandLine

/-- The log filter that the switches ask for. -/
def Invocation.logFilter (i : Invocation) : String :=
  if i.quiet then "error" else if i.verbose then "debug" else "info"

/-- The report of a command, written in the format that was asked for. -/
def Invocation.run (i : Invocation) (files : Files) : Logged Error String := do
  let c? ← Configuration.load files i.config
  let report ← i.command.run (Context.ofConfiguration c? i.dialect) files
  return report.format i.format

/-- How a refusal ends the program. -/
def Refusal.outcome (r : Refusal) : Outcome :=
  if r.isAnswer then ⟨0, r.message, ""⟩
  else
    match r with
    | .helpNeeded => ⟨2, "", r.message⟩
    | r => ⟨2, "", r.message ++ "\n"⟩

end CommandLine

namespace Program

/-- What the log leaves on the error stream under a filter. -/
def shownLog (spec : String) (log : List Log.Record) : String :=
  let (filter, complaints) := Log.Filter.parse spec
  String.join (complaints.map (· ++ "\n")) ++ String.join ((log.filter filter.shows).map (·.line))

/-- How a command ends the program. -/
def outcomeOf (spec : String) (x : Logged Error String) : Outcome :=
  match x.result with
  | .ok text => ⟨0, text ++ "\n", shownLog spec x.log⟩
  | .error e => ⟨1, "", shownLog spec x.log ++ "Error: " ++ e.diagnostic ++ "\n"⟩

/-- A run of the program. -/
def run (arguments : List String) (logSpec : Option String) (files : Files) : Outcome :=
  match CommandLine.parse files.has arguments with
  | .error refusal => refusal.outcome
  | .ok i => outcomeOf (logSpec.getD i.logFilter) (i.run files)

/-- A text and everything that it ends in. -/
def endings : List Char → List (List Char)
  | [] => [[]]
  | c :: cs => (c :: cs) :: endings cs

/-- Every path that a run may look at: the default configuration, or the end of an argument. -/
def paths (arguments : List String) : List String :=
  Configuration.defaultPath :: arguments.flatMap fun a => (endings a.toList).map String.ofList

end Program

end TableScript
