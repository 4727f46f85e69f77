import TableScript.Program

/-!
# The command line program

Looks up the files that a run may need, runs, and prints what the run leaves. Everything else is
`Program.run`.

* `lookUp` asks for one path, `snapshot` for several. Whatever keeps a file from being read is told
  in the words of the system (`failureMessage`).
-/

namespace TableScript

/-- The number of a failure, which the runtime may hand on negated. -/
def failureNumber (code : UInt32) : Nat := Nat.min code.toNat (Nat.pow 2 32 - code.toNat)

/-- The words for a failure to read a file. -/
def failureMessage : IO.Error → String
  | .alreadyExists _ code _ | .otherError code _ | .resourceBusy code _
  | .resourceVanished code _ | .unsupportedOperation code _ | .hardwareFault code _
  | .unsatisfiedConstraints code _ | .illegalOperation code _ | .protocolError code _
  | .timeExpired code _ | .interrupted _ code _ | .noFileOrDirectory _ code _
  | .invalidArgument _ code _ | .permissionDenied _ code _ | .resourceExhausted _ code _
  | .inappropriateType _ code _ | .noSuchThing _ code _ => systemMessage (failureNumber code)
  | .unexpectedEof => "unexpected end of file"
  | .userError message => message

/-- What the system answers about a path. -/
def lookUp (path : String) : IO Entry := do
  if path.toList.contains '\x00' then return .nulInName
  let isThere ← try
      let _ ← IO.FS.realPath path
      pure true
    catch _ => pure false
  try
    return ⟨isThere, .ok (← IO.FS.readBinFile path)⟩
  catch e => return ⟨isThere, .error (failureMessage e)⟩

/-- Everything that stands at the paths. -/
def snapshot (paths : List String) : IO Files := do
  let entries ← paths.eraseDups.mapM fun path => do return (path, ← lookUp path)
  return fun path => (entries.lookup path).getD .missing

end TableScript

open TableScript in
def main (arguments : List String) : IO UInt32 := do
  let files ← snapshot (Program.paths arguments)
  let outcome := Program.run arguments (← IO.getEnv "RUST_LOG") files
  (← IO.getStderr).putStr outcome.stderr
  (← IO.getStdout).putStr outcome.stdout
  return outcome.exitCode
