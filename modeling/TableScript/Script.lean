import TableScript.Error

/-!
# Executing statements

An executor takes one statement at a time and may fail. It is given by what it does to its state.
`Recorder` keeps the statements that it was given, except for the calls that are set to fail; with
none of these its statements are a script.

* `Executor.executeAll` executes statements in order and stops at the first that fails.
* `Recorder.executor` fails on the calls with certain numbers, counted from 1 over all that it was
  ever given; `Recorder.faithful` never fails.
* `scriptText` is a script: every statement on a line of its own, with a semicolon behind it.
-/

namespace TableScript

/-- What executing one statement does to the state of an executor. -/
abbrev Executor (σ : Type) := String → σ → Except Error Unit × σ

/-- Statements one after the other, up to the first failure. -/
def Executor.executeAll {σ : Type} (execute : Executor σ) : List String → σ → Except Error Unit × σ
  | [], state => (.ok (), state)
  | statement :: rest, state =>
    match execute statement state with
    | (.ok (), state) => executeAll execute rest state
    | (.error e, state) => (.error e, state)

/-- The calls so far and the statements of those that did not fail. -/
structure Recorder where
  calls : Nat
  statements : List String
  deriving DecidableEq

namespace Recorder

def empty : Recorder := ⟨0, []⟩

/-- Keeps every statement, but fails the calls, counted from one, that `fails` names. -/
def executor (fails : Nat → Bool) (reason : String) : Executor Recorder := fun statement r =>
  if fails (r.calls + 1) then (.error (.executionFailed reason), { r with calls := r.calls + 1 })
  else (.ok (), ⟨r.calls + 1, r.statements ++ [statement]⟩)

/-- Keeps every statement. -/
def faithful : Executor Recorder := executor (fun _ => false) ""

end Recorder

/-- The statements as a script: a semicolon after each, and each on a line of its own. -/
def scriptText (statements : List String) : String :=
  "\n".intercalate (statements.map (· ++ ";"))

end TableScript
