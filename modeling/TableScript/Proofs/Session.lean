import TableScript.Proofs.Creation
import TableScript.Proofs.Traversal

/-!
# Sessions with failing calls

A session creates and drops a database any number of times through one executor. Every step has a
`plan`, the statements that it is to execute. `Attempt.ofPlans` says what becomes of the plans when
some calls fail, by their numbers over the whole session.

* `Executor.listed` makes an executor list the statements that it is given.
* `Action` is a step of a session, `Outcome` what it gives; `act` takes one step, and `session` all
  of them. `watched` takes the same steps through a listing executor.
* `settle` is what a step gives, by what came of its plan.

Results:
* `Recorder.executeAll_listed`: a recorder keeps the statements of a plan in front of the first call
  that fails, and is given that one too.
* `Database.act_eq`: a step executes its plan and nothing else, whatever the executor.
* `Database.session_eq_watched`: watching a session changes nothing.
* `Database.watched_recorder`: what the steps of a session give to a recorder that fails now and
  then, by induction on the steps.
* `Database.session_follows_plans`: every step executes its plan up to and including its first
  failing call, and the executor keeps the other statements, in the order of the steps.
-/

namespace TableScript

/-! ## What becomes of a plan -/

/-- The statements of a plan that were given to the executor, those that it kept, and whether it
failed. -/
structure Attempt where
  made : List String
  kept : List String
  failed : Bool
  deriving DecidableEq

namespace Attempt

/-- The place in a plan of its first call that fails, after some calls before the plan. -/
def firstFailure? (fails : Nat → Bool) (calls : Nat) (plan : List String) : Option Nat :=
  (List.range plan.length).find? fun i => fails (calls + i + 1)

/-- Whether an attempt failed, and then with what. -/
def result (reason : String) (attempt : Attempt) : Except Error Unit :=
  if attempt.failed then .error (.executionFailed reason) else .ok ()

/-- A plan is carried out up to and including its first failing call, which keeps nothing. -/
def ofPlan (fails : Nat → Bool) (calls : Nat) (plan : List String) : Attempt :=
  match firstFailure? fails calls plan with
  | none => ⟨plan, plan, false⟩
  | some i => ⟨plan.take (i + 1), plan.take i, true⟩

/-- The plans one after the other; every call counts. -/
def ofPlans (fails : Nat → Bool) : Nat → List (List String) → List Attempt
  | _, [] => []
  | calls, plan :: rest =>
    let attempt := ofPlan fails calls plan
    attempt :: ofPlans fails (calls + attempt.made.length) rest

variable {fails : Nat → Bool} {calls : Nat}

theorem firstFailure?_cons (statement : String) (rest : List String) :
    firstFailure? fails calls (statement :: rest) =
      if fails (calls + 1) then some 0
      else (firstFailure? fails (calls + 1) rest).map (· + 1) := by
  have hshift : ((fun i => fails (calls + i + 1)) ∘ Nat.succ) =
      fun i => fails (calls + 1 + i + 1) := by
    funext i
    show fails (calls + (i + 1) + 1) = _
    rw [Nat.add_right_comm calls 1 i, Nat.add_assoc calls i 1]
  rw [firstFailure?, List.length_cons, List.range_succ_eq_map, List.find?_cons, List.find?_map,
    hshift]
  cases fails (calls + 1) <;> simp [firstFailure?]

theorem ofPlan_nil : ofPlan fails calls [] = ⟨[], [], false⟩ := rfl

theorem ofPlan_cons_of_fails (h : fails (calls + 1) = true) (statement : String)
    (rest : List String) : ofPlan fails calls (statement :: rest) = ⟨[statement], [], true⟩ := by
  rw [ofPlan, firstFailure?_cons, if_pos h]
  rfl

theorem ofPlan_cons_of_not_fails (h : fails (calls + 1) = false) (statement : String)
    (rest : List String) :
    ofPlan fails calls (statement :: rest) =
      ⟨statement :: (ofPlan fails (calls + 1) rest).made,
        statement :: (ofPlan fails (calls + 1) rest).kept,
        (ofPlan fails (calls + 1) rest).failed⟩ := by
  rw [ofPlan, ofPlan, firstFailure?_cons, if_neg (by rw [h]; exact Bool.false_ne_true)]
  cases firstFailure? fails (calls + 1) rest <;> rfl

end Attempt

/-! ## Executors that list what they are given -/

/-- The same executor, which also lists every statement that it is given. -/
def Executor.listed {σ : Type} (execute : Executor σ) : Executor (List String × σ) :=
  fun statement state =>
    ((execute statement state.2).1, state.1 ++ [statement], (execute statement state.2).2)

section Listed

variable {σ : Type} (execute : Executor σ)

/-- Listing changes neither the result nor the state. -/
theorem Executor.executeAll_listed : ∀ (plan : List String) (state : List String × σ),
    ((execute.listed.executeAll plan state).1, (execute.listed.executeAll plan state).2.2) =
      execute.executeAll plan state.2
  | [], _ => rfl
  | statement :: rest, state => by
    unfold Executor.executeAll Executor.listed
    rcases execute statement state.2 with ⟨result, after⟩
    cases result with
    | error e => rfl
    | ok _ => exact Executor.executeAll_listed rest (state.1 ++ [statement], after)

theorem Executor.executeAll_singleton (statement : String) (state : σ) :
    execute.executeAll [statement] state = execute statement state := by
  unfold Executor.executeAll
  rcases execute statement state with ⟨_ | _, after⟩ <;> rfl

end Listed

/-! ## A recorder carries out a plan -/

/-- **A recorder keeps the statements of a plan in front of the first failing call.** -/
theorem Recorder.executeAll_listed (fails : Nat → Bool) (reason : String) :
    ∀ (plan seen : List String) (r : Recorder),
      (Recorder.executor fails reason).listed.executeAll plan (seen, r) =
        let attempt := Attempt.ofPlan fails r.calls plan
        (attempt.result reason,
          seen ++ attempt.made, ⟨r.calls + attempt.made.length, r.statements ++ attempt.kept⟩)
  | [], seen, r => by
    simp [Executor.executeAll, Attempt.ofPlan_nil, Attempt.result]
  | statement :: rest, seen, r => by
    unfold Executor.executeAll
    cases hfails : fails (r.calls + 1) with
    | true =>
      simp only [Executor.listed, Recorder.executor, hfails, if_true]
      rw [Attempt.ofPlan_cons_of_fails hfails]
      simp [Attempt.result]
    | false =>
      simp only [Executor.listed, Recorder.executor, hfails, Bool.false_eq_true, if_false]
      have ih := Recorder.executeAll_listed fails reason rest (seen ++ [statement])
        ⟨r.calls + 1, r.statements ++ [statement]⟩
      rw [Attempt.ofPlan_cons_of_not_fails hfails]
      refine ih.trans ?_
      simp only [Attempt.result, List.append_assoc, List.singleton_append, List.length_cons,
        Nat.add_assoc, Nat.add_comm 1]

/-! ## Steps and their plans -/

namespace Database

/-- What a step of a session is asked to do. -/
inductive Action where
  | create (sources : List TableSource)
  | drop

/-- What a step gives when it succeeds. -/
inductive Outcome where
  | created (tables : Nat)
  | dropped (done : Bool)
  deriving DecidableEq

section Steps

variable {σ : Type} (db : Database) (execute : Executor σ)

/-- One step. -/
def act : Action → σ → Except Error Outcome × σ
  | .create sources, state =>
    let step := db.create execute sources state
    (step.result.map .created, step.state)
  | .drop, state =>
    let step := db.drop execute state
    (step.result.map .dropped, step.state)

/-- The steps one after the other, whether they succeed or not. -/
def session : List Action → σ → List (Except Error Outcome) × σ
  | [], state => ([], state)
  | action :: rest, state =>
    let (result, after) := db.act execute action state
    let (results, last) := session rest after
    (result :: results, last)

/-- The same steps, each with the statements that it gave to the executor. -/
def watched : List Action → σ → List (Except Error Outcome × List String) × σ
  | [], state => ([], state)
  | action :: rest, state =>
    let (result, made, after) := db.act execute.listed action ([], state)
    let (results, last) := watched rest after
    ((result, made) :: results, last)

/-- What a step is to execute. One that creates tables executes nothing if one of them cannot be
rendered. -/
def plan (f : Flavor) (name : String) : Action → List String
  | .create sources =>
    if sources.all fun source => (f.createTableFrom source).isOk then
      (f.createDatabase? name).toList ++
        sources.filterMap fun source => (f.createTableFrom source).toOption
    else []
  | .drop => (f.dropDatabase? name).toList

/-- What a step gives, by what came of its plan. -/
def settle (f : Flavor) (name : String) : Action → Except Error Unit → Except Error Outcome
  | .create sources, executed => do
    let tables ← sources.mapM f.createTableFrom
    executed
    return .created tables.length
  | .drop, executed => do
    executed
    return .dropped (f.dropDatabase? name).isSome

/-! ## A step carries out its plan -/

section Plan

variable {f : Flavor} {name : String} {sources : List TableSource}

theorem plan_create_of_ok {tables : List String}
    (h : sources.mapM f.createTableFrom = .ok tables) :
    plan f name (.create sources) = (f.createDatabase? name).toList ++ tables := by
  have heach := mapM_eq_ok_iff.mp h
  have hall : (sources.all fun source => (f.createTableFrom source).isOk) = true := by
    rw [← Function.comp_def, ← List.all_map, heach, List.all_map, List.all_eq_true]
    exact fun _ _ => rfl
  have htables :
      (sources.filterMap fun source => (f.createTableFrom source).toOption) = tables := by
    rw [← Function.comp_def, ← List.filterMap_map, heach, List.filterMap_map]
    exact List.filterMap_some
  rw [plan, if_pos hall, htables]

theorem plan_create_of_error {e : Error} (h : sources.mapM f.createTableFrom = .error e) :
    plan f name (.create sources) = [] := by
  obtain ⟨source, hmem, hfails⟩ := exists_of_mapM_eq_error h
  have hnot : ¬ (sources.all fun source => (f.createTableFrom source).isOk) = true := by
    intro hall
    have hok := List.all_eq_true.mp hall source hmem
    rw [hfails] at hok
    cases hok
  rw [plan, if_neg hnot]

end Plan

/-- **A step executes its plan and nothing else.** What it gives is settled by what came of that. -/
theorem act_eq (action : Action) (state : σ) :
    db.act execute action state =
      ((settle db.flavor db.name action
          (execute.executeAll (plan db.flavor db.name action) state).1),
        (execute.executeAll (plan db.flavor db.name action) state).2) := by
  cases action with
  | create sources =>
    cases h : sources.mapM db.flavor.createTableFrom with
    | error e =>
      rw [plan_create_of_error h]
      simp only [act, create_of_error db execute state h, settle, h]
      rfl
    | ok tables =>
      rw [plan_create_of_ok h]
      simp only [act, create_of_ok db execute state h, settle, h]
      rcases execute.executeAll ((db.flavor.createDatabase? db.name).toList ++ tables) state with
        ⟨_ | _, after⟩ <;> rfl
  | drop =>
    unfold act drop plan
    cases h : db.flavor.dropDatabase? db.name with
    | none =>
      simp only [settle, h]
      rfl
    | some statement =>
      rw [Option.toList_some, Executor.executeAll_singleton]
      simp only [settle, h]
      rcases execute statement state with ⟨_ | _, after⟩ <;> rfl

/-- Listing changes neither what a step gives nor the state. -/
theorem act_listed (action : Action) (seen : List String) (state : σ) :
    ((db.act execute.listed action (seen, state)).1,
        (db.act execute.listed action (seen, state)).2.2) = db.act execute action state := by
  have h := execute.executeAll_listed (plan db.flavor db.name action) (seen, state)
  rw [act_eq, act_eq, ← h]

/-- Watching a session changes neither what its steps give nor the state. -/
theorem session_eq_watched : ∀ (actions : List Action) (state : σ),
    db.session execute actions state =
      ((db.watched execute actions state).1.map Prod.fst, (db.watched execute actions state).2)
  | [], _ => rfl
  | action :: rest, state => by
    have h := act_listed db execute action [] state
    unfold session watched
    rw [← h]
    simp only [session_eq_watched rest, List.map_cons]

end Steps

/-! ## Sessions -/

section Sessions

variable {db : Database} {fails : Nat → Bool} {reason : String}

theorem act_recorder (action : Action) (r : Recorder) :
    db.act (Recorder.executor fails reason).listed action ([], r) =
      let attempt := Attempt.ofPlan fails r.calls (plan db.flavor db.name action)
      (settle db.flavor db.name action (attempt.result reason), attempt.made,
        ⟨r.calls + attempt.made.length, r.statements ++ attempt.kept⟩) := by
  rw [act_eq, Recorder.executeAll_listed]
  rfl

theorem watched_recorder : ∀ (actions : List Action) (r : Recorder),
    db.watched (Recorder.executor fails reason) actions r =
      let attempts := Attempt.ofPlans fails r.calls (actions.map (plan db.flavor db.name))
      let results := List.zipWith (fun action attempt =>
        settle db.flavor db.name action (attempt.result reason)) actions attempts
      (results.zip (attempts.map Attempt.made),
        ⟨r.calls + (attempts.flatMap Attempt.made).length,
          r.statements ++ attempts.flatMap Attempt.kept⟩)
  | [], r => by
    simp [watched, Attempt.ofPlans]
  | action :: rest, r => by
    unfold watched
    rw [act_recorder]
    simp only [watched_recorder rest, List.map_cons, Attempt.ofPlans, List.zipWith_cons_cons,
      List.zip_cons_cons, List.flatMap_cons, List.length_append, List.append_assoc, Nat.add_assoc]

/-- **Every step executes its plan up to and including its first failing call.** With the calls
counted over the whole session, each step gives the executor what its attempt makes, and the
executor keeps what the attempts keep, in the order of the steps. Watching changes none of this. -/
theorem session_follows_plans {d : Dialect} {name : String} (hdb : named d name = .ok db)
    (fails : Nat → Bool) (reason : String) (actions : List Action) :
    let attempts := Attempt.ofPlans fails 0 (actions.map (plan d.flavor name))
    let results := List.zipWith (fun action attempt =>
      settle d.flavor name action (attempt.result reason)) actions attempts
    let recorder : Recorder :=
      ⟨(attempts.flatMap Attempt.made).length, attempts.flatMap Attempt.kept⟩
    db.watched (Recorder.executor fails reason) actions .empty =
        (results.zip (attempts.map Attempt.made), recorder) ∧
      db.session (Recorder.executor fails reason) actions .empty = (results, recorder) := by
  obtain ⟨rfl, rfl⟩ := named_eq_ok hdb
  intro attempts results recorder
  have hwatched : db.watched (Recorder.executor fails reason) actions .empty =
      (results.zip (attempts.map Attempt.made), recorder) := by
    rw [watched_recorder]
    simp only [Recorder.empty, Nat.zero_add, List.nil_append]
    rfl
  refine ⟨hwatched, ?_⟩
  have hlength : results.length ≤ (attempts.map Attempt.made).length := by
    rw [List.length_zipWith, List.length_map]
    exact Nat.min_le_right _ _
  rw [session_eq_watched, hwatched, List.map_fst_zip hlength]

/-- The third call of this session fails, when the first of two tables is created already; creating
the other table and dropping go on from there. -/
theorem session_with_failing_table :
    let creation :=
      "CREATE DATABASE IF NOT EXISTS app CHARACTER SET utf8mb4 COLLATE utf8mb4_unicode_ci"
    ∃ db, named (.ofKind .mysql) "app" = .ok db ∧
      db.session (Recorder.executor (· == 3) "connection reset")
          [.create [keyedTable "users" "id", keyedTable "posts" "id"],
            .create [keyedTable "posts" "id"], .drop] .empty =
        ([.error (.executionFailed "connection reset"), .ok (.created 1), .ok (.dropped true)],
          ⟨6, [creation,
            "CREATE TABLE users (\x60id\x60 VARCHAR(36) NOT NULL, PRIMARY KEY (\x60id\x60))",
            creation,
            "CREATE TABLE posts (\x60id\x60 VARCHAR(36) NOT NULL, PRIMARY KEY (\x60id\x60))",
            "DROP DATABASE IF EXISTS app"]⟩) := by
  intro creation
  have hdb : named (.ofKind .mysql) "app" =
      .ok ⟨.ofKind .mysql, "app", by decide, by decide⟩ := rfl
  refine ⟨_, hdb, ?_⟩
  rw [(session_follows_plans hdb _ _ _).2]
  rfl

end Sessions

end Database

end TableScript
