/-!
# The log

Work that is worth telling leaves records in a log. `Logged` is a result together with the records
made on the way to it, which stay when the work fails.

* `Logged.note` leaves a record and `Logged.of` none. `Logged.andThen` goes on with a result and
  keeps the records of both.
* `Log.Level` is how important a record is, and `Log.Origin` the part of the program that it is
  from.

Results:
* `Logged` is a lawful monad.
* `Logged.result_bind`, `Logged.result_map`, `Logged.result_mapM`: the log never decides a result.
-/

namespace TableScript

namespace Log

/-- How important a record is, most important first. -/
inductive Level where
  | error
  | warn
  | info
  | debug
  | trace
  deriving DecidableEq

namespace Level

def all : List Level := [.error, .warn, .info, .debug, .trace]

/-- One for errors, and more the less important the level. -/
def rank : Level → Nat
  | error => 1
  | warn => 2
  | info => 3
  | debug => 4
  | trace => 5

def name : Level → String
  | error => "ERROR"
  | warn => "WARN"
  | info => "INFO"
  | debug => "DEBUG"
  | trace => "TRACE"

end Level

/-- The part of the program that a record is from. -/
inductive Origin where
  | statements
  | descriptions
  | database
  | configuration
  | dropping
  deriving DecidableEq

/-- The target that filters go by. -/
def Origin.target : Origin → String
  | statements => "schema_ddl::generator"
  | descriptions => "schema_ddl::spec::analyzer"
  | database => "schema_ddl::bootstrap"
  | configuration => "schema_ddl::config"
  | dropping => "schema_ddl::commands::drop::execute"

structure Record where
  level : Level
  origin : Origin
  message : String
  deriving DecidableEq

end Log

/-- A result and the records made on the way to it. -/
structure Logged (ε α : Type) where
  result : Except ε α
  log : List Log.Record

namespace Logged

variable {ε α β : Type}

/-- A result without any record. -/
def of (result : Except ε α) : Logged ε α := ⟨result, []⟩

/-- One record. -/
def note (level : Log.Level) (origin : Log.Origin) (message : String) : Logged ε Unit :=
  ⟨.ok (), [⟨level, origin, message⟩]⟩

/-- The second part works on the result of the first, if it has one. -/
def andThen (x : Logged ε α) (f : α → Logged ε β) : Logged ε β :=
  match x.result with
  | .error e => ⟨.error e, x.log⟩
  | .ok a => ⟨(f a).result, x.log ++ (f a).log⟩

instance : Monad (Logged ε) where
  pure a := of (.ok a)
  bind := andThen

@[simp] theorem result_of (r : Except ε α) : (of r).result = r := rfl

@[simp] theorem result_pure (a : α) : (pure a : Logged ε α).result = .ok a := rfl

@[simp] theorem result_note (level : Log.Level) (origin : Log.Origin) (message : String) :
    (note level origin message : Logged ε Unit).result = .ok () := rfl

@[simp] theorem result_bind (x : Logged ε α) (f : α → Logged ε β) :
    (x >>= f).result = x.result >>= fun a => (f a).result := by
  show (andThen x f).result = _
  unfold andThen
  cases x.result <;> rfl

instance : LawfulMonad (Logged ε) :=
  LawfulMonad.mk' _
    (fun x => by
      show andThen x (fun a => of (.ok a)) = x
      obtain ⟨result, log⟩ := x
      cases result <;> simp [andThen, of])
    (fun _ _ => rfl)
    (fun x f g => by
      show andThen (andThen x f) g = andThen x fun a => andThen (f a) g
      obtain ⟨result, log⟩ := x
      cases result with
      | error e => rfl
      | ok a =>
        unfold andThen
        cases h : (f a).result <;> simp [h])

@[simp] theorem result_map (f : α → β) (x : Logged ε α) : (f <$> x).result = f <$> x.result := by
  rw [← bind_pure_comp, result_bind]
  cases x.result <;> rfl

@[simp] theorem result_mapM (f : α → Logged ε β) (xs : List α) :
    (xs.mapM f).result = xs.mapM fun a => (f a).result := by
  induction xs with
  | nil => rfl
  | cons a rest ih => simp only [List.mapM_cons, result_bind, result_pure, ih]; rfl

end Logged

end TableScript
