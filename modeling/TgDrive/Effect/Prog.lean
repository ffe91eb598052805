import Mathlib.Logic.Basic

/-!
# Effectful Programs

Programs as trees of requests to an environment. A node asks for one operation
of a signature and goes on with whatever the environment answers, an error
included; a leaf is a result or a failure. Nothing here says what an operation
does. The same program is read three ways further on: as a function, when the
environment is deterministic (`eval`, below), as a relation, when operations
may fail and the process may die between two of them (`Effect.Exec`), and as
one task among others that take turns (`Effect.Interleave`).

Operations are the unit of atomicity. What happens inside one is invisible to
the other tasks, so a critical section is modelled as one operation, while two
sections that a lock does not join are two operations.

## Main definitions

* `Signature`: Operations and the type of the answer to each.
* `Prog`: Programs over a signature.
* `Prog.perform`: Asking for one operation, its error being the program's.
* `Prog.attempt`: Running a program and keeping its failure as a value.
* `Prog.ensure`: Failing unless a condition holds.
* `Prog.ofExcept`: A pure step that may fail.
* `Prog.eval`: Running a program on a deterministic environment.

## Theorems

* `eval_bind`: Evaluation of a sequence goes through its first half.
-/

namespace Effect

/-- The operations a program may ask for, with the type of each answer. -/
structure Signature where
  Op : Type
  Resp : Op → Type

/-- A program: a result, a failure, or an operation and what follows each of
    its answers. -/
inductive Prog (S : Signature) (α : Type) : Type
  | pure (a : α)
  | fail (msg : String)
  | op (e : S.Op) (k : Except String (S.Resp e) → Prog S α)

namespace Prog

variable {S : Signature} {α β σ : Type}

/-- Run one program, then another on its result. A failure skips the rest. -/
protected def bind : Prog S α → (α → Prog S β) → Prog S β
  | .pure a, f => f a
  | .fail msg, _ => .fail msg
  | .op e k, f => .op e (fun r => (k r).bind f)

instance : Monad (Prog S) where
  pure := .pure
  bind := Prog.bind

/-- Ask for one operation. Its error becomes the failure of the program. -/
def perform (e : S.Op) : Prog S (S.Resp e) :=
  .op e (fun r => match r with
    | .ok a => .pure a
    | .error msg => .fail msg)

/-- Run a program and keep its failure as a value. -/
def attempt : Prog S α → Prog S (Except String α)
  | .pure a => .pure (.ok a)
  | .fail msg => .pure (.error msg)
  | .op e k => .op e (fun r => (k r).attempt)

/-- Fail with a message unless a condition holds. -/
def ensure (b : Bool) (msg : String) : Prog S Unit :=
  if b then .pure () else .fail msg

/-- A pure step that may fail. -/
def ofExcept : Except String α → Prog S α
  | .ok a => .pure a
  | .error msg => .fail msg

/-- A value that has to be there. -/
def ofOption (o : Option α) (msg : String) : Prog S α :=
  match o with
  | some a => .pure a
  | none => .fail msg

@[simp] theorem pure_bind (a : α) (f : α → Prog S β) : (Prog.pure a >>= f) = f a := rfl

@[simp] theorem pure_bind' (a : α) (f : α → Prog S β) :
    ((Pure.pure a : Prog S α) >>= f) = f a := rfl

@[simp] theorem fail_bind (msg : String) (f : α → Prog S β) :
    ((Prog.fail msg : Prog S α) >>= f) = Prog.fail msg := rfl

@[simp] theorem op_bind (e : S.Op) (k : Except String (S.Resp e) → Prog S α)
    (f : α → Prog S β) : (Prog.op e k >>= f) = Prog.op e (fun r => k r >>= f) := rfl

/-- To return what a program has returned is to do nothing. -/
theorem bind_pure (p : Prog S α) : p >>= Prog.pure = p := by
  induction p with
  | pure a => rfl
  | fail msg => rfl
  | op e k ih => exact congrArg (Prog.op e) (funext ih)

/-- Run a program on an environment that answers each operation in one way. -/
def eval (run : (e : S.Op) → σ → Except String (S.Resp e) × σ) :
    Prog S α → σ → Except String α × σ
  | .pure a, s => (.ok a, s)
  | .fail msg, s => (.error msg, s)
  | .op e k, s => (k (run e s).1).eval run (run e s).2

variable (run : (e : S.Op) → σ → Except String (S.Resp e) × σ)

@[simp] theorem eval_pure (a : α) (s : σ) : (Prog.pure a).eval run s = (.ok a, s) := rfl

@[simp] theorem eval_pure' (a : α) (s : σ) :
    (Pure.pure a : Prog S α).eval run s = (.ok a, s) := rfl

@[simp] theorem eval_fail (msg : String) (s : σ) :
    (Prog.fail msg : Prog S α).eval run s = (.error msg, s) := rfl

@[simp] theorem eval_perform (e : S.Op) (s : σ) : (perform e).eval run s = run e s := by
  rcases h : run e s with ⟨r, s'⟩
  cases r with
  | ok a => simp only [perform, eval, h]
  | error msg => simp only [perform, eval, h]

/-- The value of a sequence: the second half runs on the first half's result,
    in the state the first half leaves. -/
theorem eval_bind (p : Prog S α) (f : α → Prog S β) (s : σ) :
    (p >>= f).eval run s = match p.eval run s with
      | (.ok a, s') => (f a).eval run s'
      | (.error msg, s') => (.error msg, s') := by
  induction p generalizing s with
  | pure a => rfl
  | fail msg => rfl
  | op e k ih => exact ih _ _

theorem eval_bind_ok (p : Prog S α) (f : α → Prog S β) (s s' : σ) (a : α)
    (h : p.eval run s = (.ok a, s')) : (p >>= f).eval run s = (f a).eval run s' := by
  rw [eval_bind, h]

theorem eval_bind_error (p : Prog S α) (f : α → Prog S β) (s s' : σ) (msg : String)
    (h : p.eval run s = (.error msg, s')) : (p >>= f).eval run s = (.error msg, s') := by
  rw [eval_bind, h]

/-- A failure that is kept is a value. -/
theorem eval_attempt (p : Prog S α) (s : σ) :
    p.attempt.eval run s = (.ok (p.eval run s).1, (p.eval run s).2) := by
  induction p generalizing s with
  | pure a => rfl
  | fail msg => rfl
  | op e k ih => exact ih _ _

end Prog

end Effect
