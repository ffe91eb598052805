import TgDrive.Effect.Prog

/-!
# Execution with Failures and Crashes

What a program may do on an environment that is not obliged to answer. An
environment says which answers and successor states an operation has, and
which states a crash in the middle of an operation can leave. `Exec` is the
resulting big-step relation: a program ends with a result, with a failure, or
by a crash that discards whatever was left of it.

`wp` is the matching predicate transformer. It takes one postcondition for
the runs that end, failures included, and one for the states a crash leaves,
so a single statement covers both what a call guarantees and what survives
it. `wp_iff_exec` says the two readings agree, so an invariant is proved by
walking down the program and used by inverting an execution.

`Env.ofRun` is the environment of a function, and `wp_ofRun` reads a `wp` over
it as a fact about `Prog.eval`. This is how one specification, proved for an
arbitrary environment, also says what the program computes when nothing goes
wrong.

## Main definitions

* `Env`: The answers and crashes an environment allows.
* `Outcome`: How an execution ends.
* `Exec`: The executions of a program on an environment.
* `wp`: The weakest precondition for a pair of postconditions.
* `Env.ofRun`: The environment of a deterministic function.
* `Prog.crashAt`: The state a crash in a given operation leaves.

## Theorems

* `wp_mono`: Postconditions may be weakened.
* `wp_env_mono`: A smaller environment needs a weaker precondition.
* `wp_bind`: The precondition of a sequence.
* `wp_perform`: The precondition of one operation.
* `wp_attempt`: Keeping a failure as a value.
* `wp_seq`: A sequence, through a postcondition of its first half.
* `wp_foldlM`: The loop rule for a list of steps.
* `wp_iff_exec`: Preconditions and executions agree.
* `wp_ofRun`: Preconditions over a function speak of its evaluation.
* `exec_of_eval`: What a function computes, its environment may do.
* `exec_of_crashAt`: A crash of such a run is an execution.
* `exec_bind_ok`: Executions compose.
-/

namespace Effect

/-- What an environment may answer to an operation, with the state it leaves,
    and the states a crash in the middle of the operation can leave. -/
structure Env (S : Signature) (σ : Type) where
  step : (e : S.Op) → σ → Except String (S.Resp e) → σ → Prop
  crash : S.Op → σ → σ → Prop

/-- How an execution ends: with an answer or a failure, or by a crash. -/
inductive Outcome (α : Type) : Type
  | done (r : Except String α)
  | crashed

variable {S : Signature} {α β γ σ : Type}

/-- The executions of a program on an environment. -/
inductive Exec (E : Env S σ) : Prog S α → σ → Outcome α → σ → Prop
  | pure (a : α) (s : σ) : Exec E (.pure a) s (.done (.ok a)) s
  | fail (msg : String) (s : σ) : Exec E (.fail msg) s (.done (.error msg)) s
  | step (e : S.Op) (k : Except String (S.Resp e) → Prog S α)
      (s s' s'' : σ) (r : Except String (S.Resp e)) (o : Outcome α)
      (hstep : E.step e s r s') (hrest : Exec E (k r) s' o s'') :
      Exec E (.op e k) s o s''
  | crash (e : S.Op) (k : Except String (S.Resp e) → Prog S α)
      (s s' : σ) (hcrash : E.crash e s s') : Exec E (.op e k) s .crashed s'

/-- The weakest precondition of a program for a postcondition on the runs
    that end and one on the states a crash leaves. -/
def wp (E : Env S σ) : Prog S α → (Except String α → σ → Prop) → (σ → Prop) → σ → Prop
  | .pure a, Q, _, s => Q (.ok a) s
  | .fail msg, Q, _, s => Q (.error msg) s
  | .op e k, Q, C, s =>
      (∀ r s', E.step e s r s' → wp E (k r) Q C s') ∧ (∀ s', E.crash e s s' → C s')

variable {E : Env S σ}

@[simp] theorem wp_pure (a : α) (Q : Except String α → σ → Prop) (C : σ → Prop) (s : σ) :
    wp E (.pure a) Q C s ↔ Q (.ok a) s := Iff.rfl

@[simp] theorem wp_pure' (a : α) (Q : Except String α → σ → Prop) (C : σ → Prop) (s : σ) :
    wp E (Pure.pure a) Q C s ↔ Q (.ok a) s := Iff.rfl

@[simp] theorem wp_fail (msg : String) (Q : Except String α → σ → Prop) (C : σ → Prop)
    (s : σ) : wp E (.fail msg) Q C s ↔ Q (.error msg) s := Iff.rfl

theorem wp_mono (p : Prog S α) (Q Q' : Except String α → σ → Prop) (C C' : σ → Prop)
    (hQ : ∀ r s, Q r s → Q' r s) (hC : ∀ s, C s → C' s) (s : σ) (h : wp E p Q C s) :
    wp E p Q' C' s := by
  induction p generalizing s with
  | pure a => exact hQ _ _ h
  | fail msg => exact hQ _ _ h
  | op e k ih =>
      exact ⟨fun r s' hstep => ih r s' (h.1 r s' hstep), fun s' hcr => hC s' (h.2 s' hcr)⟩

/-- Any execution ends in some way. -/
theorem wp_trivial (p : Prog S α) (s : σ) : wp E p (fun _ _ => True) (fun _ => True) s := by
  induction p generalizing s with
  | pure a => exact trivial
  | fail msg => exact trivial
  | op e k ih => exact ⟨fun r s' _ => ih r s', fun _ _ => trivial⟩

/-- An environment that does less allows more: what holds of every execution
    on the larger environment holds on the smaller. -/
theorem wp_env_mono (E' : Env S σ) (hstep : ∀ e s r s', E'.step e s r s' → E.step e s r s')
    (hcrash : ∀ e s s', E'.crash e s s' → E.crash e s s') (p : Prog S α)
    (Q : Except String α → σ → Prop) (C : σ → Prop) (s : σ) (h : wp E p Q C s) :
    wp E' p Q C s := by
  induction p generalizing s with
  | pure a => exact h
  | fail msg => exact h
  | op e k ih =>
      exact ⟨fun r s' hs => ih r s' (h.1 r s' (hstep e s r s' hs)),
        fun s' hc => h.2 s' (hcrash e s s' hc)⟩

/-- The precondition of a sequence is the precondition of its first half for
    the precondition of its second. A failure of the first half is the
    failure of the whole. -/
theorem wp_bind (p : Prog S α) (f : α → Prog S β) (Q : Except String β → σ → Prop)
    (C : σ → Prop) (s : σ) :
    wp E (p >>= f) Q C s ↔ wp E p (fun r s' => match r with
      | .ok a => wp E (f a) Q C s'
      | .error msg => Q (.error msg) s') C s := by
  induction p generalizing s with
  | pure a => exact Iff.rfl
  | fail msg => exact Iff.rfl
  | op e k ih =>
      rw [Prog.op_bind]
      constructor
      · intro h
        exact ⟨fun r s' hstep => (ih r s').mp (h.1 r s' hstep), h.2⟩
      · intro h
        exact ⟨fun r s' hstep => (ih r s').mpr (h.1 r s' hstep), h.2⟩

theorem wp_perform (e : S.Op) (Q : Except String (S.Resp e) → σ → Prop) (C : σ → Prop)
    (s : σ) : wp E (Prog.perform e) Q C s ↔
      (∀ r s', E.step e s r s' → Q r s') ∧ (∀ s', E.crash e s s' → C s') := by
  constructor
  · intro h
    refine ⟨fun r s' hstep => ?_, h.2⟩
    have hr := h.1 r s' hstep
    cases r with
    | ok a => exact hr
    | error msg => exact hr
  · intro h
    refine ⟨fun r s' hstep => ?_, h.2⟩
    have hr := h.1 r s' hstep
    cases r with
    | ok a => exact hr
    | error msg => exact hr

/-- One operation followed by the rest of the program. -/
theorem wp_perform_bind (e : S.Op) (f : S.Resp e → Prog S β)
    (Q : Except String β → σ → Prop) (C : σ → Prop) (s : σ) :
    wp E (Prog.perform e >>= f) Q C s ↔
      (∀ a s', E.step e s (.ok a) s' → wp E (f a) Q C s') ∧
      (∀ msg s', E.step e s (.error msg) s' → Q (.error msg) s') ∧
      (∀ s', E.crash e s s' → C s') := by
  rw [wp_bind, wp_perform]
  constructor
  · intro h
    exact ⟨fun a s' hs => h.1 (.ok a) s' hs, fun msg s' hs => h.1 (.error msg) s' hs, h.2⟩
  · intro h
    refine ⟨fun r s' hs => ?_, h.2.2⟩
    cases r with
    | ok a => exact h.1 a s' hs
    | error msg => exact h.2.1 msg s' hs

theorem wp_attempt (p : Prog S α) (Q : Except String (Except String α) → σ → Prop)
    (C : σ → Prop) (s : σ) :
    wp E p.attempt Q C s ↔ wp E p (fun r s' => Q (.ok r) s') C s := by
  induction p generalizing s with
  | pure a => exact Iff.rfl
  | fail msg => exact Iff.rfl
  | op e k ih =>
      constructor
      · intro h
        exact ⟨fun r s' hstep => (ih r s').mp (h.1 r s' hstep), h.2⟩
      · intro h
        exact ⟨fun r s' hstep => (ih r s').mpr (h.1 r s' hstep), h.2⟩

@[simp] theorem wp_ensure (b : Bool) (msg : String) (Q : Except String Unit → σ → Prop)
    (C : σ → Prop) (s : σ) : wp E (Prog.ensure b msg) Q C s ↔
      (b = true → Q (.ok ()) s) ∧ (b = false → Q (.error msg) s) := by
  cases b with
  | true => simp only [Prog.ensure, if_true, wp_pure, forall_const, reduceCtorEq,
      false_implies, and_true]
  | false => simp only [Prog.ensure, Bool.false_eq_true, if_false, wp_fail, false_implies,
      forall_const, true_and]

@[simp] theorem wp_ofExcept (x : Except String α) (Q : Except String α → σ → Prop)
    (C : σ → Prop) (s : σ) : wp E (Prog.ofExcept x) Q C s ↔ Q x s := by
  cases x with
  | ok a => exact Iff.rfl
  | error msg => exact Iff.rfl

@[simp] theorem wp_ofOption (x : Option α) (msg : String) (Q : Except String α → σ → Prop)
    (C : σ → Prop) (s : σ) : wp E (Prog.ofOption x msg) Q C s ↔
      (∀ a, x = some a → Q (.ok a) s) ∧ (x = none → Q (.error msg) s) := by
  cases x with
  | some a => simp only [Prog.ofOption, wp_pure, Option.some.injEq, forall_eq', reduceCtorEq,
      false_implies, and_true]
  | none => simp only [Prog.ofOption, wp_fail, reduceCtorEq, false_implies, implies_true,
      forall_const, true_and]

/-- A check and what follows it. -/
theorem wp_ensure_bind (b : Bool) (msg : String) (f : Unit → Prog S β)
    (Q : Except String β → σ → Prop) (C : σ → Prop) (s : σ)
    (hpass : b = true → wp E (f ()) Q C s) (hstop : b = false → Q (.error msg) s) :
    wp E (Prog.ensure b msg >>= f) Q C s := by
  rw [wp_bind, wp_ensure]
  exact ⟨hpass, hstop⟩

/-- A pure step that may fail and what follows it. -/
theorem wp_ofExcept_bind (x : Except String α) (f : α → Prog S β)
    (Q : Except String β → σ → Prop) (C : σ → Prop) (s : σ)
    (hok : ∀ a, x = .ok a → wp E (f a) Q C s) (herr : ∀ msg, x = .error msg → Q (.error msg) s) :
    wp E (Prog.ofExcept x >>= f) Q C s := by
  rw [wp_bind, wp_ofExcept]
  cases x with
  | ok a => exact hok a rfl
  | error msg => exact herr msg rfl

/-- A value that has to be there and what follows it. -/
theorem wp_ofOption_bind (x : Option α) (msg : String) (f : α → Prog S β)
    (Q : Except String β → σ → Prop) (C : σ → Prop) (s : σ)
    (hsome : ∀ a, x = some a → wp E (f a) Q C s) (hnone : x = none → Q (.error msg) s) :
    wp E (Prog.ofOption x msg >>= f) Q C s := by
  rw [wp_bind, wp_ofOption]
  exact ⟨hsome, hnone⟩

/-- A sequence, through a postcondition of its first half. -/
theorem wp_seq (p : Prog S α) (f : α → Prog S β) (R : Except String α → σ → Prop)
    (D : σ → Prop) (Q : Except String β → σ → Prop) (C : σ → Prop) (s : σ)
    (hp : wp E p R D s) (hok : ∀ a s', R (.ok a) s' → wp E (f a) Q C s')
    (herr : ∀ msg s', R (.error msg) s' → Q (.error msg) s') (hcrash : ∀ s', D s' → C s') :
    wp E (p >>= f) Q C s := by
  rw [wp_bind]
  refine wp_mono p _ _ D C (fun r s' hr => ?_) hcrash s hp
  cases r with
  | ok a => exact hok a s' hr
  | error msg => exact herr msg s' hr

/-- A program whose failure is kept, and what follows it. -/
theorem wp_attempt_bind (p : Prog S α) (f : Except String α → Prog S β)
    (R : Except String α → σ → Prop) (D : σ → Prop) (Q : Except String β → σ → Prop)
    (C : σ → Prop) (s : σ) (hp : wp E p R D s) (hnext : ∀ r s', R r s' → wp E (f r) Q C s')
    (hcrash : ∀ s', D s' → C s') : wp E (p.attempt >>= f) Q C s := by
  rw [wp_bind, wp_attempt]
  exact wp_mono p _ _ D C hnext hcrash s hp

/-- The loop rule: an invariant indexed by what is left of the list, holding
    before the first step, carried by each step, ends up holding for the
    empty rest. A step that fails or crashes leaves the loop at once. -/
theorem wp_foldlM (l : List γ) (f : β → γ → Prog S β) (b : β)
    (I : List γ → β → σ → Prop) (X : String → σ → Prop) (C : σ → Prop)
    (hstep : ∀ x rest b s, I (x :: rest) b s → wp E (f b x) (fun r s' => match r with
      | .ok b' => I rest b' s'
      | .error msg => X msg s') C s)
    (s : σ) (h : I l b s) :
    wp E (l.foldlM f b) (fun r s' => match r with
      | .ok b' => I [] b' s'
      | .error msg => X msg s') C s := by
  induction l generalizing b s with
  | nil => exact h
  | cons x rest ih =>
      rw [List.foldlM_cons, wp_bind]
      refine wp_mono _ _ _ C C (fun r s' hr => ?_) (fun _ hc => hc) s (hstep x rest b s h)
      cases r with
      | ok b' => exact ih b' s' hr
      | error msg => exact hr

/-- Preconditions and executions agree: a precondition holds when every
    execution ends in its postconditions. -/
theorem wp_iff_exec (p : Prog S α) (Q : Except String α → σ → Prop) (C : σ → Prop) (s : σ) :
    wp E p Q C s ↔ ∀ o s', Exec E p s o s' → match o with
      | .done r => Q r s'
      | .crashed => C s' := by
  induction p generalizing s with
  | pure a =>
      constructor
      · intro h o s' hex
        cases hex with
        | pure => exact h
      · intro h
        exact h _ _ (.pure a s)
  | fail msg =>
      constructor
      · intro h o s' hex
        cases hex with
        | fail => exact h
      · intro h
        exact h _ _ (.fail msg s)
  | op e k ih =>
      constructor
      · intro h o s' hex
        cases hex with
        | step _ _ _ s1 _ r _ hstep hrest => exact (ih r s1).mp (h.1 r s1 hstep) _ _ hrest
        | crash _ _ _ _ hcrash => exact h.2 _ hcrash
      · intro h
        refine ⟨fun r s' hstep => (ih r s').mpr (fun o s'' hrest => ?_), fun s' hcr => ?_⟩
        · exact h o s'' (.step e k s s' s'' r o hstep hrest)
        · exact h .crashed s' (.crash e k s s' hcr)

/-- An execution that ends is covered by the first postcondition. -/
theorem wp_done (p : Prog S α) (Q : Except String α → σ → Prop) (C : σ → Prop) (s s' : σ)
    (r : Except String α) (h : wp E p Q C s) (hex : Exec E p s (.done r) s') : Q r s' :=
  (wp_iff_exec p Q C s).mp h _ _ hex

/-- An execution that crashes is covered by the second. -/
theorem wp_crashed (p : Prog S α) (Q : Except String α → σ → Prop) (C : σ → Prop) (s s' : σ)
    (h : wp E p Q C s) (hex : Exec E p s .crashed s') : C s' :=
  (wp_iff_exec p Q C s).mp h _ _ hex

/-- The environment of a function: one answer to each operation, and no
    crashes. -/
def Env.ofRun (run : (e : S.Op) → σ → Except String (S.Resp e) × σ) : Env S σ where
  step e s r s' := run e s = (r, s')
  crash _ _ _ := False

theorem wp_ofRun (run : (e : S.Op) → σ → Except String (S.Resp e) × σ) (p : Prog S α)
    (Q : Except String α → σ → Prop) (C : σ → Prop) (s : σ) :
    wp (Env.ofRun run) p Q C s ↔ Q (p.eval run s).1 (p.eval run s).2 := by
  induction p generalizing s with
  | pure a => exact Iff.rfl
  | fail msg => exact Iff.rfl
  | op e k ih =>
      constructor
      · intro h
        exact (ih _ _).mp (h.1 _ _ rfl)
      · intro h
        refine ⟨fun r s' hstep => ?_, fun s' hcr => False.elim hcr⟩
        have hr : run e s = (r, s') := hstep
        rw [Prog.eval, hr] at h
        exact (ih r s').mpr h

/-- What a function computes is one of the things an environment that
    includes it may do. -/
theorem exec_of_eval (run : (e : S.Op) → σ → Except String (S.Resp e) × σ)
    (hrun : ∀ e s, E.step e s (run e s).1 (run e s).2) (p : Prog S α) (s : σ) :
    Exec E p s (.done (p.eval run s).1) (p.eval run s).2 := by
  induction p generalizing s with
  | pure a => exact .pure a s
  | fail msg => exact .fail msg s
  | op e k ih => exact .step e k s _ _ _ _ (hrun e s) (ih _ _)

/-- The state that a crash in the operation after the first `n` leaves, for
    answers that a function gives and a way to be cut off. -/
def Prog.crashAt (run : (e : S.Op) → σ → Except String (S.Resp e) × σ)
    (cut : S.Op → σ → Option σ) : Nat → Prog S α → σ → Option σ
  | 0, .op e _, s => cut e s
  | n + 1, .op e k, s => (k (run e s).1).crashAt run cut n (run e s).2
  | _, _, _ => none

/-- Such a crash is an execution of an environment that allows both. -/
theorem exec_of_crashAt (run : (e : S.Op) → σ → Except String (S.Resp e) × σ)
    (cut : S.Op → σ → Option σ) (hrun : ∀ e s, E.step e s (run e s).1 (run e s).2)
    (hcut : ∀ e s s', cut e s = some s' → E.crash e s s') (n : Nat) (p : Prog S α) (s s' : σ)
    (h : p.crashAt run cut n s = some s') : Exec E p s .crashed s' := by
  induction p generalizing n s with
  | pure a =>
      cases n with
      | zero => cases h
      | succ n => cases h
  | fail msg =>
      cases n with
      | zero => cases h
      | succ n => cases h
  | op e k ih =>
      cases n with
      | zero => exact .crash e k s s' (hcut e s s' h)
      | succ n => exact .step e k s _ s' _ _ (hrun e s) (ih _ n _ h)

/-- Running the first half to a result and the second half on it runs the
    sequence. -/
theorem exec_bind_ok (p : Prog S α) (f : α → Prog S β) (s s' s'' : σ) (a : α) (o : Outcome β)
    (hp : Exec E p s (.done (.ok a)) s') (hf : Exec E (f a) s' o s'') :
    Exec E (p >>= f) s o s'' := by
  induction p generalizing s with
  | pure b =>
      cases hp with
      | pure => exact hf
  | fail msg => cases hp
  | op e k ih =>
      cases hp with
      | step _ _ _ s1 _ r _ hstep hrest =>
          exact .step e _ s s1 s'' r o hstep (ih r s1 hrest)

end Effect
