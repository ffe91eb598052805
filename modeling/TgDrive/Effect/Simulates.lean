import TgDrive.Effect.Interleave
import TgDrive.Effect.Link
import TgDrive.Effect.Only
import Mathlib.Data.Fintype.Basic

/-!
# Coarser Programs

A program whose operations are fine, next to one whose operations are coarse.
While the fine one takes an operation, the coarse one may take any number of
its own, so an operation of the fine program either is the moment at which an
operation of the coarse one takes effect, or is silent. The two states are
related throughout, and in the end the two programs have the same result.

Because the relation of the states is kept by each operation of each program,
programs may be interleaved: in any interleaving of fine programs, each at the
side of a coarse one, the coarse ones are interleaved as well, and what has
returned has returned the same. Unlike the rule of rely and guarantee, nothing
is asked of what the others do but that they are such programs too.

A program that fails is matched by one that fails with the same message, which
is easy for coarse operations that may fail for any reason. `MayFail` says
that a program has such an operation before it.

## Main definitions

* `Steps`: Some operations of a program in a row.
* `Simulates`: A fine program at the side of a coarse one.
* `Next`: Related states, next to a third one.
* `Silent`: A program that no coarse operation answers to.
* `Settles`, `MayFail`: What a coarse program can do without an effect.

## Theorems

* `Simulates.bind`, `Simulates.attempt`, `Simulates.link`: Programs put together.
* `Simulates.link_left`: Programs that talk to another environment as well.
* `Silent.simulates_bind`, `Simulates.act_bind`: The two kinds of operations.
* `simulates_interleaved`: Interleaved programs.
* `simulates_done`: Interleaved programs that are done.
* `simulates_crash`: The process dies in one of them.
-/

namespace Effect

variable {S T : Signature} {α β γ δ ι σ τ : Type}

/-- Some operations of a program, one after the other. -/
inductive Steps (F : Env T τ) : Prog T β → τ → Prog T β → τ → Prop
  | stay (q : Prog T β) (t : τ) : Steps F q t q t
  | next (e : T.Op) (k : Except String (T.Resp e) → Prog T β) (t t1 t' : τ)
      (r : Except String (T.Resp e)) (q' : Prog T β) (hstep : F.step e t r t1)
      (h : Steps F (k r) t1 q' t') : Steps F (.op e k) t q' t'

namespace Steps

variable {F : Env T τ}

theorem trans (q q' q'' : Prog T β) (t t' t'' : τ) (h : Steps F q t q' t')
    (h' : Steps F q' t' q'' t'') : Steps F q t q'' t'' := by
  induction h with
  | stay => exact h'
  | next e k t t1 t' r q' hstep _ ih => exact .next e k t t1 _ r _ hstep (ih h')

theorem bind (q q' : Prog T β) (g : β → Prog T δ) (t t' : τ) (h : Steps F q t q' t') :
    Steps F (q >>= g) t (q' >>= g) t' := by
  induction h with
  | stay q t => exact .stay _ t
  | next e k t t1 t' r q' hstep _ ih => exact .next e _ t t1 t' r _ hstep ih

theorem attempt (q q' : Prog T β) (t t' : τ) (h : Steps F q t q' t') :
    Steps F q.attempt t q'.attempt t' := by
  induction h with
  | stay q t => exact .stay _ t
  | next e k t t1 t' r q' hstep _ ih => exact .next e _ t t1 t' r _ hstep ih

/-- One operation, and what follows its answer. -/
theorem perform_bind (e : T.Op) (g : T.Resp e → Prog T β) (t t' : τ)
    (r : Except String (T.Resp e)) (hstep : F.step e t r t') :
    Steps F (Prog.perform e >>= g) t
      ((match r with | .ok a => .pure a | .error msg => .fail msg) >>= g) t' :=
  .next e _ t t' t' r _ hstep (.stay _ t')

/-- The operations of one program are an interleaving with the others. -/
theorem interleaved [DecidableEq ι] (pool0 pool : ι → Prog T β) (t0 t t' : τ) (i : ι)
    (q' : Prog T β) (h : Steps F (pool i) t q' t')
    (hrun : Interleaved F pool0 t0 pool t) :
    Interleaved F pool0 t0 (Function.update pool i q') t' := by
  generalize hq : pool i = q at h
  induction h generalizing pool with
  | stay q t =>
      rw [← hq, Function.update_eq_self]
      exact hrun
  | next e k t t1 t' r q' hstep _ ih =>
      have hturn := ih (Function.update pool i (k r))
        (.turn pool t t1 i e k r hrun hq hstep) (Function.update_self i (k r) pool)
      rw [Function.update_idem] at hturn
      exact hturn

end Steps

/-- A program can become another one without an effect. -/
def Settles (F : Env T τ) (q q' : Prog T β) : Prop := ∀ t, Steps F q t q' t

/-- A program can fail without an effect, with any message. -/
def MayFail (F : Env T τ) (q : Prog T β) : Prop := ∀ msg, Settles F q (.fail msg)

theorem Settles.refl (F : Env T τ) (q : Prog T β) : Settles F q q := fun t => .stay q t

theorem Settles.trans {F : Env T τ} (q q' q'' : Prog T β) (h : Settles F q q')
    (h' : Settles F q' q'') : Settles F q q'' := fun t => (h t).trans _ _ _ _ _ _ (h' t)

theorem MayFail.bind {F : Env T τ} (q : Prog T β) (g : β → Prog T δ) (h : MayFail F q) :
    MayFail F (q >>= g) := fun msg t => (h msg t).bind _ _ g _ _

/-- An operation that may fail for any reason may be the first of a program. -/
theorem MayFail.perform {F : Env T τ} (e : T.Op)
    (h : ∀ t msg, F.step e t (.error msg) t) : MayFail F (Prog.perform e) := fun msg t =>
  .next e _ t t t (.error msg) _ (h t msg) (.stay _ t)

/-- What a program does next to another environment. -/
theorem Steps.left {V : Signature} {υ : Type} {F : Env T τ} {G : Env V υ} (q q' : Prog T β)
    (t t' : τ) (u : υ) (h : Steps F q t q' t') :
    Steps (F.sum G) q.left (t, u) q'.left (t', u) := by
  induction h with
  | stay => exact .stay _ _
  | next e k t t1 t' r q' hstep _ ih =>
      exact .next (T := T.sum V) (.inl e) _ (t, u) (t1, u) (t', u) r _ ⟨hstep, rfl⟩ ih

/-- Two results are failures with one message, or both are there and related. -/
def Matching (Post : α → β → Prop) : Except String α → Except String β → Prop
  | .ok a, .ok b => Post a b
  | .error msg, .error msg' => msg' = msg
  | _, _ => False

theorem matching_eq (r r' : Except String α) (h : Matching (fun a b => b = a) r r') : r' = r := by
  cases r with
  | ok a => cases r' with
    | ok b => exact congrArg Except.ok h
    | error msg => exact False.elim h
  | error msg => cases r' with
    | ok b => exact False.elim h
    | error msg' => exact congrArg Except.error h

/-- A fine program at the side of a coarse one. `R` relates the states of the
    two between operations and `K` after the death of the process, and `Post`
    relates their results. -/
def Simulates (E : Env S σ) (F : Env T τ) (R K : σ → τ → Prop) (Post : α → β → Prop) :
    Prog S α → Prog T β → Prop
  | .pure a, q => ∃ b, Settles F q (.pure b) ∧ Post a b
  | .fail msg, q => Settles F q (.fail msg)
  | .op e k, q => ∀ s t, R s t →
      (∀ r s', E.step e s r s' → ∃ q' t', Steps F q t q' t' ∧ R s' t' ∧
        Simulates E F R K Post (k r) q') ∧
      (∀ s', E.crash e s s' → ∃ q' t', Steps F q t q' t' ∧ K s' t')

/-- States that are related, each next to the same third one. -/
def Next {υ : Type} (R : σ → τ → Prop) (s : σ × υ) (t : τ × υ) : Prop := R s.1 t.1 ∧ t.2 = s.2

namespace Simulates

variable {E : Env S σ} {F : Env T τ} {R K : σ → τ → Prop} {Post : α → β → Prop}
  {Post' : γ → δ → Prop}

theorem pure (a : α) (b : β) (h : Post a b) :
    Simulates E F R K Post (Pure.pure a) (Pure.pure b) := ⟨b, .refl F _, h⟩

/-- A pure step that both programs take. -/
theorem ofExcept (x : Except String α) :
    Simulates E F R K (fun a b => b = a ∧ x = .ok a) (Prog.ofExcept x) (Prog.ofExcept x) := by
  cases x with
  | ok a => exact ⟨a, .refl F _, rfl, rfl⟩
  | error msg => exact .refl F _

theorem ensure (c : Bool) (msg : String) :
    Simulates E F R K (fun _ _ => c = true) (Prog.ensure c msg) (Prog.ensure c msg) := by
  cases c with
  | true => exact ⟨(), .refl F _, rfl⟩
  | false => exact .refl F _

/-- The coarse program may settle before the fine one goes on. -/
theorem settle (p : Prog S α) (q q' : Prog T β) (hq : Settles F q q')
    (h : Simulates E F R K Post p q') : Simulates E F R K Post p q := by
  cases p with
  | pure a =>
      rcases h with ⟨b, hb, hpost⟩
      exact ⟨b, hq.trans _ _ _ hb, hpost⟩
  | fail msg => exact hq.trans _ _ _ h
  | op e k =>
      intro s t hR
      refine ⟨fun r s' hstep => ?_, fun s' hcrash => ?_⟩
      · rcases (h s t hR).1 r s' hstep with ⟨q1, t1, hsteps, hR1, hrest⟩
        exact ⟨q1, t1, (hq t).trans _ _ _ _ _ _ hsteps, hR1, hrest⟩
      · rcases (h s t hR).2 s' hcrash with ⟨q1, t1, hsteps, hK⟩
        exact ⟨q1, t1, (hq t).trans _ _ _ _ _ _ hsteps, hK⟩

/-- One program after the other. -/
theorem bind (p : Prog S α) (q : Prog T β) (f : α → Prog S γ) (g : β → Prog T δ)
    (hp : Simulates E F R K Post p q)
    (hf : ∀ a b, Post a b → Simulates E F R K Post' (f a) (g b)) :
    Simulates E F R K Post' (p >>= f) (q >>= g) := by
  induction p generalizing q with
  | pure a =>
      rcases hp with ⟨b, hb, hpost⟩
      exact settle _ _ (g b) (fun t => (hb t).bind _ _ g _ _) (hf a b hpost)
  | fail msg => exact fun t => (hp t).bind _ _ g _ _
  | op e k ih =>
      intro s t hR
      refine ⟨fun r s' hstep => ?_, fun s' hcrash => ?_⟩
      · rcases (hp s t hR).1 r s' hstep with ⟨q1, t1, hsteps, hR1, hrest⟩
        exact ⟨q1 >>= g, t1, hsteps.bind _ _ g _ _, hR1, ih r q1 hrest⟩
      · rcases (hp s t hR).2 s' hcrash with ⟨q1, t1, hsteps, hK⟩
        exact ⟨q1 >>= g, t1, hsteps.bind _ _ g _ _, hK⟩

/-- A failure that is kept as a value. -/
theorem attempt (p : Prog S α) (q : Prog T β) (h : Simulates E F R K Post p q) :
    Simulates E F R K (Matching Post) p.attempt q.attempt := by
  induction p generalizing q with
  | pure a =>
      rcases h with ⟨b, hb, hpost⟩
      exact ⟨.ok b, fun t => (hb t).attempt _ _ _ _, hpost⟩
  | fail msg => exact ⟨.error msg, fun t => (h t).attempt _ _ _ _, rfl⟩
  | op e k ih =>
      intro s t hR
      refine ⟨fun r s' hstep => ?_, fun s' hcrash => ?_⟩
      · rcases (h s t hR).1 r s' hstep with ⟨q1, t1, hsteps, hR1, hrest⟩
        exact ⟨q1.attempt, t1, hsteps.attempt _ _ _ _, hR1, ih r q1 hrest⟩
      · rcases (h s t hR).2 s' hcrash with ⟨q1, t1, hsteps, hK⟩
        exact ⟨q1.attempt, t1, hsteps.attempt _ _ _ _, hK⟩

/-- An operation at which one of the coarse program takes effect. -/
theorem act_bind (e : S.Op) (e' : T.Op) (f : S.Resp e → Prog S α) (g : T.Resp e' → Prog T β)
    (h : ∀ s t, R s t → (∀ r s', E.step e s r s' → ∃ r' t', F.step e' t r' t' ∧ R s' t' ∧
      Matching (fun a b => Simulates E F R K Post (f a) (g b)) r r') ∧
      ∀ s', E.crash e s s' → K s' t ∨ ∃ r' t', F.step e' t r' t' ∧ K s' t') :
    Simulates E F R K Post (Prog.perform e >>= f) (Prog.perform e' >>= g) := by
  intro s t hR
  refine ⟨fun r s' hstep => ?_, fun s' hcrash => ?_⟩
  · rcases (h s t hR).1 r s' hstep with ⟨r', t', hstep', hR', hmatch⟩
    refine ⟨_, t', Steps.perform_bind e' g t t' r' hstep', hR', ?_⟩
    cases r with
    | ok a => cases r' with
      | ok b => exact hmatch
      | error msg => exact False.elim hmatch
    | error msg => cases r' with
      | ok b => exact False.elim hmatch
      | error msg' =>
          have hmsg : msg' = msg := hmatch
          rw [hmsg]
          exact Settles.refl F _
  · rcases (h s t hR).2 s' hcrash with hK | ⟨r', t', hstep', hK⟩
    · exact ⟨_, t, .stay _ t, hK⟩
    · exact ⟨_, t', Steps.perform_bind e' g t t' r' hstep', hK⟩

/-- The same, at the end of both programs. -/
theorem act (e : S.Op) (e' : T.Op) (Post : S.Resp e → T.Resp e' → Prop)
    (h : ∀ s t, R s t → (∀ r s', E.step e s r s' → ∃ r' t', F.step e' t r' t' ∧ R s' t' ∧
      Matching Post r r') ∧ ∀ s', E.crash e s s' → K s' t ∨ ∃ r' t', F.step e' t r' t' ∧ K s' t') :
    Simulates E F R K Post (Prog.perform e) (Prog.perform e') := by
  intro s t hR
  refine ⟨fun r s' hstep => ?_, fun s' hcrash => ?_⟩
  · rcases (h s t hR).1 r s' hstep with ⟨r', t', hstep', hR', hmatch⟩
    refine ⟨_, t', .next e' _ t t' t' r' _ hstep' (.stay _ t'), hR', ?_⟩
    cases r with
    | ok a => cases r' with
      | ok b => exact ⟨b, .refl F _, hmatch⟩
      | error msg => exact False.elim hmatch
    | error msg => cases r' with
      | ok b => exact False.elim hmatch
      | error msg' =>
          have hmsg : msg' = msg := hmatch
          rw [hmsg]
          exact Settles.refl F _
  · rcases (h s t hR).2 s' hcrash with hK | ⟨r', t', hstep', hK⟩
    · exact ⟨_, t, .stay _ t, hK⟩
    · exact ⟨_, t', .next e' _ t t' t' r' _ hstep' (.stay _ t'), hK⟩

/-- A program over operations that are implemented on both sides. Only the
    operations that the program asks for count. -/
theorem link {U : Signature} (A : U.Op → Prop) (impl : (e : U.Op) → Prog S (U.Resp e))
    (impl' : (e : U.Op) → Prog T (U.Resp e))
    (himpl : ∀ e, A e → Simulates E F R K (fun a b => b = a) (impl e) (impl' e))
    (p : Prog U α) (hp : p.Only A) :
    Simulates E F R K (fun a b => b = a) (p.link impl) (p.link impl') := by
  induction p with
  | pure a => exact ⟨a, .refl F _, rfl⟩
  | fail msg => exact .refl F _
  | op e k ih =>
      refine bind _ _ _ _ (attempt _ _ (himpl e hp.1)) fun r r' hmatch => ?_
      rw [matching_eq r r' hmatch]
      exact ih r (hp.2 r)

/-- A program and the one at its side, both next to another environment. What
    that is after the death of the process is of no account. -/
theorem left {V : Signature} {υ : Type} {G : Env V υ} (p : Prog S α) (q : Prog T β)
    (h : Simulates E F R K Post p q) :
    Simulates (E.sum G) (F.sum G) (Next R) (fun s t => K s.1 t.1) Post p.left q.left := by
  induction p generalizing q with
  | pure a =>
      rcases h with ⟨b, hb, hpost⟩
      exact ⟨b, fun t => (hb t.1).left _ _ _ _ t.2, hpost⟩
  | fail msg => exact fun t => Steps.left _ _ _ _ t.2 (h t.1)
  | op e k ih =>
      rintro s t ⟨hR, hsame⟩
      refine ⟨fun r s' hstep => ?_, fun s' hcrash => ?_⟩
      · rcases (h s.1 t.1 hR).1 r s'.1 hstep.1 with ⟨q1, t1, hsteps, hR1, hrest⟩
        exact ⟨q1.left, (t1, t.2), hsteps.left _ _ _ _ t.2, ⟨hR1, hsame.trans hstep.2.symm⟩,
          ih r q1 hrest⟩
      · rcases (h s.1 t.1 hR).2 s'.1 hcrash.1 with ⟨q1, t1, hsteps, hK⟩
        exact ⟨q1.left, (t1, t.2), hsteps.left _ _ _ _ t.2, hK⟩

/-- A program over operations that are implemented on both sides, and others
    that are not. -/
theorem link_left {U V : Signature} {υ : Type} {G : Env V υ} (A : U.Op → Prop)
    (impl : (e : U.Op) → Prog S (U.Resp e)) (impl' : (e : U.Op) → Prog T (U.Resp e))
    (himpl : ∀ e, A e → Simulates E F R K (fun a b => b = a) (impl e) (impl' e))
    (hK : ∀ s t, R s t → K s t) (p : Prog (U.sum V) α)
    (hp : p.Only fun e => ∀ e', e = Sum.inl e' → A e') :
    Simulates (E.sum G) (F.sum G) (Next R) (fun s t => K s.1 t.1) (fun a b => b = a)
      (p.link (S := U.sum V) (implLeft impl)) (p.link (S := U.sum V) (implLeft impl')) := by
  refine link (U := U.sum V) _ _ _ (fun e he => ?_) p hp
  cases e with
  | inl e => exact left _ _ (himpl e (he e rfl))
  | inr e =>
      refine act (S := S.sum V) (T := T.sum V) (Sum.inr e) (Sum.inr e) _ ?_
      rintro s t ⟨hR, hsame⟩
      refine ⟨fun r s' hstep => ?_, fun s' hcrash => Or.inl ?_⟩
      · rcases hstep with ⟨hstep, hleft⟩
        refine ⟨r, (t.1, s'.2), ⟨?_, rfl⟩, ⟨?_, rfl⟩, ?_⟩
        · rw [hsame]
          exact hstep
        · rw [hleft]
          exact hR
        · cases r with
          | ok a => exact rfl
          | error msg => exact rfl
      · rw [hcrash.2]
        exact hK s.1 t.1 hR

end Simulates

/-- A program at whose side nothing happens. Its operations keep the states
    related, and its result is as a property says. -/
def Silent (E : Env S σ) (R K : σ → τ → Prop) (Q : α → Prop) : Prog S α → Prop
  | .pure a => Q a
  | .fail _ => True
  | .op e k => ∀ s t, R s t →
      (∀ r s', E.step e s r s' → R s' t ∧ Silent E R K Q (k r)) ∧ ∀ s', E.crash e s s' → K s' t

namespace Silent

variable {E : Env S σ} {F : Env T τ} {R K : σ → τ → Prop} {Q : α → Prop} {Q' : γ → Prop}
  {Post : γ → δ → Prop}

theorem bind (p : Prog S α) (f : α → Prog S γ) (hp : Silent E R K Q p)
    (hf : ∀ a, Q a → Silent E R K Q' (f a)) : Silent E R K Q' (p >>= f) := by
  induction p with
  | pure a => exact hf a hp
  | fail msg => exact trivial
  | op e k ih =>
      exact fun s t hR => ⟨fun r s' hstep => ⟨((hp s t hR).1 r s' hstep).1,
        ih r ((hp s t hR).1 r s' hstep).2⟩, (hp s t hR).2⟩

theorem attempt (p : Prog S α) (hp : Silent E R K Q p) :
    Silent E R K (fun r => ∀ a, r = .ok a → Q a) p.attempt := by
  induction p with
  | pure a => exact fun x hx => Except.ok.inj hx ▸ hp
  | fail msg => exact fun x hx => (by cases hx)
  | op e k ih =>
      exact fun s t hR => ⟨fun r s' hstep => ⟨((hp s t hR).1 r s' hstep).1,
        ih r ((hp s t hR).1 r s' hstep).2⟩, (hp s t hR).2⟩

/-- One silent operation. -/
theorem perform (e : S.Op) (Q : S.Resp e → Prop)
    (h : ∀ s t, R s t → (∀ r s', E.step e s r s' → R s' t ∧ ∀ a, r = .ok a → Q a) ∧
      ∀ s', E.crash e s s' → K s' t) : Silent E R K Q (Prog.perform e) := by
  intro s t hR
  refine ⟨fun r s' hstep => ?_, (h s t hR).2⟩
  rcases (h s t hR).1 r s' hstep with ⟨hR', hrest⟩
  refine ⟨hR', ?_⟩
  cases r with
  | ok a => exact hrest a rfl
  | error msg => exact trivial

theorem ensure (b : Bool) (msg : String) :
    Silent E R K (fun _ => b = true) (Prog.ensure b msg) := by
  cases b with
  | true => exact rfl
  | false => exact trivial

theorem ofExcept (x : Except String α) : Silent E R K (fun a => x = .ok a) (Prog.ofExcept x) := by
  cases x with
  | ok a => exact rfl
  | error msg => exact trivial

theorem ofOption (x : Option α) (msg : String) :
    Silent E R K (fun a => x = some a) (Prog.ofOption x msg) := by
  cases x with
  | some a => exact rfl
  | none => exact trivial

/-- The loop rule for a list of silent steps. -/
theorem foldlM (l : List β) (f : α → β → Prog S α) (Q : α → Prop)
    (hf : ∀ a, Q a → ∀ b ∈ l, Silent E R K Q (f a b)) (a : α) (ha : Q a) :
    Silent E R K Q (l.foldlM f a) := by
  induction l generalizing a with
  | nil => exact ha
  | cons b rest ih =>
      rw [List.foldlM_cons]
      exact bind _ _ (hf a ha b List.mem_cons_self) fun a' ha' =>
        ih (fun x hx y hy => hf x hx y (List.mem_cons_of_mem b hy)) a' ha'

/-- A silent program, and then one at the side of which something happens. The
    coarse program fails if the silent one does. -/
theorem simulates_bind (p : Prog S α) (f : α → Prog S γ) (q : Prog T δ) (hp : Silent E R K Q p)
    (hq : MayFail F q) (hf : ∀ a, Q a → Simulates E F R K Post (f a) q) :
    Simulates E F R K Post (p >>= f) q := by
  induction p with
  | pure a => exact hf a hp
  | fail msg => exact hq msg
  | op e k ih =>
      intro s t hR
      refine ⟨fun r s' hstep => ?_, fun s' hcrash => ⟨q, t, .stay q t, (hp s t hR).2 s' hcrash⟩⟩
      rcases (hp s t hR).1 r s' hstep with ⟨hR', hrest⟩
      exact ⟨q, t, .stay q t, hR', ih r hrest⟩

/-- A silent program whose failure is kept. -/
theorem simulates_attempt_bind (p : Prog S α) (f : Except String α → Prog S γ) (q : Prog T δ)
    (hp : Silent E R K Q p)
    (hf : ∀ r, (∀ a, r = .ok a → Q a) → Simulates E F R K Post (f r) q) :
    Simulates E F R K Post (p.attempt >>= f) q := by
  induction p with
  | pure a => exact hf (.ok a) fun x hx => Except.ok.inj hx ▸ hp
  | fail msg => exact hf (.error msg) fun x hx => (by cases hx)
  | op e k ih =>
      intro s t hR
      refine ⟨fun r s' hstep => ?_, fun s' hcrash => ⟨q, t, .stay q t, (hp s t hR).2 s' hcrash⟩⟩
      rcases (hp s t hR).1 r s' hstep with ⟨hR', hrest⟩
      exact ⟨q, t, .stay q t, hR', ih r hrest⟩

/-- A silent program at the side of one that has nothing to do any more. -/
theorem simulates (p : Prog S γ) (q : Prog T δ) (hp : Silent E R K Q' p) (hq : MayFail F q)
    (hend : ∀ a, Q' a → ∃ b, Settles F q (.pure b) ∧ Post a b) :
    Simulates E F R K Post p q := by
  induction p with
  | pure a => exact hend a hp
  | fail msg => exact hq msg
  | op e k ih =>
      intro s t hR
      refine ⟨fun r s' hstep => ?_, fun s' hcrash => ⟨q, t, .stay q t, (hp s t hR).2 s' hcrash⟩⟩
      rcases (hp s t hR).1 r s' hstep with ⟨hR', hrest⟩
      exact ⟨q, t, .stay q t, hR', ih r hrest⟩

end Silent

/-- How a program that is done has ended. -/
def Prog.result : Prog S α → Option (Except String α)
  | .pure a => some (.ok a)
  | .fail msg => some (.error msg)
  | .op _ _ => none

section Pool

variable [DecidableEq ι] {E : Env S σ} {F : Env T τ} {R K : σ → τ → Prop} {Post : α → β → Prop}

/-- An interleaving of fine programs goes along with one of the coarse ones. -/
theorem simulates_interleaved (pool pool' : ι → Prog S α) (coarse : ι → Prog T β) (s s' : σ)
    (t : τ) (hR : R s t) (h : ∀ i, Simulates E F R K Post (pool i) (coarse i))
    (hrun : Interleaved E pool s pool' s') :
    ∃ coarse' t', Interleaved F coarse t coarse' t' ∧ R s' t' ∧
      ∀ i, Simulates E F R K Post (pool' i) (coarse' i) := by
  induction hrun with
  | start => exact ⟨coarse, t, .start, hR, h⟩
  | turn pool1 s1 s2 j e k r _ hj hstep ih =>
      rcases ih with ⟨coarse1, t1, hrun1, hR1, hsim⟩
      have hturn := hsim j
      rw [hj] at hturn
      rcases (hturn s1 t1 hR1).1 r s2 hstep with ⟨q', t', hsteps, hR', hrest⟩
      refine ⟨Function.update coarse1 j q', t',
        hsteps.interleaved coarse coarse1 t t1 t' j q' hrun1, hR', fun i => ?_⟩
      by_cases hi : i = j
      · rw [hi, Function.update_self, Function.update_self]
        exact hrest
      · rw [Function.update_of_ne hi, Function.update_of_ne hi]
        exact hsim i

/-- Of coarse programs at the side of others, those may end whose others have. -/
theorem settle_all (pool : ι → Prog S α) (coarse0 coarse : ι → Prog T α) (t0 t : τ)
    (h : ∀ i, Simulates E F R K (fun a b => b = a) (pool i) (coarse i))
    (hrun : Interleaved F coarse0 t0 coarse t) (among : Finset ι) :
    ∃ coarse', Interleaved F coarse0 t0 coarse' t ∧
      (∀ i, Simulates E F R K (fun a b => b = a) (pool i) (coarse' i)) ∧
      ∀ i ∈ among, ∀ r, (pool i).result = some r → (coarse' i).result = some r := by
  induction among using Finset.induction_on with
  | empty => exact ⟨coarse, hrun, h, fun i hi => absurd hi (Finset.notMem_empty i)⟩
  | insert j rest _ ih =>
      rcases ih with ⟨coarse1, hrun1, hsim, hdone⟩
      -- What the program of `j` becomes, if the one at its side has ended.
      have hend : ∀ q', Settles F (coarse1 j) q' →
          Simulates E F R K (fun a b => b = a) (pool j) q' →
          (∀ r, (pool j).result = some r → q'.result = some r) →
          ∃ coarse', Interleaved F coarse0 t0 coarse' t ∧
            (∀ i, Simulates E F R K (fun a b => b = a) (pool i) (coarse' i)) ∧
            ∀ i ∈ insert j rest, ∀ r, (pool i).result = some r →
              (coarse' i).result = some r := by
        intro q' hsettles hq' hresult
        refine ⟨Function.update coarse1 j q',
          (hsettles t).interleaved coarse0 coarse1 t0 t t j q' hrun1, fun i => ?_,
          fun i hi r hr => ?_⟩
        · by_cases hij : i = j
          · rw [hij, Function.update_self]
            exact hq'
          · rw [Function.update_of_ne hij]
            exact hsim i
        · by_cases hij : i = j
          · rw [hij] at hr ⊢
            rw [Function.update_self]
            exact hresult r hr
          · rw [Function.update_of_ne hij]
            exact hdone i (Finset.mem_of_mem_insert_of_ne hi hij) r hr
      have hj := hsim j
      cases hp : pool j with
      | pure a =>
          rw [hp] at hj
          rcases hj with ⟨b, hb, rfl⟩
          refine hend (.pure b) hb ?_ fun r hr => ?_
          · rw [hp]
            exact ⟨b, .refl F _, rfl⟩
          · rw [hp] at hr
            exact hr
      | fail msg =>
          rw [hp] at hj
          refine hend (.fail msg) hj ?_ fun r hr => ?_
          · rw [hp]
            exact Settles.refl F _
          · rw [hp] at hr
            exact hr
      | op e k =>
          refine hend (coarse1 j) (.refl F _) (hsim j) fun r hr => ?_
          rw [hp] at hr
          cases hr

variable [Fintype ι]

/-- In an interleaving of fine programs each of them has ended as the coarse
    one at its side has in an interleaving of those. -/
theorem simulates_done (pool pool' : ι → Prog S α) (coarse : ι → Prog T α) (s s' : σ) (t : τ)
    (hR : R s t) (h : ∀ i, Simulates E F R K (fun a b => b = a) (pool i) (coarse i))
    (hrun : Interleaved E pool s pool' s') :
    ∃ coarse' t', Interleaved F coarse t coarse' t' ∧ R s' t' ∧
      (∀ i, Simulates E F R K (fun a b => b = a) (pool' i) (coarse' i)) ∧
      ∀ i r, (pool' i).result = some r → (coarse' i).result = some r := by
  rcases simulates_interleaved pool pool' coarse s s' t hR h hrun with
    ⟨coarse1, t', hrun1, hR', hsim⟩
  rcases settle_all pool' coarse coarse1 t t' hsim hrun1 Finset.univ with
    ⟨coarse', hrun', hsim', hdone⟩
  exact ⟨coarse', t', hrun', hR', hsim', fun i => hdone i (Finset.mem_univ i)⟩

/-- If the process dies in the middle of an operation of a fine program, the
    coarse ones stop between two operations. -/
theorem simulates_crash (pool pool' : ι → Prog S α) (coarse : ι → Prog T α) (s s' s'' : σ) (t : τ)
    (hR : R s t) (h : ∀ i, Simulates E F R K (fun a b => b = a) (pool i) (coarse i))
    (hrun : Interleaved E pool s pool' s') (i : ι) (e : S.Op)
    (k : Except String (S.Resp e) → Prog S α) (hi : pool' i = .op e k)
    (hcrash : E.crash e s' s'') :
    ∃ coarse' t', Interleaved F coarse t coarse' t' ∧ K s'' t' ∧
      ∀ j r, (pool' j).result = some r → (coarse' j).result = some r := by
  rcases simulates_done pool pool' coarse s s' t hR h hrun with
    ⟨coarse1, t1, hrun1, hR1, hsim, hdone⟩
  have hdead := hsim i
  rw [hi] at hdead
  rcases (hdead s' t1 hR1).2 s'' hcrash with ⟨q', t', hsteps, hK⟩
  refine ⟨Function.update coarse1 i q', t',
    hsteps.interleaved coarse coarse1 t t1 t' i q' hrun1, hK, fun j r hr => ?_⟩
  have hji : j ≠ i := by
    rintro rfl
    rw [hi] at hr
    cases hr
  rw [Function.update_of_ne hji]
  exact hdone j r hr

end Pool

end Effect
