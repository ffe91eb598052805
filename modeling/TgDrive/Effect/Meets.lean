import TgDrive.Effect.Only

/-!
# What a Program Asks For and Returns

A condition on programs that needs no environment. As long as every answer is
one that is allowed, each operation asked for meets a condition, and so does
the result, if there is one. It is checked along the program tree, so what it
says holds under every environment whose answers are allowed.

## Main definitions

* `Prog.Meets`: The condition.

## Theorems

* `meets_bind`, `meets_perform`, `meets_attempt`, `meets_ensure`: Its rules.
* `meets_mono`, `meets_weaken`: Weaker conditions.
* `wp_of_meets`: What a program keeps while its answers are allowed.
* `meets_of_only`, `only_of_meets`: A program that asks for a class of
  operations only.
* `bind_assoc`, `bind_pure_self`: Programs in a row.
* `bind_congr_meets`: Two continuations that agree on what is returned.
-/

namespace Effect

variable {S : Signature} {α β γ : Type}
  {A : (e : S.Op) → Except String (S.Resp e) → Prop} {Pre : S.Op → Prop} {P Q : α → Prop}

/-- Under allowed answers, every operation meets a condition and so does what
    is returned. -/
def Prog.Meets (A : (e : S.Op) → Except String (S.Resp e) → Prop) (Pre : S.Op → Prop)
    (P : α → Prop) : Prog S α → Prop
  | .pure a => P a
  | .fail _ => True
  | .op e k => Pre e ∧ ∀ r, A e r → (k r).Meets A Pre P

theorem meets_mono (p : Prog S α) (hp : p.Meets A Pre P) (h : ∀ a, P a → Q a) :
    p.Meets A Pre Q := by
  induction p with
  | pure a => exact h a hp
  | fail msg => exact trivial
  | op e k ih => exact ⟨hp.1, fun r hr => ih r (hp.2 r hr)⟩

/-- What may be asked for may be weakened. -/
theorem meets_weaken {Pre' : S.Op → Prop} (p : Prog S α) (hp : p.Meets A Pre P)
    (h : ∀ e, Pre e → Pre' e) : p.Meets A Pre' P := by
  induction p with
  | pure a => exact hp
  | fail msg => exact trivial
  | op e k ih => exact ⟨h e hp.1, fun r hr => ih r (hp.2 r hr)⟩

theorem meets_bind {R : β → Prop} (p : Prog S β) (f : β → Prog S α) (hp : p.Meets A Pre R)
    (hf : ∀ b, R b → (f b).Meets A Pre P) : (p >>= f).Meets A Pre P := by
  induction p with
  | pure b => exact hf b hp
  | fail msg => exact trivial
  | op e k ih => exact ⟨hp.1, fun r hr => ih r (hp.2 r hr)⟩

theorem meets_perform (e : S.Op) {P : S.Resp e → Prop} (he : Pre e)
    (h : ∀ a, A e (.ok a) → P a) : (Prog.perform e).Meets A Pre P := by
  refine ⟨he, fun r hr => ?_⟩
  cases r with
  | ok a => exact h a hr
  | error msg => exact trivial

/-- A program that begins with an operation: the operation is one that may be
    asked for, and what follows an answer meets the rest. -/
theorem meets_perform_bind (e : S.Op) (f : S.Resp e → Prog S α)
    (h : (Prog.perform e >>= f).Meets A Pre P) :
    Pre e ∧ ∀ a, A e (.ok a) → (f a).Meets A Pre P :=
  ⟨h.1, fun a ha => h.2 (.ok a) ha⟩

theorem meets_attempt (p : Prog S α) (hp : p.Meets A Pre P) :
    p.attempt.Meets A Pre (fun r => ∀ a, r = .ok a → P a) := by
  induction p with
  | pure a =>
      intro b hb
      rw [← Except.ok.inj hb]
      exact hp
  | fail msg =>
      intro b hb
      cases hb
  | op e k ih => exact ⟨hp.1, fun r hr => ih r (hp.2 r hr)⟩

theorem meets_ensure (b : Bool) (msg : String) :
    (Prog.ensure b msg : Prog S Unit).Meets A Pre (fun _ => b = true) := by
  cases b with
  | true => exact rfl
  | false => exact trivial

/-- A program that begins with a check that is passed. -/
theorem meets_ensure_bind (b : Bool) (msg : String) (f : Unit → Prog S α) (hb : b = true)
    (h : (Prog.ensure b msg >>= f).Meets A Pre P) : (f ()).Meets A Pre P := by
  rw [hb] at h
  exact h

theorem meets_ofOption (x : Option α) (msg : String) :
    (Prog.ofOption x msg : Prog S α).Meets A Pre (fun a => x = some a) := by
  cases x with
  | some a => exact rfl
  | none => exact trivial

/-- A program that asks for a class of operations only. -/
theorem meets_of_only (p : Prog S α) (hp : p.Only Pre) : p.Meets A Pre (fun _ => True) := by
  induction p with
  | pure a => exact trivial
  | fail msg => exact trivial
  | op e k ih => exact ⟨hp.1, fun r _ => ih r (hp.2 r)⟩

/-- What all operations keep while their answers are allowed, the program
    keeps, and its result meets the condition. -/
theorem wp_of_meets {σ : Type} (E : Env S σ) (I C : σ → Prop)
    (hstep : ∀ e, Pre e → ∀ s r s', E.step e s r s' → I s → A e r ∧ I s')
    (hcrash : ∀ e, Pre e → ∀ s s', E.crash e s s' → I s → C s') (p : Prog S α)
    (hp : p.Meets A Pre P) (s : σ) (hs : I s) :
    wp E p (fun r s' => I s' ∧ ∀ a, r = .ok a → P a) C s := by
  induction p generalizing s with
  | pure a =>
      refine ⟨hs, fun b hb => ?_⟩
      rw [← Except.ok.inj hb]
      exact hp
  | fail msg =>
      refine ⟨hs, fun b hb => ?_⟩
      cases hb
  | op e k ih =>
      refine ⟨fun r s' h => ?_, fun s' h => hcrash e hp.1 s s' h hs⟩
      obtain ⟨hr, hs'⟩ := hstep e hp.1 s r s' h hs
      exact ih r (hp.2 r hr) s' hs'

theorem only_of_meets (p : Prog S α) (hp : p.Meets (fun _ _ => True) Pre P) : p.Only Pre := by
  induction p with
  | pure a => exact trivial
  | fail msg => exact trivial
  | op e k ih => exact ⟨hp.1, fun r => ih r (hp.2 r trivial)⟩

theorem bind_pure_self (p : Prog S α) : (p >>= fun a => pure a) = p := by
  induction p with
  | pure a => rfl
  | fail msg => rfl
  | op e k ih =>
      rw [Prog.op_bind]
      congr 1
      funext r
      exact ih r

theorem bind_assoc (p : Prog S γ) (f : γ → Prog S β) (g : β → Prog S α) :
    p >>= f >>= g = p >>= fun c => f c >>= g := by
  induction p with
  | pure c => rfl
  | fail msg => rfl
  | op e k ih =>
      rw [Prog.op_bind, Prog.op_bind, Prog.op_bind]
      congr 1
      funext r
      exact ih r

/-- Two continuations that agree on all that a program can return. -/
theorem bind_congr_meets (p : Prog S β) (f g : β → Prog S α) {R : β → Prop}
    (hp : p.Meets (fun _ _ => True) (fun _ => True) R) (h : ∀ b, R b → f b = g b) :
    p >>= f = p >>= g := by
  induction p with
  | pure b => exact h b hp
  | fail msg => rfl
  | op e k ih =>
      rw [Prog.op_bind, Prog.op_bind]
      congr 1
      funext r
      exact ih r (hp.2 r trivial)

end Effect
