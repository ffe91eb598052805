import TgDrive.Effect.Exec

/-!
# What a Program Asks For

Some facts about a program need no more than a list of the operations it may
ask for: whatever all of these keep, the program keeps, whatever they answer,
however it ends. `Only` is that list, as a class of operations, and
`wp_of_only` the rule. It says nothing about the result, which is what `wp` is
for.

## Main definitions

* `Prog.Only`: A program asks for operations of a class only.

## Theorems

* `only_bind`, `only_attempt`, `only_foldlM`: Programs put together.
* `wp_of_only`: What all operations keep, the program keeps.
-/

namespace Effect

variable {S : Signature} {α β γ σ : Type} {K : S.Op → Prop}

/-- A program asks for operations of a class only, whatever they answer. -/
def Prog.Only (K : S.Op → Prop) : Prog S α → Prop
  | .pure _ => True
  | .fail _ => True
  | .op e k => K e ∧ ∀ r, (k r).Only K

/-- Any program asks for operations of a class that has all of them. -/
theorem only_all (hK : ∀ e, K e) (p : Prog S α) : p.Only K := by
  induction p with
  | pure a => exact trivial
  | fail msg => exact trivial
  | op e k ih => exact ⟨hK e, ih⟩

theorem only_bind (p : Prog S α) (f : α → Prog S β) (hp : p.Only K) (hf : ∀ a, (f a).Only K) :
    (p >>= f).Only K := by
  induction p with
  | pure a => exact hf a
  | fail msg => exact trivial
  | op e k ih => exact ⟨hp.1, fun r => ih r (hp.2 r)⟩

theorem only_attempt (p : Prog S α) (hp : p.Only K) : p.attempt.Only K := by
  induction p with
  | pure a => exact trivial
  | fail msg => exact trivial
  | op e k ih => exact ⟨hp.1, fun r => ih r (hp.2 r)⟩

theorem only_perform (e : S.Op) (he : K e) : (Prog.perform e).Only K := by
  refine ⟨he, fun r => ?_⟩
  cases r with
  | ok a => exact trivial
  | error msg => exact trivial

theorem only_ensure (b : Bool) (msg : String) : (Prog.ensure b msg : Prog S Unit).Only K := by
  cases b with
  | true => exact trivial
  | false => exact trivial

theorem only_ofExcept (x : Except String α) : (Prog.ofExcept x : Prog S α).Only K := by
  cases x with
  | ok a => exact trivial
  | error msg => exact trivial

theorem only_ofOption (x : Option α) (msg : String) :
    (Prog.ofOption x msg : Prog S α).Only K := by
  cases x with
  | some a => exact trivial
  | none => exact trivial

theorem only_foldlM_mem (l : List γ) (f : β → γ → Prog S β) (hf : ∀ b, ∀ x ∈ l, (f b x).Only K)
    (b : β) : (l.foldlM f b).Only K := by
  induction l generalizing b with
  | nil => exact trivial
  | cons x rest ih =>
      rw [List.foldlM_cons]
      exact only_bind _ _ (hf b x List.mem_cons_self)
        (ih fun b y hy => hf b y (List.mem_cons_of_mem x hy))

theorem only_foldlM (l : List γ) (f : β → γ → Prog S β) (hf : ∀ b x, (f b x).Only K) (b : β) :
    (l.foldlM f b).Only K := only_foldlM_mem l f (fun b x _ => hf b x) b

/-- What all operations of a class keep, whatever they answer and wherever they
    stop, a program keeps that asks for no others. -/
theorem wp_of_only (E : Env S σ) (I : σ → Prop)
    (hstep : ∀ e, K e → ∀ s r s', E.step e s r s' → I s → I s')
    (hcrash : ∀ e, K e → ∀ s s', E.crash e s s' → I s → I s') (p : Prog S α) (hp : p.Only K)
    (s : σ) (hs : I s) : wp E p (fun _ s' => I s') I s := by
  induction p generalizing s with
  | pure a => exact hs
  | fail msg => exact hs
  | op e k ih =>
      exact ⟨fun r s' h => ih r (hp.2 r) s' (hstep e hp.1 s r s' h hs),
        fun s' h => hcrash e hp.1 s s' h hs⟩

end Effect
