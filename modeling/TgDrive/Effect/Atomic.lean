import Mathlib.Logic.Basic

/-!
# Sequences of Atomic Effects

A persistent operation as the list of its atomic effects. Performing all of
them is the operation; a process that dies, or a step that fails, leaves the
state after some number of them. `cutOff` is that state, for any number, and
a number past the end stands for an operation whose effects are all there
although it did not answer.

## Main definitions

* `applyAll`: The state after all effects.
* `cutOff`: The state after the first effects.

## Theorems

* `cutOff_zero`: No effect, no change.
* `cutOff_length`: All effects are the whole operation.
* `cutOff_preserves`: What every effect preserves, any cut preserves.
-/

namespace Effect

variable {σ : Type}

/-- The state after a list of effects. -/
def applyAll (effects : List (σ → σ)) (s : σ) : σ := effects.foldl (fun s f => f s) s

/-- The state after the first `k` effects of a list. -/
def cutOff (effects : List (σ → σ)) (k : Nat) (s : σ) : σ := applyAll (effects.take k) s

@[simp] theorem applyAll_nil (s : σ) : applyAll [] s = s := rfl

@[simp] theorem cutOff_zero (effects : List (σ → σ)) (s : σ) : cutOff effects 0 s = s := rfl

@[simp] theorem cutOff_nil (k : Nat) (s : σ) : cutOff [] k s = s := by
  rw [cutOff, List.take_nil, applyAll_nil]

@[simp] theorem cutOff_cons_succ (f : σ → σ) (rest : List (σ → σ)) (k : Nat) (s : σ) :
    cutOff (f :: rest) (k + 1) s = cutOff rest k (f s) := rfl

theorem cutOff_length (effects : List (σ → σ)) (k : Nat) (h : effects.length ≤ k) (s : σ) :
    cutOff effects k s = applyAll effects s := by
  rw [cutOff, List.take_of_length_le h]

/-- What every single effect preserves, every cut of the operation preserves. -/
theorem cutOff_preserves (P : σ → Prop) (effects : List (σ → σ))
    (h : ∀ f ∈ effects, ∀ s, P s → P (f s)) (k : Nat) (s : σ) (hs : P s) :
    P (cutOff effects k s) := by
  induction effects generalizing k s with
  | nil =>
      rw [cutOff_nil]
      exact hs
  | cons f rest ih =>
      cases k with
      | zero => exact hs
      | succ k =>
          rw [cutOff_cons_succ]
          exact ih (fun g hg => h g (List.mem_cons_of_mem f hg)) k (f s)
            (h f List.mem_cons_self s hs)

end Effect
