import TgDrive.Effect.Exec
import Mathlib.Logic.Function.Basic
import Mathlib.Logic.Relation

/-!
# Interleaved Programs

Several programs on one state, an operation of one of them at a time. A pool
is what is left of each program, and a step of it an operation of any program
that has one.

The rule is that of rely and guarantee. A program is proved against a relation
that covers whatever the others may do between any two of its operations, and
each of its operations has to be one of those it guarantees. When what every
program guarantees is covered by what every other relies on, each of them
meets its postcondition in any interleaving. The postcondition is one of
programs that succeed, and may be relied on as long as the others go on.

`runSchedule` runs a pool by a list of turns, which is an interleaving that
can be computed.

## Main definitions

* `Interleaved`: The interleavings of a pool.
* `Guards`: A program meets a postcondition among others, and a guarantee.
* `runSchedule`: The interleaving of a list of turns.
* `returned`: A program that is done.

## Theorems

* `Guards.stable`, `Guards.bind`, `Guards.perform_bind`: The rules.
* `guards_interleaved`: Programs that guard each other may be interleaved.
* `guaranteed_interleaved`: What an interleaving does to the state.
* `interleaved_runSchedule`: A list of turns is an interleaving.
-/

namespace Effect

variable {S : Signature} {ι α β σ : Type} [DecidableEq ι]

/-- The interleavings of a pool: one operation of one program after the
    other. -/
inductive Interleaved (E : Env S σ) (pool : ι → Prog S α) (s : σ) : (ι → Prog S α) → σ → Prop
  | start : Interleaved E pool s pool s
  | turn (pool' : ι → Prog S α) (s' s'' : σ) (i : ι) (e : S.Op)
      (k : Except String (S.Resp e) → Prog S α) (r : Except String (S.Resp e))
      (h : Interleaved E pool s pool' s') (hi : pool' i = .op e k) (hstep : E.step e s' r s'') :
      Interleaved E pool s (Function.update pool' i (k r)) s''

/-- A program meets a postcondition if it succeeds, and keeps to a guarantee
    with each of its operations, while others do what is relied on. -/
def Guards (E : Env S σ) (rely guar : σ → σ → Prop) (Q : α → σ → Prop) : Prog S α → σ → Prop
  | .pure a, s => ∀ s', rely s s' → Q a s'
  | .fail _, _ => True
  | .op e k, s => ∀ s', rely s s' → ∀ r s'', E.step e s' r s'' →
      guar s' s'' ∧ Guards E rely guar Q (k r) s''

namespace Guards

variable {E : Env S σ} {rely guar : σ → σ → Prop} {Q : α → σ → Prop}

omit [DecidableEq ι] in
/-- What others do makes no difference. -/
theorem stable (htrans : ∀ a b c, rely a b → rely b c → rely a c) (p : Prog S α) (s s' : σ)
    (hs : rely s s') (h : Guards E rely guar Q p s) : Guards E rely guar Q p s' := by
  cases p with
  | pure a => exact fun s'' h' => h s'' (htrans s s' s'' hs h')
  | fail msg => exact trivial
  | op e k => exact fun s'' h' => h s'' (htrans s s' s'' hs h')

omit [DecidableEq ι] in
/-- A program that is done meets a postcondition that others keep. -/
theorem pure (a : α) (s : σ) (h : ∀ s', rely s s' → Q a s') :
    Guards E rely guar Q (Pure.pure a) s := h

omit [DecidableEq ι] in
/-- One program after the other. -/
theorem bind (hrefl : ∀ s, rely s s) (p : Prog S β) (f : β → Prog S α) (R : β → σ → Prop) (s : σ)
    (hp : Guards E rely guar R p s) (hf : ∀ b s', R b s' → Guards E rely guar Q (f b) s') :
    Guards E rely guar Q (p >>= f) s := by
  induction p generalizing s with
  | pure b => exact hf b s (hp s (hrefl s))
  | fail msg => exact trivial
  | op e k ih =>
      intro s' hs r s'' hstep
      rcases hp s' hs r s'' hstep with ⟨hguar, hrest⟩
      exact ⟨hguar, ih r s'' hrest⟩

omit [DecidableEq ι] in
/-- One operation, followed by the rest of a program. -/
theorem perform_bind (e : S.Op) (f : S.Resp e → Prog S α) (s : σ)
    (h : ∀ s', rely s s' → ∀ r s'', E.step e s' r s'' → guar s' s'' ∧
      ∀ a, r = .ok a → Guards E rely guar Q (f a) s'') :
    Guards E rely guar Q (Prog.perform e >>= f) s := by
  intro s' hs r s'' hstep
  rcases h s' hs r s'' hstep with ⟨hguar, hrest⟩
  refine ⟨hguar, ?_⟩
  cases r with
  | ok a => exact hrest a rfl
  | error msg => exact trivial

omit [DecidableEq ι] in
/-- One operation, the last of a program. -/
theorem perform (e : S.Op) (Q : S.Resp e → σ → Prop) (s : σ)
    (h : ∀ s', rely s s' → ∀ r s'', E.step e s' r s'' → guar s' s'' ∧
      ∀ a, r = .ok a → ∀ s3, rely s'' s3 → Q a s3) :
    Guards E rely guar Q (Prog.perform e) s := by
  intro s' hs r s'' hstep
  rcases h s' hs r s'' hstep with ⟨hguar, hrest⟩
  refine ⟨hguar, ?_⟩
  cases r with
  | ok a => exact hrest a rfl
  | error msg => exact trivial

omit [DecidableEq ι] in
theorem ensure_bind (b : Bool) (msg : String) (f : Unit → Prog S α) (s : σ)
    (h : b = true → Guards E rely guar Q (f ()) s) :
    Guards E rely guar Q (Prog.ensure b msg >>= f) s := by
  cases b with
  | true => exact h rfl
  | false => exact trivial

omit [DecidableEq ι] in
theorem ofExcept_bind (x : Except String β) (f : β → Prog S α) (s : σ)
    (h : ∀ b, x = .ok b → Guards E rely guar Q (f b) s) :
    Guards E rely guar Q (Prog.ofExcept x >>= f) s := by
  cases x with
  | ok b => exact h b rfl
  | error msg => exact trivial

omit [DecidableEq ι] in
theorem ofOption_bind (x : Option β) (msg : String) (f : β → Prog S α) (s : σ)
    (h : ∀ b, x = some b → Guards E rely guar Q (f b) s) :
    Guards E rely guar Q (Prog.ofOption x msg >>= f) s := by
  cases x with
  | some b => exact h b rfl
  | none => exact trivial

end Guards

/-- Programs each of which guarantees what every other one relies on meet their
    postconditions in any interleaving. -/
theorem guards_interleaved (E : Env S σ) (rely guar : ι → σ → σ → Prop) (Q : ι → α → σ → Prop)
    (htrans : ∀ i a b c, rely i a b → rely i b c → rely i a c)
    (hothers : ∀ i j, i ≠ j → ∀ s s', guar j s s' → rely i s s') (hrefl : ∀ i s, rely i s s)
    (pool pool' : ι → Prog S α) (s s' : σ)
    (h : ∀ i, Guards E (rely i) (guar i) (Q i) (pool i) s)
    (hrun : Interleaved E pool s pool' s') (i : ι) :
    Guards E (rely i) (guar i) (Q i) (pool' i) s' := by
  induction hrun generalizing i with
  | start => exact h i
  | turn pool1 s1 s2 j e k r _ hj hstep ih =>
      -- The program whose turn it is has taken a step, and a guaranteed one.
      have hturn := ih j
      rw [hj] at hturn
      rcases hturn s1 (hrefl j s1) r s2 hstep with ⟨hguar, hrest⟩
      by_cases hi : i = j
      · rw [hi, Function.update_self]
        exact hrest
      · rw [Function.update_of_ne hi]
        exact (ih i).stable (htrans i) _ s1 s2 (hothers i j hi s1 s2 hguar)

/-- What all guarantees amount to, any interleaving amounts to. -/
theorem guaranteed_interleaved (E : Env S σ) (rely guar : ι → σ → σ → Prop)
    (Q : ι → α → σ → Prop) (htrans : ∀ i a b c, rely i a b → rely i b c → rely i a c)
    (hothers : ∀ i j, i ≠ j → ∀ s s', guar j s s' → rely i s s') (hrefl : ∀ i s, rely i s s)
    (G : σ → σ → Prop) (hG : ∀ i s s', guar i s s' → G s s') (hstart : ∀ s, G s s)
    (hG' : ∀ a b c, G a b → G b c → G a c) (pool pool' : ι → Prog S α) (s s' : σ)
    (h : ∀ i, Guards E (rely i) (guar i) (Q i) (pool i) s)
    (hrun : Interleaved E pool s pool' s') : G s s' := by
  induction hrun with
  | start => exact hstart s
  | turn pool1 s1 s2 j e k r hrun hj hstep ih =>
      have hturn := guards_interleaved E rely guar Q htrans hothers hrefl pool pool1 s s1 h hrun j
      rw [hj] at hturn
      exact hG' _ _ _ ih (hG j s1 s2 (hturn s1 (hrefl j s1) r s2 hstep).1)

/-- The interleaving of a list of turns. Turns of programs that are done are
    passed. -/
def runSchedule (run : (e : S.Op) → σ → Except String (S.Resp e) × σ) :
    List ι → (ι → Prog S α) → σ → (ι → Prog S α) × σ
  | [], pool, s => (pool, s)
  | i :: rest, pool, s => match pool i with
    | .op e k => runSchedule run rest (Function.update pool i (k (run e s).1)) (run e s).2
    | _ => runSchedule run rest pool s

/-- Whether a program without a result is done. -/
def returned : Prog S Unit → Bool
  | .pure _ => true
  | _ => false

omit [DecidableEq ι] in
theorem eq_pure_of_returned (p : Prog S Unit) (h : returned p = true) : p = .pure () := by
  cases p with
  | pure _ => rfl
  | fail msg => cases h
  | op e k => cases h

theorem Interleaved.trans {E : Env S σ} (pool pool' pool'' : ι → Prog S α) (s s' s'' : σ)
    (h : Interleaved E pool s pool' s') (h' : Interleaved E pool' s' pool'' s'') :
    Interleaved E pool s pool'' s'' := by
  induction h' with
  | start => exact h
  | turn pool1 s1 s2 i e k r _ hi hstep ih => exact .turn pool1 s1 s2 i e k r ih hi hstep

theorem interleaved_runSchedule (E : Env S σ)
    (run : (e : S.Op) → σ → Except String (S.Resp e) × σ)
    (hrun : ∀ e s, E.step e s (run e s).1 (run e s).2) (turns : List ι)
    (pool : ι → Prog S α) (s : σ) :
    Interleaved E pool s (runSchedule run turns pool s).1 (runSchedule run turns pool s).2 := by
  induction turns generalizing pool s with
  | nil => exact .start
  | cons i rest ih =>
      rcases hi : pool i with a | msg | ⟨e, k⟩
      · simp only [runSchedule, hi]
        exact ih pool s
      · simp only [runSchedule, hi]
        exact ih pool s
      · simp only [runSchedule, hi]
        exact Interleaved.trans _ _ _ _ _ _ (.turn pool s _ i e k _ .start hi (hrun e s)) (ih _ _)

end Effect
