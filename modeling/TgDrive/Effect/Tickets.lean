import TgDrive.Effect.Interleave
import TgDrive.Effect.Meets
import Mathlib.Data.Fintype.Card

/-!
# Checks Before Acts

A limit on what is stored is often kept by looking before storing. One program
alone cannot exceed it so, but several can: each looks while there is room, and
then each of them stores. What a program has seen is a ticket, good for one
act. As a program holds one ticket at the most, the limit is exceeded by no
more than there are other programs.

`Ticketed` checks along the program tree that no act lacks its ticket. What
the acts and checks mean is said of the environment, by `Counted`.

## Main definitions

* `Prog.Ticketed`: Every act of a program uses up a check that was passed.
* `Counted`: Acts raise a count by one at the most, and a check is passed below
  the limit only.
* `Lives`: Pools one after the other, each ended by a crash or given up.

## Theorems

* `ticketed_bind`, `ticketed_attempt`, `ticketed_of_only`: The rules.
* `counted_interleaved`: Count and tickets of a pool.
* `counted_lives`: The count, over any number of crashes.
-/

namespace Effect

variable {S : Signature} {α β γ σ ι : Type} {acts : S.Op → Bool}
  {passes : (e : S.Op) → Except String (S.Resp e) → Bool}

/-- Every act of a program uses up a check that was passed, the first maybe one
    from before. -/
def Prog.Ticketed (acts : S.Op → Bool) (passes : (e : S.Op) → Except String (S.Resp e) → Bool) :
    Bool → Prog S α → Prop
  | _, .pure _ => True
  | _, .fail _ => True
  | held, .op e k => (acts e = true → held = true) ∧
      ∀ r, (k r).Ticketed acts passes (if acts e then false else held || passes e r)

/-- A ticket does no harm. -/
theorem ticketed_held (p : Prog S α) (held : Bool) (h : p.Ticketed acts passes false) :
    p.Ticketed acts passes held := by
  induction p generalizing held with
  | pure a => exact trivial
  | fail msg => exact trivial
  | op e k ih =>
      refine ⟨fun he => absurd (h.1 he) Bool.false_ne_true, fun r => ?_⟩
      have hr := h.2 r
      rcases he : acts e with _ | _
      · rw [he, if_neg Bool.false_ne_true, Bool.false_or] at hr
        rw [if_neg Bool.false_ne_true]
        cases held with
        | false => exact hr
        | true => cases hp : passes e r with
          | false =>
              rw [hp] at hr
              exact ih r true hr
          | true =>
              rw [hp] at hr
              exact hr
      · exact absurd (h.1 he) Bool.false_ne_true

theorem ticketed_bind (p : Prog S α) (f : α → Prog S β) (held : Bool)
    (hp : p.Ticketed acts passes held) (hf : ∀ a, (f a).Ticketed acts passes false) :
    (p >>= f).Ticketed acts passes held := by
  induction p generalizing held with
  | pure a => exact ticketed_held (f a) held (hf a)
  | fail msg => exact trivial
  | op e k ih => exact ⟨hp.1, fun r => ih r _ (hp.2 r)⟩

theorem ticketed_attempt (p : Prog S α) (held : Bool) (hp : p.Ticketed acts passes held) :
    p.attempt.Ticketed acts passes held := by
  induction p generalizing held with
  | pure a => exact trivial
  | fail msg => exact trivial
  | op e k ih => exact ⟨hp.1, fun r => ih r _ (hp.2 r)⟩

/-- A program that never acts needs no ticket. -/
theorem ticketed_of_only (p : Prog S α) (held : Bool) (hp : p.Only fun e => acts e = false) :
    p.Ticketed acts passes held := by
  induction p generalizing held with
  | pure a => exact trivial
  | fail msg => exact trivial
  | op e k ih =>
      refine ⟨fun he => ?_, fun r => ih r _ (hp.2 r)⟩
      rw [hp.1] at he
      cases he

/-- An operation that succeeds, and what follows it. -/
theorem ticketed_perform_bind (e : S.Op) (f : S.Resp e → Prog S α) (held : Bool)
    (he : acts e = true → held = true)
    (hf : ∀ a, (f a).Ticketed acts passes (if acts e then false else held || passes e (.ok a))) :
    (Prog.perform e >>= f).Ticketed acts passes held := by
  refine ⟨he, fun r => ?_⟩
  cases r with
  | ok a => exact hf a
  | error msg => exact trivial

theorem ticketed_ofExcept_bind (x : Except String β) (f : β → Prog S α) (held : Bool)
    (h : ∀ b, x = .ok b → (f b).Ticketed acts passes held) :
    (Prog.ofExcept x >>= f).Ticketed acts passes held := by
  cases x with
  | ok b => exact h b rfl
  | error msg => exact trivial

theorem ticketed_ensure_bind (b : Bool) (msg : String) (f : Unit → Prog S α) (held : Bool)
    (h : b = true → (f ()).Ticketed acts passes held) :
    (Prog.ensure b msg >>= f).Ticketed acts passes held := by
  cases b with
  | true => exact h rfl
  | false => exact trivial

theorem ticketed_foldlM (l : List γ) (f : β → γ → Prog S β)
    (hf : ∀ b x, (f b x).Ticketed acts passes false) (b : β) :
    (l.foldlM f b).Ticketed acts passes false := by
  induction l generalizing b with
  | nil => exact trivial
  | cons x rest ih =>
      rw [List.foldlM_cons]
      exact ticketed_bind _ _ _ (hf b x) ih

/-- What acts and checks do to a count: an act raises it by one at the most,
    nothing else raises it, and a check is passed below the limit only. The
    same goes for operations the process dies in. -/
structure Counted (E : Env S σ) (acts : S.Op → Bool)
    (passes : (e : S.Op) → Except String (S.Resp e) → Bool) (count : σ → Nat) (limit : Nat) :
    Prop where
  passed : ∀ e s r s', E.step e s r s' → passes e r = true → count s < limit
  act : ∀ e s r s', E.step e s r s' → acts e = true → count s' ≤ count s + 1
  other : ∀ e s r s', E.step e s r s' → acts e = false → count s' ≤ count s
  actCut : ∀ e s s', E.crash e s s' → acts e = true → count s' ≤ count s + 1
  otherCut : ∀ e s s', E.crash e s s' → acts e = false → count s' ≤ count s

section Pool

variable [DecidableEq ι] {E : Env S σ} {count : σ → Nat} {limit : Nat}

/-- The programs of a pool that hold a ticket, next to the count. -/
structure Holding (acts : S.Op → Bool) (passes : (e : S.Op) → Except String (S.Resp e) → Bool)
    (pool : ι → Prog S α) (held : Finset ι) (count bound : Nat) : Prop where
  ticketed : ∀ i, (pool i).Ticketed acts passes (decide (i ∈ held))
  within : count + held.card ≤ bound

/-- One operation of one program. -/
theorem Holding.turn [Fintype ι] (hE : Counted E acts passes count limit) (pool : ι → Prog S α)
    (held : Finset ι) (s s' : σ) (bound : Nat) (hbound : limit + Fintype.card ι ≤ bound + 1)
    (h : Holding acts passes pool held (count s) bound) (i : ι) (e : S.Op)
    (k : Except String (S.Resp e) → Prog S α) (r : Except String (S.Resp e))
    (hi : pool i = .op e k) (hstep : E.step e s r s') :
    ∃ held', Holding acts passes (Function.update pool i (k r)) held' (count s') bound := by
  have hturn := h.ticketed i
  rw [hi] at hturn
  have hrest := hturn.2 r
  have hwithin := h.within
  -- Whoever holds a ticket, the others hold what they held.
  have hothers : ∀ held' : Finset ι, (∀ j, j ≠ i → (j ∈ held' ↔ j ∈ held)) →
      (k r).Ticketed acts passes (decide (i ∈ held')) →
      ∀ j, (Function.update pool i (k r) j).Ticketed acts passes (decide (j ∈ held')) := by
    intro held' hsame hmine j
    by_cases hj : j = i
    · rw [hj, Function.update_self]
      exact hmine
    · rw [Function.update_of_ne hj]
      simp only [hsame j hj]
      exact h.ticketed j
  rcases he : acts e with _ | _
  · have hcount := hE.other e s r s' hstep he
    rw [he, if_neg Bool.false_ne_true] at hrest
    rcases hp : passes e r with _ | _
    · rw [hp, Bool.or_false] at hrest
      exact ⟨held, hothers held (fun _ _ => Iff.rfl) hrest, by omega⟩
    · rw [hp, Bool.or_true] at hrest
      have hlow := hE.passed e s r s' hstep hp
      have hcard := Finset.card_le_univ (insert i held)
      refine ⟨insert i held, hothers _ (fun j hj => ?_) ?_, by omega⟩
      · simp only [Finset.mem_insert, hj, false_or]
      · simp only [Finset.mem_insert_self, decide_true]
        exact hrest
  · have hcount := hE.act e s r s' hstep he
    have hmem : i ∈ held := of_decide_eq_true (hturn.1 he)
    rw [he, if_pos rfl] at hrest
    have hcard := Finset.card_erase_add_one hmem
    refine ⟨held.erase i, hothers _ (fun j hj => ?_) ?_, by omega⟩
    · simp only [Finset.mem_erase, ne_eq, hj, not_false_eq_true, true_and]
    · simp only [Finset.mem_erase, ne_eq, not_true_eq_false, false_and, decide_false]
      exact hrest

/-- Count and tickets of a pool stay below the limit and one ticket for each
    program, or below what they were. -/
theorem counted_interleaved [Fintype ι] (hE : Counted E acts passes count limit)
    (pool pool' : ι → Prog S α) (s s' : σ) (bound : Nat)
    (hbound : limit + Fintype.card ι ≤ bound + 1) (hstart : count s ≤ bound)
    (h : ∀ i, (pool i).Ticketed acts passes false) (hrun : Interleaved E pool s pool' s') :
    ∃ held, Holding acts passes pool' held (count s') bound := by
  induction hrun with
  | start =>
      refine ⟨∅, fun i => ?_, ?_⟩
      · simp only [Finset.notMem_empty, decide_false]
        exact h i
      · rw [Finset.card_empty, Nat.add_zero]
        exact hstart
  | turn pool1 s1 s2 i e k r _ hi hstep ih =>
      rcases ih with ⟨held, hheld⟩
      exact hheld.turn hE pool1 held s1 s2 bound hbound i e k r hi hstep

/-- Pools of programs one after the other. A pool is given up, or the process
    dies in the middle of an operation and starts again. -/
inductive Lives (E : Env S σ) (reboot : σ → σ → Prop) (Allowed : Prog S α → Prop) (ι : Type)
    [DecidableEq ι] (s0 : σ) : σ → Prop
  | start : Lives E reboot Allowed ι s0 s0
  | pool (s s' : σ) (pool pool' : ι → Prog S α) (h : Lives E reboot Allowed ι s0 s)
      (hpool : ∀ i, Allowed (pool i)) (hrun : Interleaved E pool s pool' s') :
      Lives E reboot Allowed ι s0 s'
  | crash (s s' s1 s2 : σ) (pool pool' : ι → Prog S α) (i : ι) (e : S.Op)
      (k : Except String (S.Resp e) → Prog S α) (h : Lives E reboot Allowed ι s0 s)
      (hpool : ∀ i, Allowed (pool i)) (hrun : Interleaved E pool s pool' s')
      (hi : pool' i = .op e k) (hcrash : E.crash e s' s1) (hboot : reboot s1 s2) :
      Lives E reboot Allowed ι s0 s2

/-- However often the process dies, the count stays below the limit and one act
    for each program, or below what it was. -/
theorem counted_lives [Fintype ι] (hE : Counted E acts passes count limit)
    (reboot : σ → σ → Prop) (hboot : ∀ s s', reboot s s' → count s' ≤ count s)
    (Allowed : Prog S α → Prop) (hAllowed : ∀ p, Allowed p → p.Ticketed acts passes false)
    (s s' : σ) (bound : Nat) (hbound : limit + Fintype.card ι ≤ bound + 1)
    (hstart : count s ≤ bound) (h : Lives E reboot Allowed ι s s') : count s' ≤ bound := by
  induction h with
  | start => exact hstart
  | pool s1 s2 pool pool' _ hpool hrun ih =>
      rcases counted_interleaved hE pool pool' s1 s2 bound hbound ih
        (fun i => hAllowed _ (hpool i)) hrun with ⟨held, hheld⟩
      have hwithin := hheld.within
      omega
  | crash s1 s2 s3 s4 pool pool' i e k _ hpool hrun hi hcrash hreboot ih =>
      rcases counted_interleaved hE pool pool' s1 s2 bound hbound ih
        (fun i => hAllowed _ (hpool i)) hrun with ⟨held, hheld⟩
      have hwithin := hheld.within
      have hlater := hboot s3 s4 hreboot
      rcases he : acts e with _ | _
      · have hcut := hE.otherCut e s2 s3 hcrash he
        omega
      · -- The process died with a ticket in hand.
        have hturn := hheld.ticketed i
        rw [hi] at hturn
        have hcard := Finset.card_pos.mpr ⟨i, of_decide_eq_true (hturn.1 he)⟩
        have hcut := hE.actCut e s2 s3 hcrash he
        omega

end Pool

end Effect
