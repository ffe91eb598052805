import TgDrive.Effect.Only
import Mathlib.Logic.Function.Basic
import Mathlib.Logic.Relation

/-!
# Programs That Take Locks

Tasks that run programs side by side and share locks. Each operation of a
program is made of actions: it acquires a lock, which waits while another task
owns it, releases one, or does something that comes back by itself. What the
operation answers is left open, so that a task may go wherever its data could
take it.

Where every lock that is waited for has a greater rank than those the waiting
task owns, there is no deadlock. A task that waits does so for a lock whose
owner waits for none or for one of greater rank still; going from owner to
owner the rank grows, and it is bounded.

## Main definitions

* `LockAct`, `Locking`: What the operations of a program do with locks.
* `Task`, `Tasks`, `Tasks.Step`: Tasks side by side.
* `held`: The locks owned after a row of actions that keep to the ranks.
* `Prog.Holds`: A program that keeps to the ranks.

## Theorems

* `holds_bind`, `holds_attempt_bind`, `holds_perform`, `holds_of_only`: Programs that keep to them.
* `Tasks.Sound.step`: Every step keeps what each task owns.
* `Tasks.Sound.progress`: Some task can go on.
* `no_deadlock`: From any start, in any state reached.
-/

namespace Effect

/-- One action of an operation. -/
inductive LockAct (L : Type) : Type
  | acquire (l : L)
  | release (l : L)
  | work

/-- The actions of each operation, and the answers it can get. There is always
    one: nothing but a lock is waited for without end. -/
structure Locking (S : Signature) (L : Type) where
  script : S.Op → List (LockAct L)
  answers : (e : S.Op) → Except String (S.Resp e) → Prop
  answered : ∀ e, ∃ r, answers e r

variable {S : Signature} {L α β γ ι : Type}

/-- A task: an operation with the actions that are left of it, or none. -/
inductive Task (S : Signature) (L α : Type) : Type
  | running (pending : List (LockAct L)) (e : S.Op) (k : Except String (S.Resp e) → Prog S α)
  | finished

/-- A task at the start of a program. -/
def Locking.start (D : Locking S L) : Prog S α → Task S L α
  | .op e k => .running (D.script e) e k
  | .pure _ => .finished
  | .fail _ => .finished

/-- Tasks and the owner of each lock. -/
structure Tasks (S : Signature) (L α ι : Type) where
  task : ι → Task S L α
  owner : L → Option ι

/-- Tasks at the start of their programs, with all locks free. -/
def Locking.launch (D : Locking S L) (pool : ι → Prog S α) : Tasks S L α ι where
  task i := D.start (pool i)
  owner _ := none

/-- A task goes on. -/
inductive Tasks.Step [DecidableEq ι] [DecidableEq L] (D : Locking S L) (s : Tasks S L α ι) :
    Tasks S L α ι → Prop
  | acquire (i : ι) (l : L) (rest : List (LockAct L)) (e : S.Op)
      (k : Except String (S.Resp e) → Prog S α)
      (h : s.task i = .running (.acquire l :: rest) e k) (hfree : s.owner l = none) :
      Step D s {
        task := Function.update s.task i (.running rest e k)
        owner := Function.update s.owner l (some i) }
  | release (i : ι) (l : L) (rest : List (LockAct L)) (e : S.Op)
      (k : Except String (S.Resp e) → Prog S α)
      (h : s.task i = .running (.release l :: rest) e k) :
      Step D s {
        task := Function.update s.task i (.running rest e k)
        owner := Function.update s.owner l none }
  | work (i : ι) (rest : List (LockAct L)) (e : S.Op) (k : Except String (S.Resp e) → Prog S α)
      (h : s.task i = .running (.work :: rest) e k) :
      Step D s { s with task := Function.update s.task i (.running rest e k) }
  | answer (i : ι) (e : S.Op) (k : Except String (S.Resp e) → Prog S α)
      (r : Except String (S.Resp e)) (h : s.task i = .running [] e k) (hr : D.answers e r) :
      Step D s { s with task := Function.update s.task i (D.start (k r)) }

section Ranks

variable [DecidableEq L] (rank : L → Nat)

/-- The locks owned after a row of actions, if each lock that is acquired has
    a greater rank than those owned then, and each that is released is owned. -/
def held : List L → List (LockAct L) → Option (List L)
  | owned, [] => some owned
  | owned, .acquire l :: rest =>
      if ∀ x ∈ owned, rank x < rank l then held (l :: owned) rest else none
  | owned, .release l :: rest =>
      if l ∈ owned then held (owned.filter (fun x => x ≠ l)) rest else none
  | owned, .work :: rest => held owned rest

variable (D : Locking S L)

/-- A program that keeps to the ranks, from some locks owned at its start to
    others at each of its ends. -/
def Prog.Holds (last : List L) : List L → Prog S α → Prop
  | owned, .pure _ => owned = last
  | owned, .fail _ => owned = last
  | owned, .op e k => ∃ mid, held rank owned (D.script e) = some mid ∧
      ∀ r, D.answers e r → (k r).Holds last mid

variable {rank} {D} {owned last mid : List L}

/-- One program after another. The first may fail, so the second has to end
    with what it starts with. -/
theorem holds_bind (p : Prog S β) (f : β → Prog S α) (hp : p.Holds rank D last owned)
    (hf : ∀ b, (f b).Holds rank D last last) : (p >>= f).Holds rank D last owned := by
  induction p generalizing owned with
  | pure b =>
      have hsame : owned = last := hp
      rw [hsame]
      exact hf b
  | fail msg => exact hp
  | op e k ih =>
      obtain ⟨mid, hmid, hk⟩ := hp
      exact ⟨mid, hmid, fun r hr => ih r (hk r hr)⟩

/-- A program whose failure is kept, and what follows either way. -/
theorem holds_attempt_bind (p : Prog S β) (f : Except String β → Prog S α)
    (hp : p.Holds rank D mid owned) (hf : ∀ r, (f r).Holds rank D last mid) :
    (p.attempt >>= f).Holds rank D last owned := by
  induction p generalizing owned with
  | pure b =>
      have hsame : owned = mid := hp
      rw [hsame]
      exact hf (.ok b)
  | fail msg =>
      have hsame : owned = mid := hp
      rw [hsame]
      exact hf (.error msg)
  | op e k ih =>
      obtain ⟨mid', hmid, hk⟩ := hp
      exact ⟨mid', hmid, fun r hr => ih r (hk r hr)⟩

/-- An operation that cannot fail, and what follows it. -/
theorem holds_perform (e : S.Op) (f : S.Resp e → Prog S α)
    (he : held rank owned (D.script e) = some mid)
    (hok : ∀ r, D.answers e r → ∃ a, r = .ok a) (hf : ∀ a, (f a).Holds rank D last mid) :
    (Prog.perform e >>= f).Holds rank D last owned := by
  refine ⟨mid, he, fun r hr => ?_⟩
  obtain ⟨a, rfl⟩ := hok r hr
  exact hf a

/-- Operations that give back what they take. -/
theorem holds_of_only (K : S.Op → Prop)
    (hK : ∀ e, K e → held rank owned (D.script e) = some owned) (p : Prog S α) (hp : p.Only K) :
    p.Holds rank D owned owned := by
  induction p with
  | pure a => rfl
  | fail msg => rfl
  | op e k ih => exact ⟨owned, hK e hp.1, fun r _ => ih r (hp.2 r)⟩

/-- A task that keeps to the ranks for what it owns and ends owning nothing. -/
def Task.Sound (rank : L → Nat) (D : Locking S L) (owned : List L) : Task S L α → Prop
  | .running pending e k => ∃ mid, held rank owned pending = some mid ∧
      ∀ r, D.answers e r → (k r).Holds rank D [] mid
  | .finished => owned = []

theorem sound_start (p : Prog S α) (h : p.Holds rank D [] owned) :
    (D.start p).Sound rank D owned := by
  cases p with
  | pure a => exact h
  | fail msg => exact h
  | op e k => exact h

/-- Every task keeps to the ranks for the locks it is the owner of. -/
def Tasks.Sound (rank : L → Nat) (D : Locking S L) (s : Tasks S L α ι) : Prop :=
  ∀ i, ∃ owned : List L, (∀ l, l ∈ owned ↔ s.owner l = some i) ∧ (s.task i).Sound rank D owned

variable [DecidableEq ι]

/-- Every step keeps what each task owns. -/
theorem Tasks.Sound.step (s s' : Tasks S L α ι) (h : s.Sound rank D) (hstep : s.Step D s') :
    s'.Sound rank D := by
  intro j
  obtain ⟨owned, hown, htask⟩ := h j
  cases hstep with
  | acquire i l rest e k hi hfree =>
      by_cases hj : j = i
      · -- The task that acquired the lock owns it from here on.
        rw [hj, hi] at htask
        obtain ⟨mid, hmid, hk⟩ := htask
        rw [held] at hmid
        split at hmid
        · refine ⟨l :: owned, fun x => ?_, ?_⟩
          · rw [List.mem_cons, hown x, hj]
            by_cases hx : x = l
            · simp [hx]
            · simp [hx]
          · rw [hj]
            simp only [Function.update_self]
            exact ⟨mid, hmid, hk⟩
        · cases hmid
      · -- The lock was free, so no other task owned it.
        refine ⟨owned, fun x => ?_, by simpa only [Function.update_of_ne hj] using htask⟩
        rw [hown x]
        by_cases hx : x = l
        · simp [hx, hfree, Ne.symm hj]
        · simp [hx]
  | release i l rest e k hi =>
      by_cases hj : j = i
      · rw [hj, hi] at htask
        obtain ⟨mid, hmid, hk⟩ := htask
        rw [held] at hmid
        split at hmid
        · refine ⟨owned.filter (fun x => x ≠ l), fun x => ?_, ?_⟩
          · rw [List.mem_filter, hown x]
            by_cases hx : x = l
            · simp [hx]
            · simp [hx]
          · rw [hj]
            simp only [Function.update_self]
            exact ⟨mid, hmid, hk⟩
        · cases hmid
      · -- The lock was owned by the task that released it.
        obtain ⟨owned', hown', htask'⟩ := h i
        rw [hi] at htask'
        obtain ⟨mid, hmid, _⟩ := htask'
        rw [held] at hmid
        split at hmid
        case isFalse => cases hmid
        case isTrue hmem =>
          have howner := (hown' l).mp hmem
          refine ⟨owned, fun x => ?_, by simpa only [Function.update_of_ne hj] using htask⟩
          rw [hown x]
          by_cases hx : x = l
          · simp [hx, howner, Ne.symm hj]
          · simp [hx]
  | work i rest e k hi =>
      -- Work changes no lock, so it changes no owner.
      refine ⟨owned, hown, ?_⟩
      by_cases hj : j = i
      · rw [hj, hi] at htask
        rw [hj]
        simp only [Function.update_self]
        exact htask
      · simpa only [Function.update_of_ne hj] using htask
  | answer i e k r hi hr =>
      refine ⟨owned, hown, ?_⟩
      by_cases hj : j = i
      · rw [hj, hi] at htask
        obtain ⟨mid, hmid, hk⟩ := htask
        rw [held, Option.some.injEq] at hmid
        rw [hj]
        simp only [Function.update_self]
        rw [hmid]
        exact sound_start (k r) (hk r hr)
      · simpa only [Function.update_of_ne hj] using htask

/-- A task that is not finished can go on, or waits for a lock whose rank is
    above those of the locks it owns. -/
theorem Task.Sound.next (s : Tasks S L α ι) (i : ι) (owned : List L)
    (h : (s.task i).Sound rank D owned) (hi : s.task i ≠ .finished) :
    (∃ s', s.Step D s') ∨
      ∃ l j, s.owner l = some j ∧ ∀ x ∈ owned, rank x < rank l := by
  cases ht : s.task i with
  | finished => exact absurd ht hi
  | running pending e k =>
      cases pending with
      | nil =>
          obtain ⟨r, hr⟩ := D.answered e
          exact Or.inl ⟨_, .answer i e k r ht hr⟩
      | cons act rest =>
          cases act with
          | work => exact Or.inl ⟨_, .work i rest e k ht⟩
          | release l => exact Or.inl ⟨_, .release i l rest e k ht⟩
          | acquire l =>
              cases howner : s.owner l with
              | none => exact Or.inl ⟨_, .acquire i l rest e k ht howner⟩
              | some j =>
                  rw [ht] at h
                  obtain ⟨mid, hmid, _⟩ := h
                  rw [held] at hmid
                  split at hmid
                  case isFalse => cases hmid
                  case isTrue hrank => exact Or.inr ⟨l, j, howner, hrank⟩

/-- Some task can go on while one is not finished. -/
theorem Tasks.Sound.progress (s : Tasks S L α ι) (h : s.Sound rank D) (bound : Nat)
    (hbound : ∀ l, rank l ≤ bound) (i : ι) (hi : s.task i ≠ .finished) : ∃ s', s.Step D s' := by
  -- The owner of a lock is not finished, and goes on or waits higher up.
  have howners : ∀ (room : Nat) (l : L) (j : ι), bound - rank l = room → s.owner l = some j →
      ∃ s', s.Step D s' := by
    intro room
    induction room using Nat.strongRecOn with
    | ind room ih =>
        intro l j hroom howner
        obtain ⟨owned, hown, htask⟩ := h j
        have hmem : l ∈ owned := (hown l).mpr howner
        have hj : s.task j ≠ .finished := by
          intro hfin
          rw [hfin] at htask
          have hnil : owned = [] := htask
          rw [hnil] at hmem
          exact List.not_mem_nil hmem
        rcases htask.next s j owned hj with hgo | ⟨l', j', howner', habove⟩
        · exact hgo
        · have hlt := habove l hmem
          have hle := hbound l'
          exact ih (bound - rank l') (by omega) l' j' rfl howner'
  obtain ⟨owned, hown, htask⟩ := h i
  rcases htask.next s i owned hi with hgo | ⟨l, j, howner, _⟩
  · exact hgo
  · exact howners _ l j rfl howner

omit [DecidableEq ι] in
theorem sound_launch (pool : ι → Prog S α) (hpool : ∀ i, (pool i).Holds rank D [] []) :
    (D.launch pool).Sound rank D := by
  intro i
  refine ⟨[], fun l => ?_, sound_start (pool i) (hpool i)⟩
  simp [Locking.launch]

/-- Every state that is reached is sound. -/
theorem Tasks.Sound.reach (s s' : Tasks S L α ι) (h : s.Sound rank D)
    (hreach : Relation.ReflTransGen (Tasks.Step D) s s') : s'.Sound rank D := by
  induction hreach with
  | refl => exact h
  | tail _ hstep ih => exact ih.step _ _ hstep

/-- Tasks that keep to the ranks do not block each other, in any state they
    reach. -/
theorem no_deadlock (pool : ι → Prog S α) (hpool : ∀ i, (pool i).Holds rank D [] [])
    (bound : Nat) (hbound : ∀ l, rank l ≤ bound) (s : Tasks S L α ι)
    (hreach : Relation.ReflTransGen (Tasks.Step D) (D.launch pool) s) (i : ι)
    (hi : s.task i ≠ .finished) : ∃ s', s.Step D s' :=
  ((sound_launch pool hpool).reach _ s hreach).progress s bound hbound i hi

end Ranks

end Effect
