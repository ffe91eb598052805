import Mathlib.Data.List.Sort
import Mathlib.Data.List.Nodup

/-!
# The Oldest of a List

Rows of a list by a key no two of them share: how many come after a row, the
oldest so many, and what is kept when these go. A row is kept exactly when
fewer rows come after it than are to be kept, so what is kept is described
without sorting anything.

Two keys keep the same rows unless a pair across the cut is in one order under
one of them and in the other under the other. It is the pairs across the cut
alone that matter, since within either side a wrong order changes nothing.

## Main definitions

* `later`: How many rows come after a row.
* `oldest`: The first so many rows in the order of the key.

## Theorems

* `mem_oldest`: What is among the oldest.
* `countP_later`: How many rows are kept.
* `later_agree_iff`: When two keys keep the same rows.
-/

namespace Data

/-- A condition that is strictly wider on a list holds more often there. -/
theorem countP_lt {ρ : Type} (p q : ρ → Bool) (xs : List ρ)
    (himp : ∀ y ∈ xs, p y = true → q y = true) (x : ρ) (hx : x ∈ xs) (hp : ¬ p x = true)
    (hq : q x = true) : xs.countP p < xs.countP q := by
  obtain ⟨before, after, rfl⟩ := List.append_of_mem hx
  have hbefore : before.countP p ≤ before.countP q :=
    List.countP_mono_left (fun y hy => himp y (List.mem_append_left _ hy))
  have hafter : after.countP p ≤ after.countP q :=
    List.countP_mono_left
      (fun y hy => himp y (List.mem_append_right _ (List.mem_cons_of_mem x hy)))
  rw [List.countP_append, List.countP_append, List.countP_cons_of_neg hp,
    List.countP_cons_of_pos hq]
  omega

section Rank

variable {ρ κ : Type} [LinearOrder κ]

/-- How many rows of a list come after a row. -/
def later (key : ρ → κ) (xs : List ρ) (x : ρ) : Nat := xs.countP (fun y => decide (key x < key y))

/-- The first `k` rows in the order of a key. -/
def oldest (key : ρ → κ) (xs : List ρ) (k : Nat) : List ρ :=
  (xs.insertionSort (fun a b => key a ≤ key b)).take k

variable (key : ρ → κ) (xs : List ρ)

theorem length_oldest (k : Nat) : (oldest key xs k).length = min k xs.length := by
  rw [oldest, List.length_take, List.length_insertionSort]

theorem mem_of_mem_oldest (k : Nat) (x : ρ) (h : x ∈ oldest key xs k) : x ∈ xs :=
  (xs.perm_insertionSort (fun a b => key a ≤ key b)).mem_iff.mp (List.mem_of_mem_take h)

/-- A row with a later key has no more rows after it. -/
theorem later_anti (a b : ρ) (h : key a ≤ key b) : later key xs b ≤ later key xs a := by
  refine List.countP_mono_left ?_
  intro y _ hy
  exact decide_eq_true (lt_of_le_of_lt h (of_decide_eq_true hy))

/-- In a list in order, what comes after a row is what stands after it. -/
theorem later_of_sorted (before after : List ρ) (x : ρ)
    (h : (before ++ x :: after).Pairwise (fun a b => key a < key b)) :
    later key (before ++ x :: after) x = after.length := by
  rw [List.pairwise_append, List.pairwise_cons] at h
  have hbefore : before.countP (fun y => decide (key x < key y)) = 0 := by
    rw [List.countP_eq_zero]
    intro y hy hlt
    exact lt_asymm (of_decide_eq_true hlt) (h.2.2 y hy x List.mem_cons_self)
  have hafter : after.countP (fun y => decide (key x < key y)) = after.length := by
    rw [List.countP_eq_length]
    intro y hy
    exact decide_eq_true (h.2.1.1 y hy)
  rw [later, List.countP_append, List.countP_cons, hbefore, hafter]
  simp

/-- Rows with distinct keys, sorted, are in strict order. -/
theorem pairwise_sorted (hkey : (xs.map key).Nodup) :
    (xs.insertionSort (fun a b => key a ≤ key b)).Pairwise (fun a b => key a < key b) := by
  have hle := xs.pairwise_insertionSort (fun a b => key a ≤ key b)
  have hne : ((xs.insertionSort (fun a b => key a ≤ key b)).map key).Nodup :=
    ((xs.perm_insertionSort _).map key).nodup_iff.mpr hkey
  rw [List.Nodup, List.pairwise_map] at hne
  exact (hle.and hne).imp (fun h => lt_of_le_of_ne h.1 h.2)

theorem later_perm (ys : List ρ) (h : xs.Perm ys) (x : ρ) : later key xs x = later key ys x :=
  h.countP_eq _

/-- The rows to go are those with as many rows after them as are to stay. -/
theorem mem_oldest (hkey : (xs.map key).Nodup) (n : Nat) (x : ρ) :
    x ∈ oldest key xs (xs.length - n) ↔ x ∈ xs ∧ n ≤ later key xs x := by
  have hperm := xs.perm_insertionSort (fun a b => key a ≤ key b)
  have hsorted := pairwise_sorted key xs hkey
  have hlen := hperm.length_eq
  rw [oldest, ← hlen, ← hperm.mem_iff, later_perm key xs _ hperm.symm]
  generalize xs.insertionSort (fun a b => key a ≤ key b) = ys at hsorted
  by_cases hx : x ∈ ys
  · obtain ⟨before, after, rfl⟩ := List.append_of_mem hx
    rw [later_of_sorted key before after x hsorted]
    rw [List.pairwise_append] at hsorted
    have hnot : x ∉ before := fun h => lt_irrefl _ (hsorted.2.2 x h x List.mem_cons_self)
    have hlen : (before ++ x :: after).length = before.length + after.length + 1 := by
      rw [List.length_append, List.length_cons, Nat.add_assoc]
    rw [hlen]
    constructor
    · intro h
      refine ⟨hx, ?_⟩
      by_contra hlt
      -- The cut is at or before the row.
      have hcut : before.length + after.length + 1 - n ≤ before.length →
          x ∈ before := by
        intro hle
        rw [List.take_append_of_le_length hle] at h
        exact List.mem_of_mem_take h
      by_cases hle : before.length + after.length + 1 - n ≤ before.length
      · exact hnot (hcut hle)
      · omega
    · rintro ⟨_, hle⟩
      have hcut : before.length + after.length + 1 - n =
          before.length + (after.length - n + 1) := by omega
      rw [hcut, List.take_length_add_append]
      exact List.mem_append_right _ (by rw [List.take_succ_cons]; exact List.mem_cons_self)
  · constructor
    · intro h
      exact absurd (List.mem_of_mem_take h) hx
    · rintro ⟨h, _⟩
      exact absurd h hx

/-- As many rows are kept as there is room for. -/
theorem countP_later (hkey : (xs.map key).Nodup) (n : Nat) :
    xs.countP (fun x => decide (later key xs x < n)) = min n xs.length := by
  have hperm := xs.perm_insertionSort (fun a b => key a ≤ key b)
  have hlen := hperm.length_eq
  have hsorted := pairwise_sorted key xs hkey
  have hrest : ∀ x ∈ (xs.insertionSort (fun a b => key a ≤ key b)).drop (xs.length - n),
      later key xs x < n := by
    intro x hx
    by_contra hle
    have hgone := (mem_oldest key xs hkey n x).mpr
      ⟨hperm.mem_iff.mp (List.mem_of_mem_drop hx), Nat.le_of_not_lt hle⟩
    rw [← List.take_append_drop (xs.length - n) (xs.insertionSort _),
      List.pairwise_append] at hsorted
    exact lt_irrefl _ (hsorted.2.2 x hgone x hx)
  have hgone : ∀ x ∈ (xs.insertionSort (fun a b => key a ≤ key b)).take (xs.length - n),
      ¬ later key xs x < n := by
    intro x hx
    exact Nat.not_lt_of_le ((mem_oldest key xs hkey n x).mp hx).2
  rw [← hperm.countP_eq, ← List.take_append_drop (xs.length - n) (xs.insertionSort _),
    List.countP_append, List.countP_eq_zero.mpr, List.countP_eq_length.mpr, List.length_drop, hlen]
  · omega
  · intro x hx
    exact decide_eq_true (hrest x hx)
  · intro x hx h
    exact hgone x hx (of_decide_eq_true h)

end Rank

section Agree

variable {ρ κ μ : Type} [LinearOrder κ] [LinearOrder μ] (f : ρ → κ) (g : ρ → μ) (xs : List ρ)

/-- Rows in order across the cut are kept alike. -/
theorem later_agree (hg : (xs.map g).Nodup) (n : Nat)
    (h : ∀ a ∈ xs, ∀ b ∈ xs, later g xs a < n → n ≤ later g xs b → f b < f a) (x : ρ)
    (hx : x ∈ xs) : later f xs x < n ↔ later g xs x < n := by
  have hcount := countP_later g xs hg n
  constructor
  · intro hf
    by_contra hle
    -- All rows kept under one key come after this one under the other.
    have hmono : xs.countP (fun y => decide (later g xs y < n)) ≤ later f xs x := by
      refine List.countP_mono_left ?_
      intro y hy hkept
      exact decide_eq_true (h y hy x hx (of_decide_eq_true hkept) (Nat.le_of_not_lt hle))
    have hroom : later g xs x ≤ xs.length := List.countP_le_length
    omega
  · intro hkept
    -- What comes after this row is kept under the other key, and so is the row.
    have hmono : later f xs x < xs.countP (fun y => decide (later g xs y < n)) := by
      refine countP_lt _ _ xs ?_ x hx (by simp) (decide_eq_true hkept)
      intro y hy hafter
      by_contra hgone
      have hbad := h x hx y hy hkept
        (Nat.le_of_not_lt (fun hlt => hgone (decide_eq_true hlt)))
      exact lt_asymm hbad (of_decide_eq_true hafter)
    omega

/-- Two keys keep the same rows exactly when they agree across the cut. -/
theorem later_agree_iff (hg : (xs.map g).Nodup) (n : Nat) :
    (∀ x ∈ xs, (later f xs x < n ↔ later g xs x < n)) ↔
      ∀ a ∈ xs, ∀ b ∈ xs, later g xs a < n → n ≤ later g xs b → f b < f a := by
  constructor
  · intro h a ha b hb hkept hgone
    by_contra hle
    have hanti := later_anti f xs a b (le_of_not_gt hle)
    have hfa := (h a ha).mpr hkept
    have hfb : ¬ later f xs b < n := fun hlt => absurd ((h b hb).mp hlt) (Nat.not_lt_of_le hgone)
    omega
  · intro h x hx
    exact later_agree f g xs hg n h x hx

end Agree

end Data
