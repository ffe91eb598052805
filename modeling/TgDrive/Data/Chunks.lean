import Mathlib.Data.List.Basic

/-!
# Splitting a List into Chunks

Consecutive runs of a fixed length, the last one possibly shorter, and the
removal of a literal prefix. Both are what the standard slices of a systems
language offer.

## Main definitions

* `chunks`: The consecutive runs of a given length.
* `stripPrefix`: What follows a literal prefix, if the list has it.

## Theorems

* `chunks_cons`: The first run and the runs of the rest.
* `chunks_induction`: Induction along the runs.
* `flatten_chunks`: The runs put back together are the list.
* `ne_nil_of_mem_chunks`: No run is empty.
* `stripPrefix_append`: A prefix that is there can be removed.
-/

namespace Data

variable {α β : Type}

/-- The chunks of a list, with a bound on their number that the length of the
    list meets. -/
def chunksUpTo : Nat → Nat → List α → List (List α)
  | _, _, [] => []
  | 0, _, _ :: _ => []
  | fuel + 1, n, x :: xs => (x :: xs).take n :: chunksUpTo fuel n ((x :: xs).drop n)

/-- The consecutive runs of `n` elements, the last one possibly shorter. -/
def chunks (n : Nat) (l : List α) : List (List α) := chunksUpTo l.length n l

@[simp] theorem chunksUpTo_nil (fuel n : Nat) : chunksUpTo fuel n ([] : List α) = [] := by
  cases fuel with
  | zero => rfl
  | succ k => rfl

/-- Two bounds the length of the list meets give the same chunks. -/
theorem chunksUpTo_eq (n : Nat) (hn : 0 < n) : ∀ (fuel fuel' : Nat) (l : List α),
    l.length ≤ fuel → l.length ≤ fuel' → chunksUpTo fuel n l = chunksUpTo fuel' n l := by
  intro fuel
  induction fuel with
  | zero =>
      intro fuel' l hl _
      rw [List.length_eq_zero_iff.mp (Nat.le_zero.mp hl), chunksUpTo_nil, chunksUpTo_nil]
  | succ k ih =>
      intro fuel' l hl hl'
      cases l with
      | nil => rw [chunksUpTo_nil, chunksUpTo_nil]
      | cons x xs =>
          rw [List.length_cons] at hl hl'
          cases fuel' with
          | zero => omega
          | succ k' =>
              have hdrop : ((x :: xs).drop n).length ≤ xs.length := by
                rw [List.length_drop, List.length_cons]
                omega
              rw [chunksUpTo, chunksUpTo, ih k' _ (by omega) (by omega)]

@[simp] theorem chunks_nil (n : Nat) : chunks n ([] : List α) = [] := rfl

/-- The first run, then the runs of what follows it. -/
theorem chunks_cons (n : Nat) (hn : 0 < n) (l : List α) (hl : l ≠ []) :
    chunks n l = l.take n :: chunks n (l.drop n) := by
  cases l with
  | nil => exact absurd rfl hl
  | cons x xs =>
      have hdrop : ((x :: xs).drop n).length ≤ xs.length := by
        rw [List.length_drop, List.length_cons]
        omega
      rw [chunks, List.length_cons, chunksUpTo, chunks,
        chunksUpTo_eq n hn xs.length _ _ hdrop (Nat.le_refl _)]

/-- Induction along the chunks: a list is empty, or a first run of at most
    `n` elements and a rest that is already dealt with. -/
theorem chunks_induction (n : Nat) (hn : 0 < n) (P : List α → Prop) (hnil : P [])
    (hcons : ∀ l, l ≠ [] → P (l.drop n) → P l) (l : List α) : P l := by
  have hall : ∀ (m : Nat) (l : List α), l.length ≤ m → P l := by
    intro m
    induction m with
    | zero =>
        intro l hl
        rw [List.length_eq_zero_iff.mp (Nat.le_zero.mp hl)]
        exact hnil
    | succ k ih =>
        intro l hl
        by_cases hne : l = []
        · rw [hne]
          exact hnil
        · have hpos := List.length_pos_iff.mpr hne
          exact hcons l hne (ih _ (by rw [List.length_drop]; omega))
  exact hall l.length l (Nat.le_refl _)

theorem flatten_chunks (n : Nat) (hn : 0 < n) (l : List α) : (chunks n l).flatten = l := by
  induction l using chunks_induction n hn with
  | hnil => rfl
  | hcons l hl ih => rw [chunks_cons n hn l hl, List.flatten_cons, ih, List.take_append_drop]

theorem ne_nil_of_mem_chunks (n : Nat) (hn : 0 < n) (l c : List α)
    (h : c ∈ chunks n l) : c ≠ [] := by
  induction l using chunks_induction n hn with
  | hnil => exact absurd h List.not_mem_nil
  | hcons l hl ih =>
      rw [chunks_cons n hn l hl] at h
      rcases List.mem_cons.mp h with rfl | hrest
      · have hpos := List.length_pos_iff.mpr hl
        apply List.ne_nil_of_length_pos
        rw [List.length_take]
        omega
      · exact ih hrest

/-- What follows a literal prefix, if the list starts with it. -/
def stripPrefix [BEq α] (p l : List α) : Option (List α) :=
  if p.isPrefixOf l then some (l.drop p.length) else none

theorem stripPrefix_append [BEq α] [LawfulBEq α] (p l : List α) :
    stripPrefix p (p ++ l) = some l := by
  rw [stripPrefix, if_pos (List.isPrefixOf_iff_prefix.mpr (List.prefix_append p l)),
    List.drop_left]

theorem stripPrefix_eq_some [BEq α] [LawfulBEq α] (p l t : List α)
    (h : stripPrefix p l = some t) : l = p ++ t := by
  by_cases hp : p.isPrefixOf l
  · rw [stripPrefix, if_pos hp, Option.some.injEq] at h
    rcases List.isPrefixOf_iff_prefix.mp hp with ⟨r, hr⟩
    rw [← hr, List.drop_left] at h
    rw [← hr, h]
  · rw [stripPrefix, if_neg hp] at h
    exact absurd h (by simp only [reduceCtorEq, not_false_eq_true])

end Data
