import Mathlib.Data.List.Pairwise
import Mathlib.Order.Interval.Set.Basic
import Mathlib.Order.MinMax

/-!
# Coalescing Ranges

Records that each have a half-open range of a linear order, kept so that any
two have a gap between them. A new range takes in the records that overlap it
or meet it end to end: they are taken out, and one record from the lowest
start to the highest stop is put in.

What is taken out is asked for with the wide range, and what makes it wide with
the new one. The two agree where the records have gaps between them, because a
record that only the wide range reaches would have to meet one of those that
the new range reaches. So one round is enough, and nothing between the records
is swallowed.

The start and the stop of a record are parameters, and the records are
otherwise arbitrary.

## Main definitions

* `least`, `greatest`: The least and the greatest of some values and one more.
* `Touches`: A record overlaps a range or meets it.
* `Coalesced`: Records with gaps between them.
* `points`: What the ranges of some records cover.
* `lowest`, `highest`, `absorb`: Taking in a range.

## Theorems

* `Coalesced.touches_iff`: The wide range reaches what the new one reaches.
* `Coalesced.absorb`: The gaps stay.
* `Coalesced.points_absorb`: The new range is covered, and nothing else new.
-/

namespace Data

section Extremes

variable {α : Type} [LinearOrder α]

/-- What core asks of `min` and `max` for the extremes of a list. -/
theorem lawfulOrderMin : Std.LawfulOrderMin α where
  min_eq_or := min_choice
  le_min_iff _ _ _ := le_min_iff

theorem lawfulOrderMax : Std.LawfulOrderMax α where
  max_eq_or := max_choice
  max_le_iff _ _ _ := max_le_iff

attribute [local instance] lawfulOrderMin lawfulOrderMax

/-- The least of some values and one more. -/
def least (l : List α) (a : α) : α := min a (l.min?.getD a)

/-- The greatest of some values and one more. -/
def greatest (l : List α) (a : α) : α := max a (l.max?.getD a)

theorem least_eq_foldl (l : List α) (a : α) : least l a = l.foldl min a := List.foldl_min.symm

theorem greatest_eq_foldl (l : List α) (a : α) : greatest l a = l.foldl max a :=
  List.foldl_max.symm

theorem least_le (l : List α) (a : α) : least l a ≤ a := min_le_left _ _

theorem le_greatest (l : List α) (a : α) : a ≤ greatest l a := le_max_left _ _

theorem least_le_of_mem (l : List α) (a b : α) (h : b ∈ l) : least l a ≤ b := by
  rcases hm : l.min? with _ | m
  · rw [List.min?_eq_none_iff] at hm
    rw [hm] at h
    exact absurd h List.not_mem_nil
  · have hle := (List.min?_eq_some_iff.mp hm).2 b h
    rw [least, hm]
    exact le_trans (min_le_right _ _) hle

theorem le_greatest_of_mem (l : List α) (a b : α) (h : b ∈ l) : b ≤ greatest l a := by
  rcases hm : l.max? with _ | m
  · rw [List.max?_eq_none_iff] at hm
    rw [hm] at h
    exact absurd h List.not_mem_nil
  · have hle := (List.max?_eq_some_iff.mp hm).2 b h
    rw [greatest, hm]
    exact le_trans hle (le_max_right _ _)

/-- The least value is the one more, or one of the others. -/
theorem least_mem (l : List α) (a : α) : least l a = a ∨ least l a ∈ l := by
  rcases hm : l.min? with _ | m
  · rw [least, hm]
    exact Or.inl (min_self a)
  · have hmem := (List.min?_eq_some_iff.mp hm).1
    rw [least, hm]
    rcases min_choice a m with h | h
    · exact Or.inl h
    · right
      rw [Option.getD_some, h]
      exact hmem

theorem greatest_mem (l : List α) (a : α) : greatest l a = a ∨ greatest l a ∈ l := by
  rcases hm : l.max? with _ | m
  · rw [greatest, hm]
    exact Or.inl (max_self a)
  · have hmem := (List.max?_eq_some_iff.mp hm).1
    rw [greatest, hm]
    rcases max_choice a m with h | h
    · exact Or.inl h
    · right
      rw [Option.getD_some, h]
      exact hmem

end Extremes

section Ranges

variable {α ρ : Type} [LinearOrder α] (start stop : ρ → α)

/-- A record overlaps a range, or one of them begins where the other ends. -/
def Touches (lo hi : α) (r : ρ) : Prop := start r ≤ hi ∧ lo ≤ stop r

instance decidableTouches (lo hi : α) : DecidablePred (Touches start stop lo hi) :=
  fun r => inferInstanceAs (Decidable (start r ≤ hi ∧ lo ≤ stop r))

/-- There is a gap between two records. -/
def Apart (a b : ρ) : Prop := stop a < start b ∨ stop b < start a

/-- Records with gaps between them, each with something in it. -/
structure Coalesced (l : List ρ) : Prop where
  filled : ∀ r ∈ l, start r < stop r
  apart : l.Pairwise (Apart start stop)

/-- What the ranges of some records cover. -/
def points (l : List ρ) : Set α := {x | ∃ r ∈ l, x ∈ Set.Ico (start r) (stop r)}

/-- The records that touch a range. -/
def touching (l : List ρ) (lo hi : α) : List ρ :=
  l.filter (fun r => decide (Touches start stop lo hi r))

/-- The lowest start of a range and the records that touch it. -/
def lowest (l : List ρ) (lo hi : α) : α := least ((touching start stop l lo hi).map start) lo

/-- The highest stop of a range and the records that touch it. -/
def highest (l : List ρ) (lo hi : α) : α := greatest ((touching start stop l lo hi).map stop) hi

/-- Take in a range: a new record in place of those that touch the wide one. -/
def absorb (l : List ρ) (lo hi : α) (new : ρ) : List ρ :=
  l.filter (fun r => !decide (Touches start stop (lowest start stop l lo hi)
    (highest start stop l lo hi) r)) ++ [new]

variable {start stop}

theorem not_touches (lo hi : α) (r : ρ) (h : ¬Touches start stop lo hi r) :
    stop r < lo ∨ hi < start r := by
  rw [Touches, not_and_or, not_le, not_le] at h
  exact h.symm

variable (start stop) in
theorem apart_symm : Std.Symm (Apart start stop) := ⟨fun _ _ h => h.symm⟩

variable {l : List ρ} {lo hi : α}

theorem mem_touching (r : ρ) :
    r ∈ touching start stop l lo hi ↔ r ∈ l ∧ Touches start stop lo hi r := by
  rw [touching, List.mem_filter, decide_eq_true_iff]

theorem lowest_le_start (r : ρ) (hr : r ∈ l) (h : Touches start stop lo hi r) :
    lowest start stop l lo hi ≤ start r :=
  least_le_of_mem _ _ _ (List.mem_map_of_mem ((mem_touching r).mpr ⟨hr, h⟩))

theorem stop_le_highest (r : ρ) (hr : r ∈ l) (h : Touches start stop lo hi r) :
    stop r ≤ highest start stop l lo hi :=
  le_greatest_of_mem _ _ _ (List.mem_map_of_mem ((mem_touching r).mpr ⟨hr, h⟩))

variable (start stop l lo hi) in
/-- The wide range starts where the new one does, or where a record does that
    touches it. -/
theorem lowest_cases : lowest start stop l lo hi = lo ∨
    ∃ r ∈ l, Touches start stop lo hi r ∧ start r = lowest start stop l lo hi := by
  rcases least_mem ((touching start stop l lo hi).map start) lo with h | h
  · exact Or.inl h
  · rcases List.mem_map.mp h with ⟨r, hr, heq⟩
    have hmem := (mem_touching r).mp hr
    exact Or.inr ⟨r, hmem.1, hmem.2, heq⟩

variable (start stop l lo hi) in
theorem highest_cases : highest start stop l lo hi = hi ∨
    ∃ r ∈ l, Touches start stop lo hi r ∧ stop r = highest start stop l lo hi := by
  rcases greatest_mem ((touching start stop l lo hi).map stop) hi with h | h
  · exact Or.inl h
  · rcases List.mem_map.mp h with ⟨r, hr, heq⟩
    have hmem := (mem_touching r).mp hr
    exact Or.inr ⟨r, hmem.1, hmem.2, heq⟩

theorem Coalesced.gap (h : Coalesced start stop l) (a b : ρ) (ha : a ∈ l) (hb : b ∈ l)
    (hne : a ≠ b) : Apart start stop a b :=
  have := apart_symm start stop
  h.apart.forall ha hb hne

/-- What the wide range touches is what the new range touches, so that a
    second round would find nothing more. -/
theorem Coalesced.touches_iff (h : Coalesced start stop l) (r : ρ) (hr : r ∈ l) :
    Touches start stop (lowest start stop l lo hi) (highest start stop l lo hi) r ↔
      Touches start stop lo hi r := by
  constructor
  · intro hwide
    by_contra hnot
    have hfilled := h.filled r hr
    rcases not_touches lo hi r hnot with hbefore | hafter
    · -- A record before the new range is reached from one that begins before it.
      rcases lowest_cases start stop l lo hi with heq | ⟨t, ht, htouch, heq⟩
      · exact absurd (heq ▸ hwide.2) (not_le.mpr hbefore)
      · have hne : r ≠ t := fun hrt => hnot (hrt ▸ htouch)
        rcases h.gap r t hr ht hne with hgap | hgap
        · exact absurd (heq ▸ hwide.2) (not_le.mpr hgap)
        · have hstop : stop t < stop r := lt_trans hgap hfilled
          exact absurd htouch.2 (not_le.mpr (lt_trans hstop hbefore))
    · -- And one after it from one that ends after it.
      rcases highest_cases start stop l lo hi with heq | ⟨t, ht, htouch, heq⟩
      · exact absurd (heq ▸ hwide.1) (not_le.mpr hafter)
      · have hne : r ≠ t := fun hrt => hnot (hrt ▸ htouch)
        rcases h.gap r t hr ht hne with hgap | hgap
        · have hstart : start r < start t := lt_trans hfilled hgap
          exact absurd htouch.1 (not_le.mpr (lt_trans hafter hstart))
        · exact absurd (heq ▸ hwide.1) (not_le.mpr hgap)
  · intro htouch
    exact ⟨le_trans htouch.1 (le_greatest _ _), le_trans (least_le _ _) htouch.2⟩

theorem mem_absorb (new r : ρ) : r ∈ Data.absorb start stop l lo hi new ↔
    (r ∈ l ∧ ¬Touches start stop (lowest start stop l lo hi) (highest start stop l lo hi) r) ∨
      r = new := by
  rw [Data.absorb, List.mem_append, List.mem_filter, List.mem_singleton, Bool.not_eq_true',
    decide_eq_false_iff_not]

section Absorb

variable (new : ρ) (hstart : start new = lowest start stop l lo hi)
  (hstop : stop new = highest start stop l lo hi)

include hstart hstop

/-- After a range was taken in there are gaps between the records again. -/
theorem Coalesced.absorb (h : Coalesced start stop l) (hlt : lo < hi) :
    Coalesced start stop (Data.absorb start stop l lo hi new) where
  filled := by
    intro r hr
    rcases (mem_absorb new r).mp hr with ⟨hold, _⟩ | rfl
    · exact h.filled r hold
    · rw [hstart, hstop]
      exact lt_of_le_of_lt (least_le _ _) (lt_of_lt_of_le hlt (le_greatest _ _))
  apart := by
    rw [Data.absorb, List.pairwise_append]
    refine ⟨h.apart.filter _, List.pairwise_singleton _ _, ?_⟩
    -- What was kept does not touch the wide range.
    intro a ha b hb
    rw [List.mem_singleton] at hb
    rw [List.mem_filter, Bool.not_eq_true', decide_eq_false_iff_not] at ha
    rw [hb, Apart, hstart, hstop]
    exact not_touches _ _ a ha.2

/-- Taking in a range adds it to what is covered, and nothing else. -/
theorem Coalesced.points_absorb (h : Coalesced start stop l) :
    points start stop (Data.absorb start stop l lo hi new) =
      points start stop l ∪ Set.Ico lo hi := by
  ext x
  simp only [points, Set.mem_union, Set.mem_ofPred_eq]
  constructor
  · rintro ⟨r, hr, hx⟩
    rcases (mem_absorb new r).mp hr with ⟨hold, _⟩ | rfl
    · exact Or.inl ⟨r, hold, hx⟩
    · -- Outside the new range the wide one is made of records that touch it.
      rw [hstart, hstop] at hx
      by_cases hbefore : x < lo
      · rcases lowest_cases start stop l lo hi with heq | ⟨t, ht, htouch, heq⟩
        · exact absurd (heq ▸ hx.1) (not_le.mpr hbefore)
        · exact Or.inl ⟨t, ht, heq ▸ hx.1, lt_of_lt_of_le hbefore htouch.2⟩
      · by_cases hafter : hi ≤ x
        · rcases highest_cases start stop l lo hi with heq | ⟨t, ht, htouch, heq⟩
          · exact absurd (heq ▸ hx.2) (not_lt.mpr hafter)
          · exact Or.inl ⟨t, ht, le_trans htouch.1 hafter, heq ▸ hx.2⟩
        · exact Or.inr ⟨not_lt.mp hbefore, not_le.mp hafter⟩
  · rintro (⟨r, hr, hx⟩ | hx)
    · by_cases hwide : Touches start stop (lowest start stop l lo hi)
        (highest start stop l lo hi) r
      · -- A record that was taken out lies inside the wide range.
        have htouch := (h.touches_iff r hr).mp hwide
        refine ⟨new, (mem_absorb new new).mpr (Or.inr rfl), ?_, ?_⟩
        · rw [hstart]
          exact le_trans (lowest_le_start r hr htouch) hx.1
        · rw [hstop]
          exact lt_of_lt_of_le hx.2 (stop_le_highest r hr htouch)
      · exact ⟨r, (mem_absorb new r).mpr (Or.inl ⟨hr, hwide⟩), hx⟩
    · refine ⟨new, (mem_absorb new new).mpr (Or.inr rfl), ?_, ?_⟩
      · rw [hstart]
        exact le_trans (least_le _ _) hx.1
      · rw [hstop]
        exact lt_of_lt_of_le hx.2 (le_greatest _ _)

end Absorb

end Ranges

end Data
