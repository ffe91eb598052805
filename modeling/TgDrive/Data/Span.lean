import Mathlib.Data.List.GetD

/-!
# Spans of a Flat Array

A flat array, read and written by ranges. The array is a function on indices,
so a bound on its length is a bound on the ranges used and not a field of it.
Reading a range gives a list, and writing a list over the array at an offset
replaces what it covers.

`Mixed` compares an array that is between two others: cut into objects of a
fixed size, each object is wholly that of the one or wholly that of the other.
This is what an interrupted write over several objects leaves.

## Main definitions

* `span`: The elements of a range.
* `splice`: The array with a list written over it.
* `Agree`: Two arrays agree on an object.
* `Mixed`: Each object is that of one of two arrays.

## Theorems

* `span_add`: Two adjacent ranges read as one.
* `splice_append`: Two adjacent lists written as one.
* `span_splice_self`: A written range reads back.
* `span_splice_disjoint`: Other ranges are unchanged.
* `span_splice_within`: Writing inside a range, seen from the range.
* `agree_splice`: A list inside other objects leaves an object alone.
* `mixed_trans_left`: An interrupted rest is an interrupted whole.
-/

namespace Data

variable {β : Type}

/-- The elements of a range of an array. -/
def span (a : Nat → β) (offset len : Nat) : List β := (List.range' offset len).map a

/-- An array with a list written over it from an offset on. -/
def splice (a : Nat → β) (offset : Nat) (l : List β) : Nat → β :=
  fun i => if i < offset then a i else l.getD (i - offset) (a i)

@[simp] theorem length_span (a : Nat → β) (offset len : Nat) :
    (span a offset len).length = len := by
  rw [span, List.length_map, List.length_range']

@[simp] theorem span_zero (a : Nat → β) (offset : Nat) : span a offset 0 = [] := rfl

theorem getElem?_span (a : Nat → β) (offset len k : Nat) (h : k < len) :
    (span a offset len)[k]? = some (a (offset + k)) := by
  rw [span, List.getElem?_map, List.getElem?_range' h, Option.map_some, Nat.one_mul]

/-- Two adjacent ranges read as one. -/
theorem span_add (a : Nat → β) (offset m n : Nat) :
    span a offset (m + n) = span a offset m ++ span a (offset + m) n := by
  rw [span, ← List.range'_append_1, List.map_append]
  rfl

/-- A range inside a range. -/
theorem take_drop_span (a : Nat → β) (offset len o t : Nat) (h : o + t ≤ len) :
    ((span a offset len).drop o).take t = span a (offset + o) t := by
  have hlen : len = o + (t + (len - o - t)) := by omega
  rw [hlen, span_add, span_add, List.drop_left' (length_span a offset o),
    List.take_left' (length_span a (offset + o) t)]

theorem span_congr (a b : Nat → β) (offset len : Nat)
    (h : ∀ i, offset ≤ i → i < offset + len → a i = b i) : span a offset len = span b offset len := by
  refine List.map_congr_left fun i hi => ?_
  rcases List.mem_range'_1.mp hi with ⟨hlo, hhi⟩
  exact h i hlo hhi

/-- A list that has the elements of an array from an offset on is the span. -/
theorem eq_span (a : Nat → β) (offset : Nat) (l : List β)
    (h : ∀ k, k < l.length → l[k]? = some (a (offset + k))) : l = span a offset l.length := by
  refine List.ext_getElem? fun k => ?_
  by_cases hk : k < l.length
  · rw [h k hk, getElem?_span a offset _ k hk]
  · rw [List.getElem?_eq_none (by omega), List.getElem?_eq_none (by rw [length_span]; omega)]

@[simp] theorem splice_nil (a : Nat → β) (offset : Nat) : splice a offset [] = a := by
  funext i
  simp only [splice, List.getD_nil, ite_self]

theorem splice_before (a : Nat → β) (offset : Nat) (l : List β) (i : Nat) (h : i < offset) :
    splice a offset l i = a i := by
  rw [splice, if_pos h]

theorem splice_after (a : Nat → β) (offset : Nat) (l : List β) (i : Nat)
    (h : offset + l.length ≤ i) : splice a offset l i = a i := by
  rw [splice, if_neg (by omega), List.getD_eq_default _ _ (by omega)]

theorem splice_inside (a : Nat → β) (offset : Nat) (l : List β) (k : Nat) (h : k < l.length) :
    some (splice a offset l (offset + k)) = l[k]? := by
  have hk : offset + k - offset = k := by omega
  rw [splice, if_neg (by omega), hk, List.getD_eq_getElem?_getD, List.getElem?_eq_getElem h,
    Option.getD_some]

/-- Two adjacent lists written one after the other are written as one. -/
theorem splice_append (a : Nat → β) (offset : Nat) (l l' : List β) :
    splice (splice a offset l) (offset + l.length) l' = splice a offset (l ++ l') := by
  funext i
  by_cases hlt : i < offset + l.length
  · rw [splice_before _ _ _ _ hlt]
    by_cases hlo : i < offset
    · rw [splice_before _ _ _ _ hlo, splice_before _ _ _ _ hlo]
    · rw [splice, splice, if_neg hlo, if_neg hlo, List.getD_append _ _ _ _ (by omega)]
  · have hsub : i - (offset + l.length) = i - offset - l.length := by omega
    rw [splice, if_neg hlt, splice_after a offset l i (by omega), splice, if_neg (by omega),
      List.getD_append_right _ _ _ _ (by omega), hsub]

/-- A written range reads back what was written. -/
theorem span_splice_self (a : Nat → β) (offset : Nat) (l : List β) :
    span (splice a offset l) offset l.length = l :=
  (eq_span _ offset l fun k hk => (splice_inside a offset l k hk).symm).symm

/-- A range apart from the written one reads as before. -/
theorem span_splice_disjoint (a : Nat → β) (offset : Nat) (l : List β) (offset' len : Nat)
    (h : offset' + len ≤ offset ∨ offset + l.length ≤ offset') :
    span (splice a offset l) offset' len = span a offset' len := by
  refine span_congr _ _ offset' len fun i hlo hhi => ?_
  rcases h with h | h
  · exact splice_before a offset l i (by omega)
  · exact splice_after a offset l i (by omega)

/-- Writing inside a range, seen from the range. -/
theorem span_splice_within (a : Nat → β) (offset len o : Nat) (l : List β)
    (h : o + l.length ≤ len) : span (splice a (offset + o) l) offset len =
      (span a offset len).take o ++ l ++ (span a offset len).drop (o + l.length) := by
  have hlen : len = o + (l.length + (len - o - l.length)) := by omega
  have hfront : (span a offset len).take o = span a offset o := by
    rw [hlen, span_add, List.take_left' (length_span a offset o)]
  have hback : (span a offset len).drop (o + l.length)
      = span a (offset + o + l.length) (len - o - l.length) := by
    have hlen' : len = o + l.length + (len - o - l.length) := by omega
    rw [hlen', span_add, List.drop_left' (length_span a offset (o + l.length)), ← hlen',
      Nat.add_assoc]
  rw [hfront, hback, List.append_assoc]
  calc span (splice a (offset + o) l) offset len
      = span (splice a (offset + o) l) offset (o + (l.length + (len - o - l.length))) := by
        rw [← hlen]
    _ = span a offset o ++ (l ++ span a (offset + o + l.length) (len - o - l.length)) := by
        rw [span_add, span_add, span_splice_self,
          span_splice_disjoint _ _ _ offset o (Or.inl (Nat.le_refl _)),
          span_splice_disjoint _ _ _ _ _ (Or.inr (Nat.le_refl _))]

/-- Two arrays agree on the object with an id, for objects of a given size. -/
def Agree (size id : Nat) (a b : Nat → β) : Prop :=
  span a (id * size) size = span b (id * size) size

/-- A list written wholly before or wholly after an object leaves it alone. -/
theorem agree_splice (size id : Nat) (a : Nat → β) (offset : Nat) (l : List β)
    (h : (id + 1) * size ≤ offset ∨ offset + l.length ≤ id * size) :
    Agree size id (splice a offset l) a := by
  have hnext : (id + 1) * size = id * size + size := Nat.succ_mul id size
  rw [hnext] at h
  exact span_splice_disjoint a offset l (id * size) size h

/-- A list written inside one object leaves the others alone. -/
theorem agree_splice_other (size id i : Nat) (a : Nat → β) (o : Nat) (l : List β)
    (h : o + l.length ≤ size) (hi : i ≠ id) :
    Agree size i (splice a (id * size + o) l) a := by
  refine agree_splice size i a _ l ?_
  have hnext : (id + 1) * size = id * size + size := Nat.succ_mul id size
  rcases Nat.lt_or_gt_of_ne hi with hlt | hgt
  · have hle : (i + 1) * size ≤ id * size := Nat.mul_le_mul_right size hlt
    exact Or.inl (by omega)
  · have hle : (id + 1) * size ≤ i * size := Nat.mul_le_mul_right size hgt
    exact Or.inr (by omega)

/-- The same, position by position. -/
theorem splice_other (size id i : Nat) (a : Nat → β) (o : Nat) (l : List β) (k : Nat)
    (h : o + l.length ≤ size) (hi : i ≠ id) (hk : k < size) :
    splice a (id * size + o) l (i * size + k) = a (i * size + k) := by
  rcases Nat.lt_or_gt_of_ne hi with hlt | hgt
  · have hle : (i + 1) * size ≤ id * size := Nat.mul_le_mul_right size hlt
    rw [Nat.succ_mul] at hle
    exact splice_before _ _ _ _ (by omega)
  · have hle : (id + 1) * size ≤ i * size := Nat.mul_le_mul_right size hgt
    rw [Nat.succ_mul] at hle
    exact splice_after _ _ _ _ (by omega)

/-- Each object of an array is that of the one or that of the other of two. -/
def Mixed (size : Nat) (a b c : Nat → β) : Prop := ∀ id, Agree size id c a ∨ Agree size id c b

theorem Mixed.left (size : Nat) (a b : Nat → β) : Mixed size a b a := fun _ => Or.inl rfl

theorem Mixed.right (size : Nat) (a b : Nat → β) : Mixed size a b b := fun _ => Or.inr rfl

/-- An array between a middle stage and the end is between the start and the
    end, if the first stage only touched one object and the second did not
    touch that one. -/
theorem mixed_trans_left (size id : Nat) (a m b c : Nat → β)
    (hfirst : ∀ i, i ≠ id → Agree size i m a) (hsecond : Agree size id b m)
    (h : Mixed size m b c) : Mixed size a b c := by
  intro i
  by_cases hi : i = id
  · rw [hi]
    rcases h id with hm | hb
    · exact Or.inr (Eq.trans hm hsecond.symm)
    · exact Or.inr hb
  · rcases h i with hm | hb
    · exact Or.inl (Eq.trans hm (hfirst i hi))
    · exact Or.inr hb

end Data
