import Mathlib.Algebra.Order.Ring.Nat
import Mathlib.Data.List.Lex
import Mathlib.Data.Char
import Mathlib.Tactic.Tauto

/-!
# Instants as Text

An instant of a clock, and the text it is printed as: the date, the hour
without a leading zero, minutes and seconds in two digits, and the fraction of
the second without trailing zeros. Text is compared byte by byte, so the two
orders agree field by field, wherever the fields are of one width.

The fraction is not of one width, but the space after it is below every digit,
so cutting zeros off its end changes nothing. The hour is the field that does
not work: the colon after it is above every digit, so `9:` comes after `10:`.
Two instants of one day are in the wrong order when the earlier is in an hour
of one digit that the first digit of the later hour does not exceed.

## Main definitions

* `Instant`, `Instant.Before`: An instant, and the order of time.
* `Instant.text`: How it is printed.
* `Instant.Slips`: Two instants whose texts are in the wrong order.

## Theorems

* `digits_append_lt`, `fraction_append_lt`: Fields whose texts are in order.
* `hourText_append_lt`: The field whose text is not.
* `Instant.text_lt_iff`: When the text of an instant is before another.
* `Instant.text_inj`: No two instants are printed alike.
-/

namespace Data

/-- An instant in universal time, as a calendar and a clock show it. -/
structure Instant where
  year : Nat
  month : Nat
  day : Nat
  hour : Nat
  minute : Nat
  second : Nat
  nanosecond : Nat
  year_lt : year < 10000
  month_lt : month < 13
  day_lt : day < 32
  hour_lt : hour < 24
  minute_lt : minute < 60
  second_lt : second < 60
  nanosecond_lt : nanosecond < 10 ^ 9
  deriving DecidableEq

/-- The fields of an instant, the greatest first. -/
def Instant.fields (t : Instant) : List Nat :=
  [t.year, t.month, t.day, t.hour, t.minute, t.second, t.nanosecond]

/-- One instant is before another. -/
def Instant.Before (t u : Instant) : Prop := t.fields < u.fields

instance (t u : Instant) : Decidable (t.Before u) := inferInstanceAs (Decidable (_ < _))

/-- The digit of a number below ten. -/
def digit (n : Nat) : Char := Nat.digitChar n

/-- A number in so many digits. -/
def digits : Nat → Nat → List Char
  | 0, _ => []
  | width + 1, n => digit (n / 10 ^ width) :: digits width (n % 10 ^ width)

/-- An hour, without a leading zero. -/
def hourText (hour : Nat) : List Char := if hour < 10 then digits 1 hour else digits 2 hour

/-- The digits of a fraction with the zeros at its end cut off. -/
def trimZeros : List Char → List Char
  | [] => []
  | c :: rest => if c = '0' ∧ trimZeros rest = [] then [] else c :: trimZeros rest

/-- A fraction of a second, in one digit at least. -/
def fraction (nanosecond : Nat) : List Char :=
  digit (nanosecond / 10 ^ 8) :: trimZeros (digits 8 (nanosecond % 10 ^ 8))

/-- An instant as it is printed. -/
def Instant.text (t : Instant) : List Char :=
  digits 4 t.year ++ '-' :: (digits 2 t.month ++ '-' :: (digits 2 t.day ++ ' ' ::
    (hourText t.hour ++ ':' :: (digits 2 t.minute ++ ':' :: (digits 2 t.second ++ '.' ::
      (fraction t.nanosecond ++ " +00:00:00".toList))))))

/-- The text of one hour is after that of a later one. -/
def HourSlips (hour hour' : Nat) : Prop := hour < 10 ∧ 10 ≤ hour' ∧ hour' / 10 ≤ hour

instance (hour hour' : Nat) : Decidable (HourSlips hour hour') := by
  unfold HourSlips
  infer_instance

/-- Two instants of one day whose texts are in the wrong order: the hour of the
    earlier has one digit, which the first digit of the later does not
    exceed. -/
def Instant.Slips (t u : Instant) : Prop :=
  t.year = u.year ∧ t.month = u.month ∧ t.day = u.day ∧ HourSlips t.hour u.hour

instance (t u : Instant) : Decidable (t.Slips u) := by
  unfold Instant.Slips
  infer_instance

theorem digit_lt : ∀ a b : Fin 10, digit a < digit b ↔ a < b := by decide

theorem digit_inj : ∀ a b : Fin 10, digit a = digit b ↔ a = b := by decide

theorem space_lt_digit : ∀ a : Fin 10, ' ' < digit a := by decide

theorem digit_lt_colon : ∀ a : Fin 10, digit a < ':' := by decide

/-- Two numbers below a bound times ten, by their first digit and the rest. -/
theorem lt_by_digit (a b base : Nat) (hbase : 0 < base) :
    a < b ↔ a / base < b / base ∨ (a / base = b / base ∧ a % base < b % base) := by
  have ha := Nat.div_add_mod a base
  have hb := Nat.div_add_mod b base
  have hra := Nat.mod_lt a hbase
  have hrb := Nat.mod_lt b hbase
  constructor
  · intro h
    rcases Nat.lt_or_ge (a / base) (b / base) with hlt | hge
    · exact Or.inl hlt
    · have hle : a / base ≤ b / base := Nat.div_le_div_right (Nat.le_of_lt h)
      have heq : a / base = b / base := Nat.le_antisymm hle hge
      rw [heq] at ha
      exact Or.inr ⟨heq, by omega⟩
  · rintro (hlt | ⟨heq, hlt⟩)
    · by_contra hge
      exact absurd (Nat.div_le_div_right (c := base) (Nat.le_of_not_lt hge)) (by omega)
    · rw [heq] at ha
      omega

/-- The digits of numbers below ten are in their order. -/
theorem digit_lt_iff (a b : Nat) (ha : a < 10) (hb : b < 10) : digit a < digit b ↔ a < b :=
  digit_lt ⟨a, ha⟩ ⟨b, hb⟩

theorem digit_eq_iff (a b : Nat) (ha : a < 10) (hb : b < 10) : digit a = digit b ↔ a = b := by
  have h := digit_inj ⟨a, ha⟩ ⟨b, hb⟩
  rwa [Fin.mk.injEq] at h

theorem eq_by_digit (a b base : Nat) : a = b ↔ a / base = b / base ∧ a % base = b % base := by
  constructor
  · rintro rfl
    exact ⟨rfl, rfl⟩
  · rintro ⟨hdiv, hmod⟩
    rw [← Nat.div_add_mod a base, hdiv, hmod, Nat.div_add_mod]

/-- A number in digits, and what follows it, are in the order of the numbers
    first. -/
theorem digits_append_lt (width a b : Nat) (ha : a < 10 ^ width) (hb : b < 10 ^ width)
    (x y : List Char) :
    digits width a ++ x < digits width b ++ y ↔ a < b ∨ (a = b ∧ x < y) := by
  induction width generalizing a b with
  | zero =>
      have hab : a = b := by omega
      simp [digits, hab]
  | succ width ih =>
      have hbase : 0 < 10 ^ width := Nat.pow_pos (by decide)
      rw [Nat.pow_succ] at ha hb
      have hda : a / 10 ^ width < 10 := Nat.div_lt_of_lt_mul ha
      have hdb : b / 10 ^ width < 10 := Nat.div_lt_of_lt_mul hb
      rw [digits, digits, List.cons_append, List.cons_append, List.cons_lt_cons_iff,
        digit_lt_iff _ _ hda hdb, digit_eq_iff _ _ hda hdb,
        ih _ _ (Nat.mod_lt _ hbase) (Nat.mod_lt _ hbase), lt_by_digit a b _ hbase,
        eq_by_digit a b (10 ^ width)]
      tauto

theorem trimZeros_cons_eq_nil (c : Char) (rest : List Char) :
    trimZeros (c :: rest) = [] ↔ c = '0' ∧ trimZeros rest = [] := by
  rw [trimZeros]
  by_cases h : c = '0' ∧ trimZeros rest = []
  · simp only [h, and_self, if_true]
  · simp only [h, if_false, reduceCtorEq]

/-- Nothing is left of the digits of zero, and of no other number. -/
theorem trimZeros_digits_eq_nil (width n : Nat) (hn : n < 10 ^ width) :
    trimZeros (digits width n) = [] ↔ n = 0 := by
  induction width generalizing n with
  | zero =>
      have hzero : n = 0 := by omega
      simp [digits, trimZeros, hzero]
  | succ width ih =>
      have hbase : 0 < 10 ^ width := Nat.pow_pos (by decide)
      rw [Nat.pow_succ] at hn
      have hd : n / 10 ^ width < 10 := Nat.div_lt_of_lt_mul hn
      have hzero : digit (n / 10 ^ width) = '0' ↔ n / 10 ^ width = 0 :=
        digit_eq_iff _ 0 hd (by decide)
      rw [digits, trimZeros_cons_eq_nil, hzero, ih _ (Nat.mod_lt _ hbase),
        eq_by_digit n 0 (10 ^ width), Nat.zero_div, Nat.zero_mod]

/-- The digits of a number that is not zero, after cutting: the first stays. -/
theorem trimZeros_digits_succ (width n : Nat) (hn : n < 10 ^ (width + 1)) (hne : n ≠ 0) :
    trimZeros (digits (width + 1) n) =
      digit (n / 10 ^ width) :: trimZeros (digits width (n % 10 ^ width)) := by
  have hnil := (trimZeros_digits_eq_nil (width + 1) n hn).not.mpr hne
  rw [digits, trimZeros] at hnil ⊢
  by_cases h : digit (n / 10 ^ width) = '0' ∧ trimZeros (digits width (n % 10 ^ width)) = []
  · exact absurd (if_pos h) hnil
  · exact if_neg h

/-- Digits cut off at the end stay in order before a space. -/
theorem trimZeros_append_lt (width a b : Nat) (ha : a < 10 ^ width) (hb : b < 10 ^ width)
    (x y : List Char) :
    trimZeros (digits width a) ++ ' ' :: x < trimZeros (digits width b) ++ ' ' :: y ↔
      a < b ∨ (a = b ∧ x < y) := by
  induction width generalizing a b with
  | zero =>
      have hab : a = b := by omega
      simp [digits, trimZeros, hab]
  | succ width ih =>
      have hbase : 0 < 10 ^ width := Nat.pow_pos (by decide)
      have hda : a / 10 ^ width < 10 := Nat.div_lt_of_lt_mul ha
      have hdb : b / 10 ^ width < 10 := Nat.div_lt_of_lt_mul hb
      have hspace : ∀ n < 10, ' ' < digit n := fun n hn => space_lt_digit ⟨n, hn⟩
      by_cases hza : a = 0
      · rw [(trimZeros_digits_eq_nil (width + 1) a ha).mpr hza]
        by_cases hzb : b = 0
        · rw [(trimZeros_digits_eq_nil (width + 1) b hb).mpr hzb]
          simp [hza, hzb]
        · -- A number against nothing: its first digit is above the space.
          rw [trimZeros_digits_succ width b hb hzb, List.nil_append, List.cons_append,
            List.cons_lt_cons_iff]
          have hlt : a < b := by omega
          simp only [hspace _ hdb, true_or, hlt]
      · by_cases hzb : b = 0
        · rw [(trimZeros_digits_eq_nil (width + 1) b hb).mpr hzb,
            trimZeros_digits_succ width a ha hza, List.nil_append, List.cons_append,
            List.cons_lt_cons_iff]
          have hasym := lt_asymm (hspace _ hda)
          have hne := (hspace _ hda).ne'
          simp only [hasym, hne, false_and, or_self, false_iff]
          omega
        · rw [trimZeros_digits_succ width a ha hza, trimZeros_digits_succ width b hb hzb,
            List.cons_append, List.cons_append, List.cons_lt_cons_iff,
            digit_lt_iff _ _ hda hdb, digit_eq_iff _ _ hda hdb,
            ih _ _ (Nat.mod_lt _ hbase) (Nat.mod_lt _ hbase), lt_by_digit a b _ hbase,
            eq_by_digit a b (10 ^ width)]
          tauto

/-- A fraction and the space after it are in the order of the fractions. -/
theorem fraction_append_lt (a b : Nat) (ha : a < 10 ^ 9) (hb : b < 10 ^ 9) (x y : List Char) :
    fraction a ++ ' ' :: x < fraction b ++ ' ' :: y ↔ a < b ∨ (a = b ∧ x < y) := by
  have hbase : 0 < 10 ^ 8 := by decide
  have hda : a / 10 ^ 8 < 10 := Nat.div_lt_of_lt_mul ha
  have hdb : b / 10 ^ 8 < 10 := Nat.div_lt_of_lt_mul hb
  rw [fraction, fraction, List.cons_append, List.cons_append, List.cons_lt_cons_iff,
    digit_lt_iff _ _ hda hdb, digit_eq_iff _ _ hda hdb,
    trimZeros_append_lt 8 _ _ (Nat.mod_lt _ hbase) (Nat.mod_lt _ hbase),
    lt_by_digit a b _ hbase, eq_by_digit a b (10 ^ 8)]
  tauto

/-- An hour and the colon after it: in order when both have as many digits,
    else by the first digit, the colon being above every digit. -/
theorem hourText_append_lt (a b : Nat) (ha : a < 24) (hb : b < 24) (x y : List Char) :
    hourText a ++ ':' :: x < hourText b ++ ':' :: y ↔
      (a < b ∧ ¬ HourSlips a b) ∨ HourSlips b a ∨ (a = b ∧ x < y) := by
  have hcolon : ∀ n : Nat, digit (n % 10) < ':' :=
    fun n => digit_lt_colon ⟨n % 10, Nat.mod_lt n (by decide)⟩
  have htwo : ∀ (n : Nat) (z : List Char), digits 2 n ++ ':' :: z =
      digit (n / 10) :: digit (n % 10) :: ':' :: z := by
    intro n z
    simp [digits]
  have hone : ∀ (n : Nat) (z : List Char), digits 1 n ++ ':' :: z = digit n :: ':' :: z := by
    intro n z
    simp [digits]
  by_cases hwa : a < 10
  · by_cases hwb : b < 10
    · have hab : ¬ HourSlips a b := fun h => absurd h.2.1 (by omega)
      have hba : ¬ HourSlips b a := fun h => absurd h.2.1 (by omega)
      rw [hourText, hourText, if_pos hwa, if_pos hwb, digits_append_lt 1 a b hwa hwb,
        List.cons_lt_cons_self]
      simp only [hab, hba, not_false_eq_true, and_true, false_or]
    · -- The first digits decide; if they are equal, a digit stands against the colon.
      rw [hourText, hourText, if_pos hwa, if_neg hwb, hone, htwo, List.cons_lt_cons_iff,
        List.cons_lt_cons_iff, digit_lt_iff _ _ hwa (by omega), digit_eq_iff _ _ hwa (by omega)]
      simp only [lt_asymm (hcolon b), (hcolon b).ne', false_and, or_self, and_false, or_false,
        HourSlips]
      omega
  · by_cases hwb : b < 10
    · rw [hourText, hourText, if_neg hwa, if_pos hwb, hone, htwo, List.cons_lt_cons_iff,
        List.cons_lt_cons_iff, digit_lt_iff _ _ (by omega) hwb, digit_eq_iff _ _ (by omega) hwb]
      simp only [hcolon a, true_or, and_true, HourSlips]
      omega
    · have hab : ¬ HourSlips a b := fun h => hwa h.1
      have hba : ¬ HourSlips b a := fun h => hwb h.1
      rw [hourText, hourText, if_neg hwa, if_neg hwb,
        digits_append_lt 2 a b (by omega) (by omega), List.cons_lt_cons_self]
      simp only [hab, hba, not_false_eq_true, and_true, false_or]

namespace Instant

theorem before_iff (t u : Instant) :
    t.Before u ↔ t.year < u.year ∨ (t.year = u.year ∧ (t.month < u.month ∨
      (t.month = u.month ∧ (t.day < u.day ∨ (t.day = u.day ∧ (t.hour < u.hour ∨
        (t.hour = u.hour ∧ (t.minute < u.minute ∨ (t.minute = u.minute ∧
          (t.second < u.second ∨ (t.second = u.second ∧
            t.nanosecond < u.nanosecond))))))))))) := by
  simp [Before, fields, List.cons_lt_cons_iff]

/-- The texts of two instants, field by field. -/
theorem text_lt_fields (t u : Instant) :
    t.text < u.text ↔ t.year < u.year ∨ (t.year = u.year ∧ (t.month < u.month ∨
      (t.month = u.month ∧ (t.day < u.day ∨ (t.day = u.day ∧
        ((t.hour < u.hour ∧ ¬ HourSlips t.hour u.hour) ∨ HourSlips u.hour t.hour ∨
          (t.hour = u.hour ∧ (t.minute < u.minute ∨ (t.minute = u.minute ∧
            (t.second < u.second ∨ (t.second = u.second ∧
              t.nanosecond < u.nanosecond))))))))))) := by
  have htail : " +00:00:00".toList = ' ' :: "+00:00:00".toList := by decide
  have hmonth : ∀ v : Instant, v.month < 10 ^ 2 := fun v => Nat.lt_trans v.month_lt (by decide)
  have hday : ∀ v : Instant, v.day < 10 ^ 2 := fun v => Nat.lt_trans v.day_lt (by decide)
  have hminute : ∀ v : Instant, v.minute < 10 ^ 2 := fun v => Nat.lt_trans v.minute_lt (by decide)
  have hsecond : ∀ v : Instant, v.second < 10 ^ 2 := fun v => Nat.lt_trans v.second_lt (by decide)
  rw [text, text, digits_append_lt 4 _ _ t.year_lt u.year_lt, List.cons_lt_cons_self,
    digits_append_lt 2 _ _ (hmonth t) (hmonth u), List.cons_lt_cons_self,
    digits_append_lt 2 _ _ (hday t) (hday u), List.cons_lt_cons_self,
    hourText_append_lt _ _ t.hour_lt u.hour_lt,
    digits_append_lt 2 _ _ (hminute t) (hminute u), List.cons_lt_cons_self,
    digits_append_lt 2 _ _ (hsecond t) (hsecond u), List.cons_lt_cons_self, htail,
    fraction_append_lt _ _ t.nanosecond_lt u.nanosecond_lt]
  simp only [lt_irrefl, and_false, or_false]

/-- One instant is printed before another when it is before it and does not
    slip, or when the other slips. -/
theorem text_lt_iff (t u : Instant) :
    t.text < u.text ↔ (t.Before u ∧ ¬ t.Slips u) ∨ u.Slips t := by
  rw [text_lt_fields, before_iff]
  simp only [Slips]
  by_cases hslip : HourSlips t.hour u.hour
  · have hhour : t.hour < u.hour := by
      have := hslip.1
      have := hslip.2.1
      omega
    have hback : ¬ HourSlips u.hour t.hour := fun h => absurd h.1 (by have := hslip.2.1; omega)
    simp only [hslip, hback, and_true, and_false, not_true_eq_false, false_or, or_false]
    omega
  · by_cases hback : HourSlips u.hour t.hour
    · have hhour : u.hour < t.hour := by
        have := hback.1
        have := hback.2.1
        omega
      simp only [hslip, hback, and_true, and_false, not_false_eq_true, true_or, or_true]
      omega
    · simp only [hslip, hback, and_true, and_false, not_false_eq_true, false_or, or_false]

/-- The fields of an instant are all there is to it. -/
theorem fields_inj (t u : Instant) (h : t.fields = u.fields) : t = u := by
  cases t
  cases u
  simpa [fields] using h

theorem before_or_before (t u : Instant) (h : t ≠ u) : t.Before u ∨ u.Before t :=
  lt_or_gt_of_ne (fun heq => h (fields_inj t u heq))

theorem Before.trans (t u v : Instant) (h : t.Before u) (h' : u.Before v) : t.Before v :=
  lt_trans (a := t.fields) h h'

/-- An instant that slips behind another is before it. -/
theorem Slips.before (t u : Instant) (h : t.Slips u) : t.Before u := by
  rw [before_iff]
  have hwide := h.2.2.2.2.1
  have hone := h.2.2.2.1
  exact Or.inr ⟨h.1, Or.inr ⟨h.2.1, Or.inr ⟨h.2.2.1, Or.inl (by omega)⟩⟩⟩

/-- No two instants are printed alike. -/
theorem text_inj (t u : Instant) (h : t.text = u.text) : t = u := by
  by_contra hne
  have hnot : ∀ v w : Instant, v.text = w.text → ¬ v.text < w.text :=
    fun v w hvw hlt => lt_irrefl _ (hvw ▸ hlt)
  have hnt := hnot t u h
  have hnu := hnot u t h.symm
  rw [text_lt_iff] at hnt hnu
  rcases before_or_before t u hne with hb | hb
  · by_cases hs : t.Slips u
    · exact hnu (Or.inr hs)
    · exact hnt (Or.inl ⟨hb, hs⟩)
  · by_cases hs : u.Slips t
    · exact hnt (Or.inr hs)
    · exact hnu (Or.inl ⟨hb, hs⟩)

end Instant

end Data
