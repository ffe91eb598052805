import Mathlib.Data.List.Induction
import Mathlib.Tactic.Ring

/-!
# Big-Endian Integers

Fixed-width unsigned integers as byte strings, most significant byte first. A
natural number stands for the integer; the width is explicit, and writing a
number that does not fit keeps its low bytes, as a narrowing cast does.

## Main definitions

* `toBe`: The bytes of a number, at a given width.
* `fromBe`: The number a byte string spells.

## Theorems

* `length_toBe`: A written number has the width asked for.
* `fromBe_toBe`: Reading a written number back gives it modulo its width.
* `fromBe_lt`: A byte string spells a number below its width.
* `toBe_fromBe`: Writing a read number back gives the bytes.
-/

namespace Data

/-- The low `n` bytes of a number, most significant first. -/
def toBe : Nat → Nat → List UInt8
  | 0, _ => []
  | n + 1, v => toBe n (v / 256) ++ [UInt8.ofNat v]

/-- The number spelled by a byte string, most significant byte first. -/
def fromBe (l : List UInt8) : Nat := l.foldl (fun acc b => acc * 256 + b.toNat) 0

@[simp] theorem length_toBe (n v : Nat) : (toBe n v).length = n := by
  induction n generalizing v with
  | zero => rfl
  | succ k ih => rw [toBe, List.length_append, ih, List.length_singleton]

theorem fromBe_append_singleton (l : List UInt8) (b : UInt8) :
    fromBe (l ++ [b]) = fromBe l * 256 + b.toNat := by
  rw [fromBe, List.foldl_append]
  rfl

theorem fromBe_toBe (n v : Nat) : fromBe (toBe n v) = v % 256 ^ n := by
  induction n generalizing v with
  | zero =>
      rw [pow_zero, Nat.mod_one]
      rfl
  | succ k ih =>
      rw [toBe, fromBe_append_singleton, ih, UInt8.toNat_ofNat']
      have hsplit : v % 256 ^ (k + 1) = v % 256 + 256 * (v / 256 % 256 ^ k) := by
        rw [pow_succ, Nat.mul_comm, Nat.mod_mul]
      rw [hsplit]
      omega

theorem fromBe_lt (l : List UInt8) : fromBe l < 256 ^ l.length := by
  induction l using List.reverseRecOn with
  | nil => exact Nat.one_pos
  | append_singleton l b ih =>
      rw [fromBe_append_singleton, List.length_append, List.length_singleton, pow_succ]
      have hb := b.toNat_lt
      omega

/-- Writing a read number back gives the bytes it was read from. -/
theorem toBe_fromBe (l : List UInt8) : toBe l.length (fromBe l) = l := by
  induction l using List.reverseRecOn with
  | nil => rfl
  | append_singleton l b ih =>
      have hb := b.toNat_lt
      have hdiv : (fromBe l * 256 + b.toNat) / 256 = fromBe l := by omega
      have hlow : UInt8.ofNat (fromBe l * 256 + b.toNat) = b := by
        apply UInt8.toNat_inj.mp
        rw [UInt8.toNat_ofNat']
        omega
      rw [List.length_append, List.length_singleton, toBe, fromBe_append_singleton, hdiv, ih, hlow]

end Data
