import TgDrive.Core.Format

/-!
# What Can Panic

The operations of the source that stop the program when an argument is out of
their range, each as a function that says so: slices, conversions to arrays,
arithmetic on 64-bit integers with overflow checks, division. A cast to a
signed integer does not stop the program but changes a number that does not
fit, so it is counted among them.

## Main definitions

* `Panic`: The ways to stop.
* `checkedSlice`, `checkedDrop`, `checkedInt`: Slices.
* `addUsize`, `subUsize`, `divUsize`, `modUsize`, `castSigned`: Integers.

## Theorems

* `checkedSlice_inside`, `checkedInt_inside`, `addUsize_fits`: Where they do not
  panic.
-/

namespace TgDrive

open Data

/-- The ways to stop the program: an index outside a slice, a slice that does
    not have the length asked for, a sum or a difference that does not fit, a
    division by zero, a cast that changes the number, and a loop that goes on
    past the bound its model has. -/
inductive Panic : Type
  | outOfRange
  | conversion
  | overflow
  | divideByZero
  | cast
  | unending
  deriving DecidableEq

/-- The text of a panic. -/
def Panic.message : Panic → String
  | .outOfRange => "range end index out of range"
  | .conversion => "source slice length does not match destination slice length"
  | .overflow => "attempt to add with overflow"
  | .divideByZero => "attempt to divide by zero"
  | .cast => "number does not fit"
  | .unending => "out of rounds"

theorem length_slice (b : Bytes) (i j : Nat) (hj : j ≤ b.length) : (slice b i j).length = j - i := by
  rw [slice, List.length_take, List.length_drop]
  omega

/-- `&bytes[i..j]`. -/
def checkedSlice (b : Bytes) (i j : Nat) : Except Panic Bytes :=
  if i ≤ j ∧ j ≤ b.length then .ok (slice b i j) else .error .outOfRange

/-- `&bytes[i..]`. -/
def checkedDrop (b : Bytes) (i : Nat) : Except Panic Bytes :=
  if i ≤ b.length then .ok (b.drop i) else .error .outOfRange

/-- `bytes[i..j].try_into().unwrap()`, read as a big-endian integer of `n` bytes. -/
def checkedInt (b : Bytes) (i j n : Nat) : Except Panic Nat := do
  let s ← checkedSlice b i j
  if s.length = n then .ok (fromBe s) else .error .conversion

/-- Addition in `u64` and `usize`, both of 64 bits. -/
def addUsize (a b : Nat) : Except Panic Nat :=
  if a + b < 2 ^ 64 then .ok (a + b) else .error .overflow

/-- Subtraction. -/
def subUsize (a b : Nat) : Except Panic Nat :=
  if b ≤ a then .ok (a - b) else .error .overflow

def divUsize (a b : Nat) : Except Panic Nat :=
  if b = 0 then .error .divideByZero else .ok (a / b)

def modUsize (a b : Nat) : Except Panic Nat :=
  if b = 0 then .error .divideByZero else .ok (a % b)

/-- `n as i64`, for a number that should stay what it is. -/
def castSigned (n : Nat) : Except Panic Nat :=
  if n < 2 ^ 63 then .ok n else .error .cast

theorem ok_bind {ε α β : Type} (a : α) (f : α → Except ε β) : (Except.ok a >>= f) = f a := rfl

theorem error_bind {ε α β : Type} (x : ε) (f : α → Except ε β) :
    ((Except.error x : Except ε α) >>= f) = .error x := rfl

theorem checkedSlice_inside (b : Bytes) (i j : Nat) (hij : i ≤ j) (hj : j ≤ b.length) :
    checkedSlice b i j = .ok (slice b i j) := by
  rw [checkedSlice, if_pos ⟨hij, hj⟩]

theorem checkedInt_inside (b : Bytes) (i j n : Nat) (hij : i ≤ j) (hj : j ≤ b.length)
    (hn : j - i = n) : checkedInt b i j n = .ok (fromBe (slice b i j)) := by
  rw [checkedInt, checkedSlice_inside b i j hij hj, ok_bind, length_slice b i j hj, if_pos hn]

theorem addUsize_fits (a b : Nat) (h : a + b < 2 ^ 64) : addUsize a b = .ok (a + b) := by
  rw [addUsize, if_pos h]

theorem subUsize_fits (a b : Nat) (h : b ≤ a) : subUsize a b = .ok (a - b) := by
  rw [subUsize, if_pos h]

theorem divUsize_fits (a b : Nat) (h : 0 < b) : divUsize a b = .ok (a / b) := by
  rw [divUsize, if_neg (by omega)]

theorem modUsize_fits (a b : Nat) (h : 0 < b) : modUsize a b = .ok (a % b) := by
  rw [modUsize, if_neg (by omega)]

theorem castSigned_fits (n : Nat) (h : n < 2 ^ 63) : castSigned n = .ok n := by
  rw [castSigned, if_pos h]

end TgDrive
