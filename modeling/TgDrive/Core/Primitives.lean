import TgDrive.Data.Chunks
import Mathlib.Algebra.Group.Nat.Defs

/-!
# Third-Party Primitives

The functions the program takes from other crates, as parameters: the SHA-256
digest and the JSON serializer. Each is a class with the function and what
the program relies on. Of the digest it is only that it has 32 bytes; that no
two byte strings collide is never assumed here, and a result that needs it
says so. Of the serializer it is that a value written can be read back.

Hexadecimal text is simple enough to be defined outright.

## Main definitions

* `Bytes`, `Text`: Byte strings and character strings.
* `Sha256`: A 32-byte digest.
* `Serde`: A serializer whose output its parser reads back.
* `hexEncode`: Lower-case hexadecimal text.
* `sha256Hex`: The digest as hexadecimal text.
* `checkedAdd`: Addition of 64-bit integers that panics on overflow.

## Theorems

* `ite_error_eq_ok`: Peeling one check off a chain that succeeded.
* `bind_eq_ok`: Peeling one step off it.
* `checkedAdd_eq_ok`: A sum that fits is the sum.
-/

namespace TgDrive

abbrev Bytes := List UInt8

/-- Character strings, as the list of their characters. -/
abbrev Text := List Char

/-- The SHA-256 digest of a byte string. -/
class Sha256 where
  digest : Bytes → Bytes
  length_digest : ∀ b, (digest b).length = 32

/-- Serialization of a type into some kind of string. -/
class Serde (τ α : Type) where
  ser : α → τ
  de : τ → Option α
  de_ser : ∀ a, de (ser a) = some a

/-- A hexadecimal digit. -/
def hexDigit (n : Nat) : Char :=
  if n < 10 then Char.ofNat (48 + n) else Char.ofNat (87 + n)

/-- Lower-case hexadecimal text, two digits for each byte. -/
def hexEncode (b : Bytes) : Text :=
  b.flatMap (fun x => [hexDigit (x.toNat / 16), hexDigit (x.toNat % 16)])

/-- The digest of a byte string, as hexadecimal text. -/
def sha256Hex [Sha256] (b : Bytes) : Text := hexEncode (Sha256.digest b)

/-- Addition of two 64-bit integers. The program is built with overflow
    checks on, so a sum that does not fit is a panic. -/
def checkedAdd (a b : Nat) : Except String Nat :=
  if a + b < 2 ^ 64 then .ok (a + b) else .error "attempt to add with overflow"

/-- A check that passed: what failed it is false, and the rest succeeded. -/
theorem ite_error_eq_ok {ε α : Type} (c : Prop) [Decidable c] (x : ε) (y : Except ε α) (a : α)
    (h : (if c then .error x else y) = .ok a) : ¬c ∧ y = .ok a := by
  by_cases hc : c
  · rw [if_pos hc] at h
    exact absurd h (by simp only [reduceCtorEq, not_false_eq_true])
  · rw [if_neg hc] at h
    exact ⟨hc, h⟩

/-- Two steps that succeeded, one after the other. -/
theorem bind_eq_ok {ε α β : Type} (x : Except ε α) (f : α → Except ε β) (b : β)
    (h : x >>= f = .ok b) : ∃ a, x = .ok a ∧ f a = .ok b := by
  cases x with
  | error msg => cases h
  | ok a => exact ⟨a, rfl, h⟩

theorem checkedAdd_eq_ok (a b c : Nat) (h : checkedAdd a b = .ok c) :
    c = a + b ∧ a + b < 2 ^ 64 := by
  unfold checkedAdd at h
  by_cases hlt : a + b < 2 ^ 64
  · rw [if_pos hlt, Except.ok.injEq] at h
    exact ⟨h.symm, hlt⟩
  · rw [if_neg hlt] at h
    exact absurd h (by simp only [reduceCtorEq, not_false_eq_true])

end TgDrive
