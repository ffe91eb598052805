import TgDrive.Data.Json

/-!
# Reading Numerals

What the standard library of a systems language does to a text that should be
a number: white space is trimmed off, a suffix is stripped, and the rest is
parsed as an unsigned integer of a fixed width. Parsing goes along the digits
and gives up as soon as the number no longer fits, so it never wraps.

`numeral` says what number such a text denotes, without a width. Parsing with a
width answers it exactly if it is below the bound of the width.

## Main definitions

* `isWhitespace`, `trim`: White space as Unicode has it.
* `stripSuffix`: What precedes a literal suffix.
* `parseUnsigned`: An unsigned integer below a bound.
* `numeral`: The number a text denotes.

## Theorems

* `parseUnsigned_iff`: Parsing answers the number if it fits, and nothing else.
* `mem_or_mem_trim`: What trimming takes away is white space.
-/

namespace Data

/-- The characters with the property `White_Space`. -/
def isWhitespace (c : Char) : Bool :=
  decide ((9 ≤ c.toNat ∧ c.toNat ≤ 13) ∨ (0x2000 ≤ c.toNat ∧ c.toNat ≤ 0x200A) ∨
    c.toNat ∈ [0x20, 0x85, 0xA0, 0x1680, 0x2028, 0x2029, 0x202F, 0x205F, 0x3000])

/-- A text without the white space at its ends. -/
def trim (t : List Char) : List Char :=
  ((t.dropWhile isWhitespace).reverse.dropWhile isWhitespace).reverse

/-- What precedes a literal suffix, if the list ends with it. -/
def stripSuffix {α : Type} [BEq α] (s l : List α) : Option (List α) :=
  (stripPrefix s.reverse l.reverse).map List.reverse

/-- The ways a text fails to be an unsigned integer. -/
inductive ParseIntError : Type
  | empty
  | invalidDigit
  | posOverflow
  deriving DecidableEq

def ParseIntError.message : ParseIntError → String
  | .empty => "cannot parse integer from empty string"
  | .invalidDigit => "invalid digit found in string"
  | .posOverflow => "number too large to fit in target type"

/-- A text without a leading plus sign. -/
def unsigned : List Char → List Char
  | '+' :: rest => rest
  | t => t

/-- The digits of a number below a bound, after those that were read. -/
def parseDigits (bound : Nat) : Nat → List Char → Except ParseIntError Nat
  | n, [] => .ok n
  | n, c :: rest =>
      if c.isDigit then
        if 10 * n + (c.toNat - 48) < bound then
          parseDigits bound (10 * n + (c.toNat - 48)) rest
        else .error .posOverflow
      else .error .invalidDigit

/-- A text as an unsigned integer below a bound. A single sign is not a number. -/
def parseUnsigned (bound : Nat) (t : List Char) : Except ParseIntError Nat :=
  if t = [] then .error .empty
  else if unsigned t = [] then .error .invalidDigit
  else parseDigits bound 0 (unsigned t)

/-- The number that a text denotes, if it is digits after an optional sign. -/
def numeral (t : List Char) : Option Nat :=
  if unsigned t ≠ [] ∧ ∀ c ∈ unsigned t, c.isDigit = true then
    some (Format.spelled (unsigned t))
  else none

theorem mem_dropWhile {α : Type} (p : α → Bool) (l : List α) (a : α) (h : a ∈ l) :
    p a = true ∨ a ∈ l.dropWhile p := by
  rw [← List.takeWhile_append_dropWhile (p := p) (l := l)] at h
  rcases List.mem_append.mp h with h | h
  · exact Or.inl (List.all_eq_true.mp List.all_takeWhile a h)
  · exact Or.inr h

/-- What trimming takes away is white space. -/
theorem mem_or_mem_trim (t : List Char) (c : Char) (h : c ∈ t) :
    isWhitespace c = true ∨ c ∈ trim t := by
  -- The front is trimmed first, then the back of what is left.
  rcases mem_dropWhile isWhitespace t c h with hc | hc
  · exact Or.inl hc
  · rcases mem_dropWhile isWhitespace _ c (List.mem_reverse.mpr hc) with hc | hc
    · exact Or.inl hc
    · exact Or.inr (List.mem_reverse.mpr hc)

section Suffix

variable {α : Type} [BEq α] [LawfulBEq α]

theorem stripSuffix_append (s l : List α) : stripSuffix s (l ++ s) = some l := by
  rw [stripSuffix, List.reverse_append, stripPrefix_append, Option.map_some, List.reverse_reverse]

theorem stripSuffix_eq_some (s l t : List α) (h : stripSuffix s l = some t) : l = t ++ s := by
  rcases Option.map_eq_some_iff.mp h with ⟨r, hr, rfl⟩
  have hl := stripPrefix_eq_some _ _ _ hr
  rw [← List.reverse_reverse l, hl, List.reverse_append, List.reverse_reverse]

omit [LawfulBEq α] in
/-- A list that ends otherwise does not end with a suffix. -/
theorem stripSuffix_other (s t l : List α)
    (h : ∀ r, stripPrefix s.reverse (t.reverse ++ r) = none) : stripSuffix s (l ++ t) = none := by
  rw [stripSuffix, List.reverse_append, h, Option.map_none]

/-- A list that lacks an element of a suffix does not end with it. -/
theorem stripSuffix_eq_none (s l : List α) (a : α) (hs : a ∈ s) (hl : a ∉ l) :
    stripSuffix s l = none := by
  rcases h : stripSuffix s l with _ | t
  · rfl
  · rw [stripSuffix_eq_some s l t h] at hl
    exact absurd (List.mem_append_right t hs) hl

end Suffix

/-- Digits spelled on from a number only make it greater. -/
theorem le_foldl_digits (l : List Char) (n : Nat) :
    n ≤ l.foldl (fun acc c => 10 * acc + (c.toNat - 48)) n := by
  induction l generalizing n with
  | nil => exact Nat.le_refl n
  | cons c rest ih =>
      have hrest := ih (10 * n + (c.toNat - 48))
      rw [List.foldl_cons]
      omega

/-- Digits are read to the number they spell, if it is below the bound. -/
theorem parseDigits_iff (bound : Nat) (l : List Char) (n m : Nat) (hn : n < bound) :
    parseDigits bound n l = .ok m ↔ (∀ c ∈ l, c.isDigit = true) ∧
      l.foldl (fun acc c => 10 * acc + (c.toNat - 48)) n = m ∧ m < bound := by
  induction l generalizing n with
  | nil =>
      rw [parseDigits, Except.ok.injEq, List.foldl_nil]
      constructor
      · intro h
        exact ⟨fun c hc => absurd hc List.not_mem_nil, h, h ▸ hn⟩
      · exact fun h => h.2.1
  | cons c rest ih =>
      rw [parseDigits, List.foldl_cons, List.forall_mem_cons]
      by_cases hdigit : c.isDigit = true
      · rw [if_pos hdigit]
        by_cases hfits : 10 * n + (c.toNat - 48) < bound
        · rw [if_pos hfits, ih _ hfits]
          simp only [hdigit, true_and]
        · -- The number is too great already, and further digits keep it so.
          rw [if_neg hfits]
          have hle := le_foldl_digits rest (10 * n + (c.toNat - 48))
          constructor
          · intro h
            cases h
          · rintro ⟨_, hm, hlt⟩
            omega
      · rw [if_neg hdigit]
        constructor
        · intro h
          cases h
        · intro h
          exact absurd h.1.1 hdigit

/-- Parsing answers the number a text denotes if it is below the bound. -/
theorem parseUnsigned_iff (bound : Nat) (hbound : 0 < bound) (t : List Char) (n : Nat) :
    parseUnsigned bound t = .ok n ↔ numeral t = some n ∧ n < bound := by
  rw [parseUnsigned, numeral]
  by_cases hempty : t = []
  · rw [if_pos hempty, hempty, if_neg (fun h => h.1 rfl)]
    simp only [reduceCtorEq, false_and]
  · rw [if_neg hempty]
    by_cases hsign : unsigned t = []
    · rw [if_pos hsign, if_neg (fun h => h.1 hsign)]
      simp only [reduceCtorEq, false_and]
    · rw [if_neg hsign, parseDigits_iff _ _ _ _ hbound]
      by_cases hdigits : ∀ c ∈ unsigned t, c.isDigit = true
      · rw [if_pos ⟨hsign, hdigits⟩, Option.some.injEq, Format.spelled]
        exact and_iff_right hdigits
      · rw [if_neg (fun h => hdigits h.2)]
        constructor
        · intro h
          exact absurd h.1 hdigits
        · intro h
          cases h.1

/-- A text that denotes a number is made of digits and a sign. -/
theorem mem_numeral (t : List Char) (n : Nat) (h : numeral t = some n) (c : Char) (hc : c ∈ t) :
    c.isDigit = true ∨ c = '+' := by
  rw [numeral] at h
  by_cases hdigits : unsigned t ≠ [] ∧ ∀ c ∈ unsigned t, c.isDigit = true
  · rcases t with _ | ⟨d, rest⟩
    · exact absurd hc List.not_mem_nil
    · -- Only the first character can be a sign.
      by_cases hd : d = '+'
      · rcases List.mem_cons.mp hc with rfl | hrest
        · exact Or.inr hd
        · rw [hd] at hdigits
          exact Or.inl (hdigits.2 c hrest)
      · have hsame : unsigned (d :: rest) = d :: rest := by
          unfold unsigned
          split
          · rename_i heq
            exact absurd (List.cons.inj heq).1 hd
          · rfl
        rw [hsame] at hdigits
        exact Or.inl (hdigits.2 c hc)
  · rw [if_neg hdigits] at h
    cases h

end Data
