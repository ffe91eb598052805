import TgDrive.Data.Chunks
import Mathlib.Data.Nat.Digits.Defs
import Mathlib.Data.Nat.Digits.Lemmas

/-!
# Printing and Reading JSON

Printers of compact JSON together with readers of what they print. A `Format`
carries both and the law that joins them, so a format for a record is put
together from formats for its fields and needs no proof of its own. It also
carries a bound on the printed length and the fact that only ASCII is printed,
which lets the same text be taken for bytes.

A number has no end of its own, so the law asks that what follows does not
continue it. Everything else ends by itself.

Strings are printed as they are where they are printable ASCII without quotes
and backslashes. Any other character is printed by its number.

## Main definitions

* `Format`: A printer and its reader.
* `Format.nat`, `Format.int`, `Format.text`, `Format.either`: Formats of
  values.
* `Format.before`, `Format.after`, `Format.pair`: Literals and sequences.
* `Format.option`, `Format.list`: `null` and arrays.
* `Format.map`: A format carried over to another type.
* `Format.field`, `Format.object`: Records.
* `Format.read`, `Format.readBytes`: Reading a whole string.

## Theorems

* `Format.read_put`, `Format.readBytes_putBytes`: What was printed is read.
-/

namespace Data

/-- A property of the characters of a text is decided along the text. -/
instance decidableText (p : Char → Prop) [DecidablePred p] (l : List Char) :
    Decidable (∀ c ∈ l, p c) :=
  List.decidableBAll p l

/-- A text does not go on with a digit. -/
def Stops (l : List Char) : Prop := ∀ c t, l = c :: t → c.isDigit = false

theorem stops_nil : Stops [] := fun _ _ h => (by cases h)

theorem stops_cons (c : Char) (t : List Char) (h : c.isDigit = false) : Stops (c :: t) := by
  intro c' t' heq
  rw [← (List.cons.inj heq).1]
  exact h

/-- A printer with a reader of what it prints. -/
structure Format (α : Type) where
  put : α → List Char
  get : List Char → Option (α × List Char)
  size : α → Nat
  get_put : ∀ a rest, Stops rest → get (put a ++ rest) = some (a, rest)
  ascii : ∀ a, ∀ c ∈ put a, c.toNat < 128
  length_put : ∀ a, (put a).length ≤ size a

namespace Format

variable {α β : Type}

/-- Read a whole string. -/
def read (F : Format α) (t : List Char) : Option α :=
  match F.get t with
  | some (a, []) => some a
  | _ => none

theorem read_put (F : Format α) (a : α) : F.read (F.put a) = some a := by
  have h := F.get_put a [] stops_nil
  rw [List.append_nil] at h
  rw [read, h]

/-- The printed text as bytes. -/
def putBytes (F : Format α) (a : α) : List UInt8 :=
  (F.put a).map (fun c => UInt8.ofNat c.toNat)

/-- Read a whole byte string. -/
def readBytes (F : Format α) (b : List UInt8) : Option α :=
  F.read (b.map (fun x => Char.ofNat x.toNat))

theorem readBytes_putBytes (F : Format α) (a : α) : F.readBytes (F.putBytes a) = some a := by
  have hsame : (F.putBytes a).map (fun x => Char.ofNat x.toNat) = F.put a := by
    rw [putBytes, List.map_map]
    refine (List.map_congr_left fun c hc => ?_).trans (List.map_id _)
    have hlt := F.ascii a c hc
    have hbyte : (UInt8.ofNat c.toNat).toNat = c.toNat := by
      rw [UInt8.toNat_ofNat', Nat.mod_eq_of_lt (by omega)]
    simp only [Function.comp_apply, hbyte, Char.ofNat_toNat, id_eq]
  rw [readBytes, hsame, read_put]

/-- A literal in front of a value. -/
def before (lit : List Char) (F : Format α) (h : ∀ c ∈ lit, c.toNat < 128) : Format α where
  put a := lit ++ F.put a
  get t := (stripPrefix lit t).bind F.get
  size a := lit.length + F.size a
  get_put := by
    intro a rest hrest
    rw [List.append_assoc, stripPrefix_append, Option.bind_some, F.get_put a rest hrest]
  ascii := by
    intro a c hc
    rcases List.mem_append.mp hc with hc | hc
    · exact h c hc
    · exact F.ascii a c hc
  length_put := by
    intro a
    have hlen := F.length_put a
    rw [List.length_append]
    omega

/-- A literal after a value. It starts with something that no number goes on
    with. -/
def after (F : Format α) (sep : Char) (lit : List Char) (hsep : sep.isDigit = false)
    (h : ∀ c ∈ sep :: lit, c.toNat < 128) : Format α where
  put a := F.put a ++ sep :: lit
  get t := (F.get t).bind (fun p => (stripPrefix (sep :: lit) p.2).map (fun r => (p.1, r)))
  size a := F.size a + (lit.length + 1)
  get_put := by
    intro a rest _
    have hlit := stripPrefix_append (sep :: lit) rest
    rw [List.cons_append] at hlit
    rw [List.append_assoc, List.cons_append, F.get_put a _ (stops_cons sep _ hsep),
      Option.bind_some, hlit, Option.map_some]
  ascii := by
    intro a c hc
    rcases List.mem_append.mp hc with hc | hc
    · exact F.ascii a c hc
    · exact h c hc
  length_put := by
    intro a
    have hlen := F.length_put a
    rw [List.length_append, List.length_cons]
    omega

/-- Two values one after the other, with a comma between. -/
def pair (F : Format α) (G : Format β) : Format (α × β) where
  put p := F.put p.1 ++ ',' :: G.put p.2
  get t := (F.get t).bind (fun p => (stripPrefix [','] p.2).bind (fun r =>
    (G.get r).map (fun q => ((p.1, q.1), q.2))))
  size p := F.size p.1 + G.size p.2 + 1
  get_put := by
    intro p rest hrest
    have hcomma := stripPrefix_append [','] (G.put p.2 ++ rest)
    rw [List.cons_append, List.nil_append] at hcomma
    rw [List.append_assoc, List.cons_append, F.get_put p.1 _ (stops_cons ',' _ rfl),
      Option.bind_some, hcomma, Option.bind_some, G.get_put p.2 rest hrest, Option.map_some]
  ascii := by
    intro p c hc
    rcases List.mem_append.mp hc with hc | hc
    · exact F.ascii p.1 c hc
    · rcases List.mem_cons.mp hc with rfl | hc
      · decide
      · exact G.ascii p.2 c hc
  length_put := by
    intro p
    have hF := F.length_put p.1
    have hG := G.length_put p.2
    rw [List.length_append, List.length_cons]
    omega

/-- A format carried over to a type that the values can be read off. -/
def map (F : Format α) (f : α → β) (g : β → α) (h : ∀ b, f (g b) = b) : Format β where
  put b := F.put (g b)
  get t := (F.get t).map (fun p => (f p.1, p.2))
  size b := F.size (g b)
  get_put := by
    intro b rest hrest
    rw [F.get_put (g b) rest hrest, Option.map_some, h]
  ascii := fun b => F.ascii (g b)
  length_put := fun b => F.length_put (g b)

/-- One of two literals, neither of which begins with the other. -/
def either (t f : List Char) (ht : ∀ c ∈ t, c.toNat < 128) (hf : ∀ c ∈ f, c.toNat < 128)
    (hne : ∀ rest, stripPrefix t (f ++ rest) = none) : Format Bool where
  put b := if b then t else f
  get l := match stripPrefix t l with
    | some rest => some (true, rest)
    | none => (stripPrefix f l).map (fun rest => (false, rest))
  size _ := t.length + f.length
  get_put := by
    intro b rest _
    cases b with
    | true => rw [if_pos rfl, stripPrefix_append]
    | false => rw [if_neg Bool.false_ne_true, hne, stripPrefix_append, Option.map_some]
  ascii := by
    intro b
    cases b with
    | true => exact ht
    | false => exact hf
  length_put := by
    intro b
    cases b with
    | true => exact Nat.le_add_right _ _
    | false => exact Nat.le_add_left _ _

/-- A decimal digit. -/
def digitChar (n : Nat) : Char := Char.ofNat (48 + n)

theorem isDigit_digitChar (n : Nat) (h : n < 10) : (digitChar n).isDigit = true := by
  have hall : ∀ n : Fin 10, (digitChar n).isDigit = true := by decide
  exact hall ⟨n, h⟩

theorem toNat_digitChar (n : Nat) (h : n < 10) : (digitChar n).toNat = 48 + n := by
  have hall : ∀ n : Fin 10, (digitChar n).toNat = 48 + n.val := by decide
  exact hall ⟨n, h⟩

/-- A number in decimal. -/
def decimal (n : Nat) : List Char :=
  if n = 0 then ['0'] else (Nat.digits 10 n).reverse.map digitChar

/-- The number that a run of digits spells. -/
def spelled (l : List Char) : Nat := l.foldl (fun acc c => 10 * acc + (c.toNat - 48)) 0

theorem mem_decimal (n : Nat) (c : Char) (h : c ∈ decimal n) : ∃ d, d < 10 ∧ c = digitChar d := by
  unfold decimal at h
  by_cases hn : n = 0
  · rw [if_pos hn, List.mem_singleton] at h
    exact ⟨0, by omega, h⟩
  · rw [if_neg hn] at h
    rcases List.mem_map.mp h with ⟨d, hd, rfl⟩
    exact ⟨d, Nat.digits_lt_base (by omega) (List.mem_reverse.mp hd), rfl⟩

theorem decimal_ne_nil (n : Nat) : decimal n ≠ [] := by
  unfold decimal
  by_cases hn : n = 0
  · rw [if_pos hn]
    exact List.cons_ne_nil _ _
  · rw [if_neg hn]
    intro h
    rw [List.map_eq_nil_iff, List.reverse_eq_nil_iff, Nat.digits_eq_nil_iff_eq_zero] at h
    exact hn h

theorem spelled_decimal (n : Nat) : spelled (decimal n) = n := by
  unfold decimal
  by_cases hn : n = 0
  · rw [if_pos hn, hn]
    rfl
  · rw [if_neg hn]
    have hdigits : ∀ l : List Nat, (∀ d ∈ l, d < 10) →
        spelled (l.reverse.map digitChar) = Nat.ofDigits 10 l := by
      intro l hl
      induction l with
      | nil => rfl
      | cons d l ih =>
          have hd := toNat_digitChar d (hl d List.mem_cons_self)
          have hrest := ih fun x hx => hl x (List.mem_cons_of_mem d hx)
          rw [List.reverse_cons, List.map_append, spelled, List.foldl_append, ← spelled, hrest,
            List.map_singleton, List.foldl_cons, List.foldl_nil, hd, Nat.ofDigits_cons]
          omega
    rw [hdigits _ fun d hd => Nat.digits_lt_base (by omega) hd, Nat.ofDigits_digits]

theorem length_decimal (n : Nat) : (decimal n).length ≤ n + 1 := by
  unfold decimal
  by_cases hn : n = 0
  · rw [if_pos hn, hn]
    exact Nat.le_refl 1
  · rw [if_neg hn, List.length_map, List.length_reverse, Nat.length_digits 10 n (by omega) hn]
    exact Nat.succ_le_succ (Nat.log_le_self 10 n)

/-- A run of digits ends where something else begins. -/
theorem span_digits (l rest : List Char) (hl : ∀ c ∈ l, c.isDigit = true) (hrest : Stops rest) :
    (l ++ rest).span Char.isDigit = (l, rest) := by
  rw [List.span_eq_takeWhile_dropWhile, List.takeWhile_append_of_pos hl,
    List.dropWhile_append_of_pos hl]
  cases rest with
  | nil => rw [List.takeWhile_nil, List.dropWhile_nil, List.append_nil]
  | cons c t =>
      have hc := hrest c t rfl
      rw [List.takeWhile_cons_of_neg (by rw [hc]; exact Bool.false_ne_true),
        List.dropWhile_cons_of_neg (by rw [hc]; exact Bool.false_ne_true), List.append_nil]

theorem digit_of_mem_decimal (n : Nat) : ∀ c ∈ decimal n, c.isDigit = true := by
  intro c hc
  rcases mem_decimal n c hc with ⟨d, hd, rfl⟩
  exact isDigit_digitChar d hd

theorem ascii_decimal (n : Nat) : ∀ c ∈ decimal n, c.toNat < 128 := by
  intro c hc
  rcases mem_decimal n c hc with ⟨d, hd, rfl⟩
  rw [toNat_digitChar d hd]
  omega

/-- A natural number. -/
def nat : Format Nat where
  put := decimal
  get t := match t.span Char.isDigit with
    | ([], _) => none
    | (l, rest) => some (spelled l, rest)
  size n := n + 1
  get_put := by
    intro n rest hrest
    rw [span_digits _ rest (digit_of_mem_decimal n) hrest]
    rcases hd : decimal n with _ | ⟨c, t⟩
    · exact absurd hd (decimal_ne_nil n)
    · simp only [← hd, spelled_decimal]
  ascii := ascii_decimal
  length_put := length_decimal

/-- An integer. -/
def int : Format Int where
  put i := if i < 0 then '-' :: decimal i.natAbs else decimal i.natAbs
  get t := match t with
    | '-' :: t => (nat.get t).map (fun p => (-(p.1 : Int), p.2))
    | t => (nat.get t).map (fun p => ((p.1 : Int), p.2))
  size i := i.natAbs + 2
  get_put := by
    intro i rest hrest
    have hget := nat.get_put i.natAbs rest hrest
    by_cases hi : i < 0
    · rw [if_pos hi, List.cons_append]
      change (nat.get (nat.put i.natAbs ++ rest)).map _ = _
      rw [hget, Option.map_some, Option.some.injEq, Prod.mk.injEq]
      exact ⟨by omega, rfl⟩
    · rw [if_neg hi]
      rcases hd : decimal i.natAbs with _ | ⟨c, t⟩
      · exact absurd hd (decimal_ne_nil _)
      · -- A digit is not a sign.
        have hc : c ≠ '-' := by
          intro hc
          have hdigit := digit_of_mem_decimal i.natAbs c (by rw [hd]; exact List.mem_cons_self)
          rw [hc] at hdigit
          exact absurd hdigit (by decide)
        have hput : nat.put i.natAbs = c :: t := hd
        rw [hput, List.cons_append] at hget
        rw [List.cons_append]
        split
        · rename_i heq
          exact absurd (List.cons.inj heq).1 hc
        · rw [hget, Option.map_some, Option.some.injEq, Prod.mk.injEq]
          exact ⟨by omega, rfl⟩
  ascii := by
    intro i c hc
    by_cases hi : i < 0
    · rw [if_pos hi] at hc
      rcases List.mem_cons.mp hc with rfl | hc
      · decide
      · exact ascii_decimal _ c hc
    · rw [if_neg hi] at hc
      exact ascii_decimal _ c hc
  length_put := by
    intro i
    have hlen := length_decimal i.natAbs
    by_cases hi : i < 0
    · rw [if_pos hi, List.length_cons]
      omega
    · rw [if_neg hi]
      omega

/-- A character that stands for itself in a string. -/
def plain (c : Char) : Bool :=
  32 ≤ c.toNat && c.toNat < 127 && c != '"' && c != '\\'

/-- The sixteen digits, and the way back. -/
def nibble (n : Nat) : Char := Char.ofNat (if n < 10 then 48 + n else 87 + n)

def nibbleValue (c : Char) : Nat := if c.toNat < 58 then c.toNat - 48 else c.toNat - 87

theorem nibbleValue_nibble (n : Nat) (h : n < 16) : nibbleValue (nibble n) = n := by
  have hall : ∀ n : Fin 16, nibbleValue (nibble n) = n.val := by decide
  exact hall ⟨n, h⟩

theorem ascii_nibble (n : Nat) (h : n < 16) : (nibble n).toNat < 128 := by
  have hall : ∀ n : Fin 16, (nibble n).toNat < 128 := by decide
  exact hall ⟨n, h⟩

/-- A character inside a string. -/
def escape (c : Char) : List Char :=
  if plain c then [c]
  else '\\' :: [nibble (c.toNat / 2 ^ 20 % 16), nibble (c.toNat / 2 ^ 16 % 16),
    nibble (c.toNat / 2 ^ 12 % 16), nibble (c.toNat / 2 ^ 8 % 16),
    nibble (c.toNat / 2 ^ 4 % 16), nibble (c.toNat % 16)]

/-- The characters up to the closing quote. -/
def unescape : List Char → Option (List Char × List Char)
  | [] => none
  | '"' :: rest => some ([], rest)
  | '\\' :: a :: b :: c :: d :: e :: f :: rest =>
      (unescape rest).map (fun p => (Char.ofNat (nibbleValue a * 2 ^ 20 + nibbleValue b * 2 ^ 16 +
        nibbleValue c * 2 ^ 12 + nibbleValue d * 2 ^ 8 + nibbleValue e * 2 ^ 4 +
        nibbleValue f) :: p.1, p.2))
  | c :: rest => (unescape rest).map (fun p => (c :: p.1, p.2))

theorem plain_ne (c : Char) (h : plain c = true) : c ≠ '"' ∧ c ≠ '\\' ∧ c.toNat < 127 := by
  simp only [plain, Bool.and_eq_true, bne_iff_ne, ne_eq, decide_eq_true_eq] at h
  exact ⟨h.1.2, h.2, h.1.1.2⟩

theorem unescape_plain (c : Char) (rest : List Char) (h : plain c = true) :
    unescape (c :: rest) = (unescape rest).map (fun p => (c :: p.1, p.2)) := by
  rcases plain_ne c h with ⟨hquote, hslash, _⟩
  rw [unescape.eq_def]
  split
  · rename_i heq
    cases heq
  · rename_i heq
    exact absurd (List.cons.inj heq).1 hquote
  · rename_i heq
    exact absurd (List.cons.inj heq).1 hslash
  · rename_i heq
    rw [(List.cons.inj heq).1, (List.cons.inj heq).2]

/-- A number of 24 bits from its six digits. -/
theorem nibbles_eq (n : Nat) (h : n < 2 ^ 24) :
    n / 2 ^ 20 % 16 * 2 ^ 20 + n / 2 ^ 16 % 16 * 2 ^ 16 + n / 2 ^ 12 % 16 * 2 ^ 12 +
      n / 2 ^ 8 % 16 * 2 ^ 8 + n / 2 ^ 4 % 16 * 2 ^ 4 + n % 16 = n := by
  omega

theorem unescape_escape (c : Char) (rest : List Char) :
    unescape (escape c ++ rest) = (unescape rest).map (fun p => (c :: p.1, p.2)) := by
  by_cases hp : plain c = true
  · rw [escape, if_pos hp]
    exact unescape_plain c rest hp
  · have hn : c.toNat < 2 ^ 24 := by
      have hvalid := c.valid
      have hval : c.toNat = c.val.toNat := rfl
      unfold UInt32.isValidChar Nat.isValidChar at hvalid
      omega
    have hdigit : ∀ n, nibbleValue (nibble (n % 16)) = n % 16 := fun n =>
      nibbleValue_nibble _ (Nat.mod_lt n (by omega))
    rw [escape, if_neg hp]
    simp only [List.cons_append, List.nil_append, unescape, hdigit, nibbles_eq _ hn,
      Char.ofNat_toNat]

/-- A string. -/
def text : Format (List Char) where
  put l := '"' :: (l.flatMap escape ++ ['"'])
  get t := (stripPrefix ['"'] t).bind unescape
  size l := 7 * l.length + 2
  get_put := by
    intro l rest _
    have hopen := stripPrefix_append ['"'] (l.flatMap escape ++ ['"'] ++ rest)
    rw [List.cons_append, List.nil_append] at hopen
    rw [List.cons_append, hopen, Option.bind_some, List.append_assoc]
    induction l with
    | nil => rfl
    | cons c l ih =>
        rw [List.flatMap_cons, List.append_assoc, unescape_escape, ih (stripPrefix_append _ _),
          Option.map_some]
  ascii := by
    intro l c hc
    rcases List.mem_cons.mp hc with rfl | hc
    · decide
    · rcases List.mem_append.mp hc with hc | hc
      · rcases List.mem_flatMap.mp hc with ⟨x, _, hx⟩
        unfold escape at hx
        by_cases hp : plain x = true
        · rw [if_pos hp, List.mem_singleton] at hx
          have hlt := (plain_ne x hp).2.2
          rw [hx]
          omega
        · rw [if_neg hp] at hx
          have hnib : ∀ n, (nibble (n % 16)).toNat < 128 := fun n =>
            ascii_nibble _ (Nat.mod_lt n (by omega))
          simp only [List.mem_cons, List.not_mem_nil, or_false] at hx
          rcases hx with rfl | rfl | rfl | rfl | rfl | rfl | rfl
          · decide
          all_goals exact hnib _
      · rw [List.mem_singleton.mp hc]
        decide
  length_put := by
    intro l
    have hescape : ∀ c, (escape c).length ≤ 7 := by
      intro c
      unfold escape
      by_cases hp : plain c = true
      · rw [if_pos hp]
        exact (by decide : 1 ≤ 7)
      · rw [if_neg hp]
        exact Nat.le_refl 7
    have hall : (l.flatMap escape).length ≤ 7 * l.length := by
      induction l with
      | nil => exact Nat.le_refl 0
      | cons c l ih =>
          have hc := hescape c
          rw [List.flatMap_cons, List.length_append, List.length_cons]
          omega
    rw [List.length_cons, List.length_append, List.length_singleton]
    omega

/-- A value that may be `null`. -/
def option (F : Format α) (h : ∀ a rest, stripPrefix "null".toList (F.put a ++ rest) = none) :
    Format (Option α) where
  put o := match o with
    | none => "null".toList
    | some a => F.put a
  get t := match stripPrefix "null".toList t with
    | some rest => some (none, rest)
    | none => (F.get t).map (fun p => (some p.1, p.2))
  size o := match o with
    | none => 4
    | some a => F.size a
  get_put := by
    intro o rest hrest
    cases o with
    | none => rw [stripPrefix_append]
    | some a => rw [h, F.get_put a rest hrest, Option.map_some]
  ascii := by
    intro o
    cases o with
    | none => exact (by decide : ∀ c ∈ "null".toList, c.toNat < 128)
    | some a => exact F.ascii a
  length_put := by
    intro o
    cases o with
    | none => exact Nat.le_refl 4
    | some a => exact F.length_put a

/-- The elements of an array after the first, and the closing bracket. -/
def putRest (F : Format α) : List α → List Char
  | [] => [']']
  | a :: l => ',' :: (F.put a ++ putRest F l)

/-- Read what follows the first element of an array, which has no more
    elements than a given number. -/
def getRest (F : Format α) : Nat → List Char → Option (List α × List Char)
  | _, ']' :: t => some ([], t)
  | n + 1, ',' :: t => (F.get t).bind (fun p =>
      (getRest F n p.2).map (fun q => (p.1 :: q.1, q.2)))
  | _, _ => none

theorem stops_putRest (F : Format α) (l : List α) (rest : List Char) :
    Stops (putRest F l ++ rest) := by
  cases l with
  | nil => exact stops_cons ']' _ rfl
  | cons a l => exact stops_cons ',' _ rfl

theorem getRest_putRest (F : Format α) (l : List α) (rest : List Char) (n : Nat)
    (hn : l.length ≤ n) : getRest F n (putRest F l ++ rest) = some (l, rest) := by
  induction l generalizing n with
  | nil => cases n <;> rfl
  | cons a l ih =>
      cases n with
      | zero => exact absurd hn (Nat.not_succ_le_zero _)
      | succ n =>
          rw [putRest, List.cons_append, getRest, List.append_assoc,
            F.get_put a _ (stops_putRest F l rest), Option.bind_some,
            ih n (Nat.le_of_succ_le_succ hn), Option.map_some]

theorem length_le_putRest (F : Format α) (l : List α) : l.length ≤ (putRest F l).length := by
  induction l with
  | nil => exact Nat.zero_le _
  | cons a l ih =>
      rw [putRest, List.length_cons, List.length_cons, List.length_append]
      omega

/-- An array, of values that print as something other than its end. -/
def list (F : Format α) (h : ∀ a rest, stripPrefix [']'] (F.put a ++ rest) = none) :
    Format (List α) where
  put l := match l with
    | [] => "[]".toList
    | a :: l => '[' :: (F.put a ++ putRest F l)
  get t := (stripPrefix ['['] t).bind (fun r => match stripPrefix [']'] r with
    | some rest => some ([], rest)
    | none => (F.get r).bind (fun p =>
        (getRest F p.2.length p.2).map (fun q => (p.1 :: q.1, q.2))))
  size l := (l.map (fun a => F.size a + 1)).sum + 2
  get_put := by
    intro l rest _
    cases l with
    | nil => rfl
    | cons a l =>
        have hopen := stripPrefix_append ['['] (F.put a ++ putRest F l ++ rest)
        rw [List.cons_append, List.nil_append] at hopen
        simp only []
        rw [List.cons_append, hopen, Option.bind_some, List.append_assoc]
        simp only [h]
        rw [F.get_put a _ (stops_putRest F l rest), Option.bind_some, getRest_putRest,
          Option.map_some]
        have hlen := length_le_putRest F l
        rw [List.length_append]
        omega
  ascii := by
    have hrest : ∀ l : List α, ∀ c ∈ putRest F l, c.toNat < 128 := by
      intro l
      induction l with
      | nil => exact (by decide : ∀ c ∈ [']'], c.toNat < 128)
      | cons a l ih =>
          intro c hc
          rcases List.mem_cons.mp hc with rfl | hc
          · decide
          · rcases List.mem_append.mp hc with hc | hc
            · exact F.ascii a c hc
            · exact ih c hc
    intro l
    cases l with
    | nil => exact (by decide : ∀ c ∈ "[]".toList, c.toNat < 128)
    | cons a l =>
        intro c hc
        rcases List.mem_cons.mp hc with rfl | hc
        · decide
        · rcases List.mem_append.mp hc with hc | hc
          · exact F.ascii a c hc
          · exact hrest l c hc
  length_put := by
    have hrest : ∀ l : List α,
        (putRest F l).length ≤ (l.map (fun a => F.size a + 1)).sum + 1 := by
      intro l
      induction l with
      | nil => exact Nat.le_refl 1
      | cons a l ih =>
          have ha := F.length_put a
          rw [putRest, List.length_cons, List.length_append, List.map_cons, List.sum_cons]
          omega
    intro l
    cases l with
    | nil => exact Nat.le_refl 2
    | cons a l =>
        have ha := F.length_put a
        have hl := hrest l
        simp only [List.length_cons, List.length_append, List.map_cons, List.sum_cons]
        omega

/-- A boolean. -/
def bool : Format Bool := either "true".toList "false".toList (by decide) (by decide)
  (fun _ => rfl)

/-- A field of a record. -/
def field (name : List Char) (F : Format α) (h : ∀ c ∈ name, c.toNat < 128) : Format α :=
  before ('"' :: (name ++ ['"', ':'])) F (by
    intro c hc
    rcases List.mem_cons.mp hc with rfl | hc
    · decide
    · rcases List.mem_append.mp hc with hc | hc
      · exact h c hc
      · simp only [List.mem_cons, List.not_mem_nil, or_false] at hc
        rcases hc with rfl | rfl
        · decide
        · decide)

/-- A record, of its fields. -/
def object (F : Format α) : Format α :=
  before ['{'] (after F '}' [] rfl (by decide)) (by decide)

/-- A literal is not found where something else begins. -/
theorem stripPrefix_ne (c d : Char) (t l : List Char) (h : c ≠ d) :
    stripPrefix (c :: t) (d :: l) = none := by
  rw [stripPrefix, if_neg]
  intro hp
  rw [List.isPrefixOf_cons_cons, Bool.and_eq_true, beq_iff_eq] at hp
  exact h hp.1

theorem object_head (F : Format α) (a : α) (c : Char) (t : List Char) (hc : c ≠ '{')
    (rest : List Char) : stripPrefix (c :: t) ((object F).put a ++ rest) = none :=
  stripPrefix_ne c '{' t _ hc

theorem text_head (l : List Char) (c : Char) (t : List Char) (hc : c ≠ '"')
    (rest : List Char) : stripPrefix (c :: t) (text.put l ++ rest) = none :=
  stripPrefix_ne c '"' t _ hc

theorem nat_head (n : Nat) (c : Char) (t : List Char) (hc : c.isDigit = false)
    (rest : List Char) : stripPrefix (c :: t) (nat.put n ++ rest) = none := by
  have hdigit := digit_of_mem_decimal n
  change stripPrefix (c :: t) (decimal n ++ rest) = none
  rcases hd : decimal n with _ | ⟨d, l⟩
  · exact absurd hd (decimal_ne_nil n)
  · refine stripPrefix_ne c d t _ fun hcd => ?_
    rw [hd] at hdigit
    rw [hcd, hdigit d List.mem_cons_self] at hc
    cases hc

theorem int_head (i : Int) (c : Char) (t : List Char) (hc : c.isDigit = false) (hsign : c ≠ '-')
    (rest : List Char) : stripPrefix (c :: t) (int.put i ++ rest) = none := by
  change stripPrefix (c :: t) ((if i < 0 then '-' :: decimal i.natAbs else decimal i.natAbs)
    ++ rest) = none
  by_cases hi : i < 0
  · rw [if_pos hi]
    exact stripPrefix_ne c '-' t _ hsign
  · rw [if_neg hi]
    exact nat_head i.natAbs c t hc rest

end Format

end Data
