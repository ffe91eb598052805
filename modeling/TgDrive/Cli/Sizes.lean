import TgDrive.Cli.Format
import TgDrive.Data.Numeral

/-!
# Sizes on the Command Line

`parse_size`, and the commands that take sizes as texts. A text is a number in
one of seven units; the number has to fit 64 bits, but its product with the
unit need not. With overflow checks the product is a panic then, and without
them it wraps. The size of an object is cast to 32 bits afterwards, with or
without checks, and what is cut off is lost before the configuration is
checked. The configuration file and the environment take the same size as a
32-bit integer and refuse what does not fit.

So the sizes that a command goes on with are those it was given exactly if they
fit the fields they are for.

## Main definitions

* `Profile`, `mulU64`: Multiplication with and without overflow checks.
* `parseSize`: A size given as a text.
* `SizeUnit`, `Denotes`: The number that a text denotes.
* `Config.withSizes`, `formatSized`: The command `format` with its sizes.
* `Stated`, `FitsIn`: The size that was given, and one that fits.
* `FormattedAs`: A device with the sizes of a configuration.

## Theorems

* `denotes_iff`, `denotes_unique`: A text denotes one number at most.
* `parseSize_ok`: What is parsed is the number that is denoted, wrapped.
* `parseSize_dev_iff`: With overflow checks it is that number.
* `withSizes_exact_iff`: When a command goes on with the sizes it was given.
* `wp_format_as`, `wp_formatSized`: What a format does with them.
* `exec_formatSized`: When it ends well.
-/

namespace TgDrive

open Data Effect

/-- How the program was built: with overflow checks or without. -/
inductive Profile : Type
  | dev
  | release
  deriving DecidableEq

/-- Multiplication of two 64-bit integers. -/
def mulU64 (profile : Profile) (a b : Nat) : Except String Nat :=
  if a * b < 2 ^ 64 then .ok (a * b)
  else match profile with
  | .dev => .error "attempt to multiply with overflow"
  | .release => .ok (a * b % 2 ^ 64)

/-- The number of a size and what it is multiplied by. -/
def splitUnit (trimmed : Text) : Text × Nat :=
  match stripSuffix "MiB".toList trimmed with
  | some number => (number, 1024 * 1024)
  | none => match stripSuffix "GiB".toList trimmed with
  | some number => (number, 1024 * 1024 * 1024)
  | none => match stripSuffix "KiB".toList trimmed with
  | some number => (number, 1024)
  | none => match stripSuffix "M".toList trimmed with
  | some number => (number, 1000 * 1000)
  | none => match stripSuffix "G".toList trimmed with
  | some number => (number, 1000 * 1000 * 1000)
  | none => match stripSuffix "K".toList trimmed with
  | some number => (number, 1000)
  | none => (trimmed, 1)

def parseSize (profile : Profile) (input : Text) : Except String Nat :=
  let (number, multiplier) := splitUnit (trim input)
  match parseUnsigned (2 ^ 64) (trim number) with
  | .ok number => mulU64 profile number multiplier
  | .error failure => .error failure.message

/-- The units of a size. -/
inductive SizeUnit : Type
  | mib
  | gib
  | kib
  | mega
  | giga
  | kilo
  | byte
  deriving DecidableEq

namespace SizeUnit

def suffix : SizeUnit → Text
  | .mib => "MiB".toList
  | .gib => "GiB".toList
  | .kib => "KiB".toList
  | .mega => "M".toList
  | .giga => "G".toList
  | .kilo => "K".toList
  | .byte => []

def multiplier : SizeUnit → Nat
  | .mib => 1024 ^ 2
  | .gib => 1024 ^ 3
  | .kib => 1024
  | .mega => 1000 ^ 2
  | .giga => 1000 ^ 3
  | .kilo => 1000
  | .byte => 1

end SizeUnit

/-- A text denotes a size: it is a decimal number in a unit, up to white space
    around the number and around the whole. -/
def Denotes (input : Text) (size : Nat) : Prop :=
  ∃ (unit : SizeUnit) (number : Text) (n : Nat), trim input = number ++ unit.suffix ∧
    numeral (trim number) = some n ∧ size = n * unit.multiplier

/-- What is split off a text is a unit. -/
theorem splitUnit_sound (t : Text) : ∃ unit : SizeUnit,
    t = (splitUnit t).1 ++ unit.suffix ∧ (splitUnit t).2 = unit.multiplier := by
  unfold splitUnit
  split
  · exact ⟨.mib, stripSuffix_eq_some _ _ _ ‹_›, rfl⟩
  · split
    · exact ⟨.gib, stripSuffix_eq_some _ _ _ ‹_›, rfl⟩
    · split
      · exact ⟨.kib, stripSuffix_eq_some _ _ _ ‹_›, rfl⟩
      · split
        · exact ⟨.mega, stripSuffix_eq_some _ _ _ ‹_›, rfl⟩
        · split
          · exact ⟨.giga, stripSuffix_eq_some _ _ _ ‹_›, rfl⟩
          · split
            · exact ⟨.kilo, stripSuffix_eq_some _ _ _ ‹_›, rfl⟩
            · exact ⟨.byte, (List.append_nil t).symm, rfl⟩

/-- The number of a size has no letter in it. -/
theorem letter_not_mem (number : Text) (n : Nat) (h : numeral (trim number) = some n) (c : Char)
    (hspace : isWhitespace c = false) (hdigit : c.isDigit = false) (hsign : c ≠ '+') :
    c ∉ number := by
  intro hmem
  rcases mem_or_mem_trim number c hmem with hc | hc
  · rw [hspace] at hc
    cases hc
  · rcases mem_numeral _ n h c hc with hc | hc
    · rw [hdigit] at hc
      cases hc
    · exact hsign hc

/-- A number in a unit is split there. -/
theorem splitUnit_complete (unit : SizeUnit) (number : Text) (n : Nat)
    (h : numeral (trim number) = some n) :
    splitUnit (number ++ unit.suffix) = (number, unit.multiplier) := by
  -- A longer unit is looked for first, and ends in another letter.
  cases unit with
  | mib => rw [splitUnit, SizeUnit.suffix, stripSuffix_append]; rfl
  | gib =>
      rw [splitUnit, SizeUnit.suffix, stripSuffix_other _ _ _ (fun _ => rfl), stripSuffix_append]
      rfl
  | kib =>
      rw [splitUnit, SizeUnit.suffix, stripSuffix_other _ _ _ (fun _ => rfl),
        stripSuffix_other _ _ _ (fun _ => rfl), stripSuffix_append]
      rfl
  | mega =>
      rw [splitUnit, SizeUnit.suffix, stripSuffix_other _ _ _ (fun _ => rfl),
        stripSuffix_other _ _ _ (fun _ => rfl), stripSuffix_other _ _ _ (fun _ => rfl),
        stripSuffix_append]
      rfl
  | giga =>
      rw [splitUnit, SizeUnit.suffix, stripSuffix_other _ _ _ (fun _ => rfl),
        stripSuffix_other _ _ _ (fun _ => rfl), stripSuffix_other _ _ _ (fun _ => rfl),
        stripSuffix_other _ _ _ (fun _ => rfl), stripSuffix_append]
      rfl
  | kilo =>
      rw [splitUnit, SizeUnit.suffix, stripSuffix_other _ _ _ (fun _ => rfl),
        stripSuffix_other _ _ _ (fun _ => rfl), stripSuffix_other _ _ _ (fun _ => rfl),
        stripSuffix_other _ _ _ (fun _ => rfl), stripSuffix_other _ _ _ (fun _ => rfl),
        stripSuffix_append]
      rfl
  | byte =>
      have hletter := letter_not_mem number n h
      have hb := hletter 'B' (by decide) (by decide) (by decide)
      have hm := hletter 'M' (by decide) (by decide) (by decide)
      have hg := hletter 'G' (by decide) (by decide) (by decide)
      have hk := hletter 'K' (by decide) (by decide) (by decide)
      rw [SizeUnit.suffix, List.append_nil, splitUnit,
        stripSuffix_eq_none _ _ 'B' (by decide) hb, stripSuffix_eq_none _ _ 'B' (by decide) hb,
        stripSuffix_eq_none _ _ 'B' (by decide) hb, stripSuffix_eq_none _ _ 'M' (by decide) hm,
        stripSuffix_eq_none _ _ 'G' (by decide) hg, stripSuffix_eq_none _ _ 'K' (by decide) hk]
      rfl

/-- What a text denotes is what is split off it, as a number of units. -/
theorem denotes_iff (t : Text) (size : Nat) : Denotes t size ↔
    ∃ n, numeral (trim (splitUnit (trim t)).1) = some n ∧ size = n * (splitUnit (trim t)).2 := by
  constructor
  · rintro ⟨unit, number, n, ht, hn, hsize⟩
    rw [ht, splitUnit_complete unit number n hn]
    exact ⟨n, hn, hsize⟩
  · rintro ⟨n, hn, hsize⟩
    rcases splitUnit_sound (trim t) with ⟨unit, ht, hunit⟩
    exact ⟨unit, _, n, ht, hn, hunit ▸ hsize⟩

theorem denotes_unique (t : Text) (a b : Nat) (ha : Denotes t a) (hb : Denotes t b) : a = b := by
  rcases (denotes_iff t a).mp ha with ⟨n, hn, ha⟩
  rcases (denotes_iff t b).mp hb with ⟨n', hn', hb⟩
  rw [hn, Option.some.injEq] at hn'
  rw [ha, hb, hn']

/-- What is parsed is the number that is denoted, wrapped. -/
theorem parseSize_ok (profile : Profile) (t : Text) (parsed : Nat)
    (h : parseSize profile t = .ok parsed) : ∃ size, Denotes t size ∧ parsed = size % 2 ^ 64 := by
  unfold parseSize at h
  rcases hn : parseUnsigned (2 ^ 64) (trim (splitUnit (trim t)).1) with failure | n
  · simp only [hn, reduceCtorEq] at h
  · simp only [hn] at h
    have hnumeral := ((parseUnsigned_iff _ (by omega) _ n).mp hn).1
    refine ⟨_, (denotes_iff t _).mpr ⟨n, hnumeral, rfl⟩, ?_⟩
    -- The number fits, its product with the unit may not.
    unfold mulU64 at h
    by_cases hfits : n * (splitUnit (trim t)).2 < 2 ^ 64
    · rw [if_pos hfits] at h
      rw [← Except.ok.inj h, Nat.mod_eq_of_lt hfits]
    · rw [if_neg hfits] at h
      cases profile with
      | dev => cases h
      | release => exact (Except.ok.inj h).symm

/-- A parsed size cut down to some bits is what was denoted exactly if that
    fits. -/
theorem denotes_cut_iff (profile : Profile) (t : Text) (parsed bits : Nat) (hbits : bits ≤ 64)
    (h : parseSize profile t = .ok parsed) :
    Denotes t (parsed % 2 ^ bits) ↔ ∃ size, Denotes t size ∧ size < 2 ^ bits := by
  rcases parseSize_ok profile t parsed h with ⟨size, hsize, hparsed⟩
  -- Wrapping before the cut changes nothing, the cut being the narrower one.
  have hcut : parsed % 2 ^ bits = size % 2 ^ bits := by
    rw [hparsed, Nat.mod_mod_of_dvd _ (Nat.pow_dvd_pow 2 hbits)]
  constructor
  · intro hexact
    exact ⟨_, hexact, Nat.mod_lt _ (Nat.two_pow_pos bits)⟩
  · rintro ⟨size', hsize', hlt⟩
    rw [hcut, denotes_unique t size size' hsize hsize', Nat.mod_eq_of_lt hlt]
    exact hsize'

/-- With overflow checks a size is taken exactly or refused. -/
theorem parseSize_dev_iff (t : Text) (size : Nat) :
    parseSize .dev t = .ok size ↔ Denotes t size ∧ size < 2 ^ 64 := by
  rw [denotes_iff]
  have hpos : 0 < (splitUnit (trim t)).2 := by
    rcases splitUnit_sound (trim t) with ⟨unit, _, hunit⟩
    rw [hunit]
    cases unit with
    | _ => decide
  unfold parseSize
  rcases hn : parseUnsigned (2 ^ 64) (trim (splitUnit (trim t)).1) with failure | n
  · -- The number alone does not fit, or there is none.
    simp only [hn, reduceCtorEq, false_iff]
    rintro ⟨⟨n, hnumeral, hsize⟩, hlt⟩
    have hle : n ≤ size := by
      rw [hsize]
      exact Nat.le_mul_of_pos_right n hpos
    have hok := (parseUnsigned_iff (2 ^ 64) (by omega) _ n).mpr ⟨hnumeral, by omega⟩
    rw [hn] at hok
    cases hok
  · have hnumeral := ((parseUnsigned_iff _ (by omega) _ n).mp hn).1
    simp only [hn, hnumeral, Option.some.injEq, exists_eq_left']
    unfold mulU64
    by_cases hfits : n * (splitUnit (trim t)).2 < 2 ^ 64
    · rw [if_pos hfits, Except.ok.injEq]
      constructor
      · intro h
        rw [← h]
        exact ⟨rfl, hfits⟩
      · exact fun h => h.1.symm
    · rw [if_neg hfits]
      simp only [reduceCtorEq, false_iff]
      rintro ⟨hsize, hlt⟩
      rw [hsize] at hlt
      exact hfits hlt

namespace Config

def withDeviceSize (profile : Profile) (cfg : Config) : Option Text → Except String Config
  | some size => do
      let size ← parseSize profile size
      pure { cfg with deviceSize := size }
  | none => pure cfg

/-- The size of an object is cast to 32 bits. -/
def withObjectSize (profile : Profile) (cfg : Config) : Option Text → Except String Config
  | some objectSize => do
      let objectSize ← parseSize profile objectSize
      pure { cfg with objectSize := objectSize % 2 ^ 32 }
  | none => pure cfg

/-- The configuration with the sizes of a command in it. -/
def withSizes (profile : Profile) (cfg : Config) (size objectSize : Option Text) :
    Except String Config := do
  let cfg ← cfg.withDeviceSize profile size
  cfg.withObjectSize profile objectSize

end Config

/-- A size is the one that was given, or the default if none was. -/
def Stated (text : Option Text) (default size : Nat) : Prop :=
  match text with
  | some t => Denotes t size
  | none => size = default

/-- The size that was given, if one was, is below a bound. -/
def FitsIn (bound : Nat) (text : Option Text) : Prop :=
  ∀ t, text = some t → ∃ size, Denotes t size ∧ size < bound

/-- A size that is taken over from a text with some of its bits. -/
theorem stated_iff (profile : Profile) (t : Text) (default parsed bits : Nat) (hbits : bits ≤ 64)
    (h : parseSize profile t = .ok parsed) :
    Stated (some t) default (parsed % 2 ^ bits) ↔ FitsIn (2 ^ bits) (some t) := by
  rw [Stated, denotes_cut_iff profile t parsed bits hbits h]
  constructor
  · intro hfits t' ht'
    rw [← Option.some.inj ht']
    exact hfits
  · exact fun hfits => hfits t rfl

theorem fitsIn_none (bound : Nat) : FitsIn bound none := fun _ h => (by cases h)

theorem withDeviceSize_iff (profile : Profile) (cfg cfg' : Config) (size : Option Text)
    (h : cfg.withDeviceSize profile size = .ok cfg') : cfg'.objectSize = cfg.objectSize ∧
      (Stated size cfg.deviceSize cfg'.deviceSize ↔ FitsIn (2 ^ 64) size) := by
  cases size with
  | none =>
      rw [← Except.ok.inj h]
      exact ⟨rfl, fun _ => fitsIn_none _, fun _ => rfl⟩
  | some t =>
      rcases bind_eq_ok _ _ _ h with ⟨parsed, hparsed, hcfg⟩
      rw [← Except.ok.inj hcfg]
      rcases parseSize_ok profile t parsed hparsed with ⟨denoted, _, hwrapped⟩
      -- A parsed size has 64 bits, so none of them is cut off.
      have hlt : parsed < 2 ^ 64 := by
        rw [hwrapped]
        exact Nat.mod_lt _ (by omega)
      have hstated := stated_iff profile t cfg.deviceSize parsed 64 (by omega) hparsed
      rw [Nat.mod_eq_of_lt hlt] at hstated
      exact ⟨rfl, hstated⟩

theorem withObjectSize_iff (profile : Profile) (cfg cfg' : Config) (objectSize : Option Text)
    (h : cfg.withObjectSize profile objectSize = .ok cfg') : cfg'.deviceSize = cfg.deviceSize ∧
      (Stated objectSize cfg.objectSize cfg'.objectSize ↔ FitsIn (2 ^ 32) objectSize) := by
  cases objectSize with
  | none =>
      rw [← Except.ok.inj h]
      exact ⟨rfl, fun _ => fitsIn_none _, fun _ => rfl⟩
  | some t =>
      rcases bind_eq_ok _ _ _ h with ⟨parsed, hparsed, hcfg⟩
      rw [← Except.ok.inj hcfg]
      exact ⟨rfl, stated_iff profile t cfg.objectSize parsed 32 (by omega) hparsed⟩

/-- The sizes that a command goes on with are those it was given exactly if
    they fit the fields they are for. -/
theorem withSizes_exact_iff (profile : Profile) (cfg cfg' : Config) (size objectSize : Option Text)
    (h : cfg.withSizes profile size objectSize = .ok cfg') :
    (Stated size cfg.deviceSize cfg'.deviceSize ∧
      Stated objectSize cfg.objectSize cfg'.objectSize) ↔
    FitsIn (2 ^ 64) size ∧ FitsIn (2 ^ 32) objectSize := by
  rcases bind_eq_ok _ _ _ h with ⟨cfg₁, hfirst, hsecond⟩
  rcases withDeviceSize_iff profile cfg cfg₁ size hfirst with ⟨hobject, hdeviceIff⟩
  rcases withObjectSize_iff profile cfg₁ cfg' objectSize hsecond with ⟨hdevice, hobjectIff⟩
  rw [hobject] at hobjectIff
  rw [hdevice]
  exact and_congr hdeviceIff hobjectIff

/-- The newest message of a channel is a superblock with the sizes of a
    configuration. -/
def Announced (cfg : Config) (c : Channel) [Crates] : Prop :=
  ∃ (init : List Message) (id : Int) (sb : Superblock),
    c.messages = init ++ [{ id := id, text := sb.encodeText, media := none }] ∧
    sb.deviceSize = cfg.deviceSize ∧ sb.objectSize = cfg.objectSize

section Crates

variable [Crates]

/-- The command `format` from its arguments on, up to the manifest it stores
    and the configuration whose sizes it prints. -/
def formatSized (profile : Profile) (storage : TelegramStorage) (cfg : Config)
    (size objectSize : Option Text) (uuid : Uuid) (sqliteExists force localOnly : Bool) :
    Prog tgSig (Config × Manifest) := do
  let cfg ← Prog.ofExcept (cfg.withSizes profile size objectSize)
  let manifest ← format storage cfg uuid sqliteExists force localOnly
  pure (cfg, manifest)

/-- A device was formatted as a configuration says: the configuration passed
    its checks, the manifest has its sizes, and so has the superblock that was
    sent, unless the format stays local. -/
structure FormattedAs (cfg : Config) (localOnly : Bool) (m : Manifest) (c' : Channel) : Prop where
  valid : cfg.validate = .ok ()
  objectSize : m.objectSize = cfg.objectSize
  objectCount : m.objectCount = cfg.objectCount
  superblock : localOnly = false → Announced cfg c'

/-- A format that ends well is one as its configuration says. -/
theorem wp_format_as (storage : TelegramStorage) (cfg : Config) (uuid : Uuid)
    (sqliteExists force localOnly : Bool) (c : Channel) :
    wp Telegram (format storage cfg uuid sqliteExists force localOnly)
      (fun r c' => ∀ m, r = .ok m → FormattedAs cfg localOnly m c') (fun _ => True) c := by
  have hstop : ∀ (msg : String) (c' : Channel) m,
      (Except.error msg : Except String Manifest) = .ok m → FormattedAs cfg localOnly m c' :=
    fun msg c' m h => (by cases h)
  have hdone : ∀ c' m, cfg.validate = .ok () → (localOnly = false → Announced cfg c') →
      (Except.ok (Manifest.empty uuid cfg.objectSize cfg.objectCount) : Except String Manifest) =
        .ok m → FormattedAs cfg localOnly m c' := by
    intro c' m hvalid hsent hm
    rw [← Except.ok.inj hm]
    exact ⟨hvalid, rfl, rfl, hsent⟩
  unfold format
  refine wp_ofExcept_bind _ _ _ _ _ (fun _ hvalid => ?_) (fun msg _ => hstop msg c)
  refine wp_ensure_bind _ _ _ _ _ _ (fun _ => ?_) (fun _ => hstop _ c)
  by_cases hlocal : localOnly = true
  · rw [if_pos hlocal]
    exact fun m => hdone c m hvalid fun h => by
      rw [hlocal] at h
      cases h
  · -- The commit ends with the superblock of the configuration.
    rw [if_neg hlocal]
    refine wp_seq _ _ _ _ _ _ c (wp_commitManifest storage _ cfg.deviceSize
      cfg.logicalSectorSize cfg.objectSize c) (fun _ c' hr => ?_) (fun msg c' _ => hstop msg c')
      (fun _ _ => trivial)
    rcases hr.2 rfl with ⟨c1, sb, hann, hup⟩
    rcases hup.newest with ⟨init, id, hmessages⟩
    exact fun m => hdone c' m hvalid fun _ =>
      ⟨init, id, sb, hmessages, hann.deviceSize, hann.objectSize⟩

/-- What a format with sizes does: it goes on with the configuration that has
    them, and formats as that one says. -/
theorem wp_formatSized (profile : Profile) (storage : TelegramStorage) (cfg : Config)
    (size objectSize : Option Text) (uuid : Uuid) (sqliteExists force localOnly : Bool)
    (c : Channel) :
    wp Telegram (formatSized profile storage cfg size objectSize uuid sqliteExists force localOnly)
      (fun r c' => ∀ x, r = .ok x → cfg.withSizes profile size objectSize = .ok x.1 ∧
        FormattedAs x.1 localOnly x.2 c') (fun _ => True) c := by
  unfold formatSized
  refine wp_ofExcept_bind _ _ _ _ _ (fun cfg' hcfg => ?_) (fun msg _ x h => (by cases h))
  refine wp_seq _ _ _ _ _ _ c (wp_format_as storage cfg' uuid sqliteExists force localOnly c)
    (fun m c' hm => ?_) (fun msg c' _ x h => (by cases h)) (fun _ _ => trivial)
  intro x hx
  rw [← Except.ok.inj hx]
  exact ⟨hcfg, hm m rfl⟩

/-- A format ends well if its sizes can be read, the configuration with them
    passes its checks and its manifest is committed. -/
theorem exec_formatSized (profile : Profile) (storage : TelegramStorage)
    (cfg cfg' : Config) (size objectSize : Option Text) (uuid : Uuid) (force : Bool)
    {c c' : Channel} (hcfg : cfg.withSizes profile size objectSize = .ok cfg')
    (hvalid : cfg'.validate = .ok ())
    (hcommit : Exec Telegram (storage.commitManifest (Manifest.empty uuid cfg'.objectSize
      cfg'.objectCount) cfg'.deviceSize cfg'.logicalSectorSize cfg'.objectSize) c
      (.done (.ok ())) c') :
    Exec Telegram (formatSized profile storage cfg size objectSize uuid false force false) c
      (.done (.ok (cfg', Manifest.empty uuid cfg'.objectSize cfg'.objectCount))) c' := by
  unfold formatSized format
  rw [hcfg]
  refine exec_bind_ok _ _ c c c' cfg' _ (.pure _ _) ?_
  rw [hvalid]
  refine exec_bind_ok _ _ c c' c' _ _ ?_ (.pure _ _)
  refine exec_bind_ok _ _ c c c' () _ (.pure _ _) ?_
  refine exec_bind_ok _ _ c c c' () _ (.pure _ _) ?_
  rw [if_neg Bool.false_ne_true]
  exact exec_bind_ok _ _ c c' c' () _ hcommit (.pure _ _)

end Crates

end TgDrive
