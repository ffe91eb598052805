import TgDrive.Cli.Sizes
import TgDrive.Telegram.History

/-!
# Benchmarks

The command `bench`. It takes its two sizes as texts, cuts the size of an
object to 32 bits, and builds a blank device over the memory backend: no
configuration is checked, only the alignment of what came out of the texts.
Then it goes over the device once with writes and once with reads, an object at
a time, reads and writes sectors at indices that look random, and flushes twice.

All its requests lie inside the device, and a pass leaves no byte out. So a
benchmark that ends well is a session of one client like any other, and reads
what it wrote.

## Main definitions

* `Bench`, `openBench`: A benchmark set up, and how it is.
* `Bench.requests`, `Bench.program`: What it asks its device for.

## Theorems

* `mem_passLoop`, `passLoop_covers`: A pass goes over the device.
* `Bench.requests_inBounds`, `Bench.requests_cover`: So do the requests, and
  they stay inside it.
* `Bench.agrees`: What a benchmark reads is what it wrote.
* `openBench_exact_iff`: When a benchmark has the sizes it was given.
* `sizes_exact_iff`: The same for a format and a benchmark.
* `sizes_inexact`: A format with an object size that does not fit.
-/

namespace TgDrive

open Data Effect

/-- The state of a generator of bytes after one more. -/
def nextState (state : UInt64) : UInt64 :=
  let state := state ^^^ (state <<< 13)
  let state := state ^^^ (state >>> 7)
  state ^^^ (state <<< 17)

def deterministicBytes : Nat → UInt64 → Bytes
  | 0, _ => []
  | len + 1, state => (nextState state).toUInt8 :: deterministicBytes len (nextState state)

def pseudoRandomIndex (index modulus : UInt64) : UInt64 :=
  if modulus = 0 then 0 else (index * 6364136223846793005 + 1) % modulus

theorem length_deterministicBytes (len : Nat) (state : UInt64) :
    (deterministicBytes len state).length = len := by
  induction len generalizing state with
  | zero => rfl
  | succ len ih => rw [deterministicBytes, List.length_cons, ih]

/-- The ranges of one pass over a device, an object at a time. A round takes a
    byte or more, so that there are no more of them than bytes. -/
def passLoop (deviceSize objectSize : Nat) : Nat → Nat → List (Nat × Nat)
  | 0, _ => []
  | rounds + 1, offset =>
      if offset < deviceSize then
        let take := min (deviceSize - offset) objectSize
        (offset, take) :: passLoop deviceSize objectSize rounds (offset + take)
      else []

/-- A pass stays inside the device. -/
theorem mem_passLoop (deviceSize objectSize rounds : Nat) : ∀ (offset : Nat) (r : Nat × Nat),
    r ∈ passLoop deviceSize objectSize rounds offset →
      r.1 + r.2 ≤ deviceSize ∧ r.2 ≤ objectSize := by
  induction rounds with
  | zero =>
      intro offset r hr
      cases hr
  | succ rounds ih =>
      intro offset r hr
      unfold passLoop at hr
      by_cases hlt : offset < deviceSize
      · rw [if_pos hlt] at hr
        rcases List.mem_cons.mp hr with hr | hr
        · rw [hr]
          simp only
          omega
        · exact ih _ r hr
      · rw [if_neg hlt] at hr
        cases hr

/-- A pass leaves no byte out. -/
theorem passLoop_covers (deviceSize objectSize : Nat) (hpos : 0 < objectSize) (rounds : Nat) :
    ∀ offset p, deviceSize ≤ offset + rounds → offset ≤ p → p < deviceSize →
      ∃ r ∈ passLoop deviceSize objectSize rounds offset, r.1 ≤ p ∧ p < r.1 + r.2 := by
  induction rounds with
  | zero =>
      intro offset p hrounds hp hlt
      omega
  | succ rounds ih =>
      intro offset p hrounds hp hlt
      unfold passLoop
      rw [if_pos (by omega)]
      by_cases hfirst : p < offset + min (deviceSize - offset) objectSize
      · exact ⟨_, List.mem_cons_self, hp, hfirst⟩
      · -- The byte is left to the rounds after this one.
        rcases ih (offset + min (deviceSize - offset) objectSize) p (by omega) (by omega) hlt with
          ⟨r, hr, hcovers⟩
        exact ⟨r, List.mem_cons_of_mem _ hr, hcovers⟩

/-- A benchmark set up: the geometry of its sizes, whose objects are not empty,
    the UUID of its manifest, and a number of random requests of each kind. -/
structure Bench where
  map : BlockMap
  uuid : Uuid
  ops : Nat
  objectSize_pos : 0 < map.objectSize

/-- How `run_bench` sets up a benchmark. Counting the objects of a device
    without any is a panic. -/
def openBench (profile : Profile) (cfg : Config) (size objectSize : Text) (ops : Nat)
    (uuid : Uuid) : Except String Bench := do
  if ops = 0 then .error "--ops must be greater than zero"
  let deviceSize ← parseSize profile size
  let objectSize := UInt32.ofNat (← parseSize profile objectSize)
  let map ← BlockMap.new (UInt64.ofNat deviceSize) (UInt32.ofNat cfg.logicalSectorSize) objectSize
  if hpos : 0 < map.objectSize then
    pure { map := map, uuid := uuid, ops := ops, objectSize_pos := hpos }
  else .error "attempt to divide by zero"

namespace Bench

variable (b : Bench)

def manifest : Manifest := Manifest.empty b.uuid b.map.objectSize b.map.objectCount

def device : BlockDevice := BlockDevice.new b.map false

def world : World MemoryBackend := World.start b.manifest (MemoryBackend.new (-100))

/-- One pass over the device. -/
def pass : List (Nat × Nat) := passLoop b.map.deviceSize b.map.objectSize b.map.deviceSize 0

/-- The number of sectors. The sector size divides the size of an object, so it
    is not zero. -/
def maxSector : Nat := b.map.deviceSize / b.map.logicalSectorSize

/-- Where a random request begins. -/
def place (index : UInt64) : Nat :=
  (pseudoRandomIndex index (UInt64.ofNat b.maxSector)).toNat * b.map.logicalSectorSize

/-- The requests of a benchmark, in their order. -/
def requests : List Request :=
  let object := deterministicBytes b.map.objectSize 0x54474452495645
  let randomWrite := deterministicBytes b.map.logicalSectorSize 0x52414e444f4d
  b.pass.map (fun r => .write r.1 (object.take r.2)) ++ [.flush]
    ++ b.pass.map (fun r => .read r.1 r.2)
    ++ (List.range b.ops).map
      (fun index => .read (b.place (UInt64.ofNat index)) b.map.logicalSectorSize)
    -- The sum has 64 bits, and would overflow after 2 ^ 64 - 4096 requests.
    ++ (List.range b.ops).map
      (fun index => .write (b.place (UInt64.ofNat index + 0x1000)) randomWrite)
    ++ [.flush]

/-- A random request lies inside a device that is not empty. -/
theorem place_inBounds (hpos : 0 < b.map.deviceSize) (index : UInt64) :
    b.place index + b.map.logicalSectorSize ≤ b.map.deviceSize := by
  have hsector : 0 < b.map.logicalSectorSize :=
    Nat.pos_of_dvd_of_pos b.map.objectAligned b.objectSize_pos
  -- The device holds a sector, so there is an index to choose.
  have hcount : 0 < b.maxSector := Nat.div_pos (Nat.le_of_dvd hpos b.map.deviceAligned) hsector
  have hlt : b.maxSector < 2 ^ 64 :=
    Nat.lt_of_le_of_lt (Nat.div_le_self _ _) b.map.deviceSize_lt
  have hmodulus := UInt64.toNat_ofNat_of_lt' hlt
  have hne : UInt64.ofNat b.maxSector ≠ 0 := by
    intro h
    rw [h, UInt64.toNat_zero] at hmodulus
    omega
  unfold place pseudoRandomIndex
  rw [if_neg hne, UInt64.toNat_mod, hmodulus]
  have hindex := Nat.mod_lt (index * 6364136223846793005 + 1).toNat hcount
  calc _ = ((index * 6364136223846793005 + 1).toNat % b.maxSector + 1)
          * b.map.logicalSectorSize := by
        rw [Nat.add_mul, Nat.one_mul]
    _ ≤ b.maxSector * b.map.logicalSectorSize := Nat.mul_le_mul_right _ hindex
    _ ≤ b.map.deviceSize := Nat.div_mul_le_self _ _

/-- The requests of a benchmark lie inside its device, if that is not empty. -/
theorem requests_inBounds (hpos : 0 < b.map.deviceSize) :
    ∀ req ∈ b.requests, req.InBounds b.map := by
  have hpass : ∀ r ∈ b.pass, r.1 + r.2 ≤ b.map.deviceSize ∧ r.2 ≤ b.map.objectSize :=
    mem_passLoop _ _ _ 0
  intro req hreq
  simp only [requests, List.mem_append, List.mem_map, List.mem_singleton] at hreq
  rcases hreq with
    ((((⟨r, hr, rfl⟩ | rfl) | ⟨r, hr, rfl⟩) | ⟨index, _, rfl⟩) | ⟨index, _, rfl⟩) | rfl
  · -- The last object of a pass is written in part.
    change r.1 + (List.take _ _).length ≤ _
    rw [List.length_take, length_deterministicBytes]
    have hin := hpass r hr
    omega
  · trivial
  · exact (hpass r hr).1
  · exact b.place_inBounds hpos _
  · -- What is written at random is one sector.
    change b.place _ + (deterministicBytes _ _).length ≤ _
    rw [length_deterministicBytes]
    exact b.place_inBounds hpos _
  · trivial

/-- A benchmark writes every byte of its device. -/
theorem requests_cover (p : Nat) (hp : p < b.map.deviceSize) :
    ∃ offset bytes, Request.write offset bytes ∈ b.requests ∧
      offset ≤ p ∧ p < offset + bytes.length := by
  rcases passLoop_covers b.map.deviceSize b.map.objectSize b.objectSize_pos b.map.deviceSize 0 p
    (by omega) (by omega) hp with ⟨r, hr, hle, hlt⟩
  refine ⟨r.1, (deterministicBytes b.map.objectSize 0x54474452495645).take r.2, ?_, hle, ?_⟩
  · simp only [requests, List.mem_append, List.mem_map]
    exact Or.inl (Or.inl (Or.inl (Or.inl (Or.inl ⟨r, hr, rfl⟩))))
  · have hobject := (mem_passLoop _ _ _ 0 r hr).2
    rw [List.length_take, length_deterministicBytes, Nat.min_eq_left hobject]
    exact hlt

section Crates

variable [Crates]

/-- A benchmark from its first request on. The first that fails ends it. -/
def program : Prog deviceSig Unit :=
  b.requests.forM fun req => req.program b.device

end Crates

end Bench

/-- The request of an event. -/
def Event.request : Event → Request
  | .read offset len _ => .read offset len
  | .write offset bytes => .write offset bytes
  | .flush _ => .flush

section Crates

variable [Crates] {ρ : Type} {P : Policy ρ}

/-- A request that succeeds, before a session, makes one. -/
theorem Session.request (R : (c : Call) → ρ → Except String c.Resp × ρ) (dev : BlockDevice)
    (req : Request) (hin : req.InBounds dev.map) (w w1 w2 : World ρ) (log : List Event)
    (h : (req.program dev).eval (deviceRun R) w = (.ok (), w1))
    (hrest : Session (Env.ofRun (S := remoteSig) R) P dev w1 log w2) :
    ∃ e : Event, e.request = req ∧
      Session (Env.ofRun (S := remoteSig) R) P dev w (e :: log) w2 := by
  cases req with
  | read offset len =>
      -- The program of a request drops the answer, the event keeps it.
      have hex := exec_deviceRun (P := P) R (dev.readAt offset len) w
      unfold Request.program at h
      rcases hr : (dev.readAt offset len).eval (deviceRun R) w with ⟨r, w'⟩
      cases r with
      | error msg =>
          rw [Prog.eval_bind_error _ _ _ _ _ _ hr] at h
          cases (Prod.mk.inj h).1
      | ok bytes =>
          rw [Prog.eval_bind_ok _ _ _ _ _ _ hr] at h
          have hw : w' = w1 := (Prod.mk.inj h).2
          rw [hr, hw] at hex
          exact ⟨.read offset len (.ok bytes), rfl, .read _ _ _ _ _ _ _ hin hex hrest⟩
  | write offset bytes =>
      have hex := exec_deviceRun (P := P) R (dev.writeAt offset bytes) w
      have hr : (dev.writeAt offset bytes).eval (deviceRun R) w = (.ok (), w1) := h
      rw [hr] at hex
      exact ⟨.write offset bytes, rfl, .write _ _ _ _ _ _ hin hex hrest⟩
  | flush =>
      have hex := exec_deviceRun (P := P) R dev.flush w
      have hr : dev.flush.eval (deviceRun R) w = (.ok (), w1) := h
      rw [hr] at hex
      exact ⟨.flush (.ok ()), rfl, .flush _ _ _ _ _ hex hrest⟩

/-- Requests that all succeed are a session. -/
theorem Session.requests (R : (c : Call) → ρ → Except String c.Resp × ρ) (dev : BlockDevice)
    (reqs : List Request) : ∀ (w w' : World ρ), (∀ req ∈ reqs, req.InBounds dev.map) →
      (reqs.forM fun req => req.program dev).eval (deviceRun R) w = (.ok (), w') →
      ∃ log, log.map Event.request = reqs ∧
        Session (Env.ofRun (S := remoteSig) R) P dev w log w' := by
  induction reqs with
  | nil =>
      intro w w' _ h
      have hw : w = w' := (Prod.mk.inj h).2
      rw [hw]
      exact ⟨[], rfl, .nil w'⟩
  | cons req reqs ih =>
      intro w w' hin h
      change (req.program dev >>= fun _ => reqs.forM fun req => req.program dev).eval
        (deviceRun R) w = (.ok (), w') at h
      rcases hr : (req.program dev).eval (deviceRun R) w with ⟨r, w1⟩
      cases r with
      | error msg =>
          -- The first request that fails ends the run.
          rw [Prog.eval_bind_error _ _ _ _ _ _ hr] at h
          cases (Prod.mk.inj h).1
      | ok u =>
          rw [Prog.eval_bind_ok _ _ _ _ _ _ hr] at h
          rcases ih w1 w' (fun q hq => hin q (List.mem_cons_of_mem _ hq)) h with
            ⟨log, hlog, hsession⟩
          rcases Session.request (P := P) R dev req (hin req List.mem_cons_self) w w1 w' log hr
            hsession with ⟨e, he, hall⟩
          exact ⟨e :: log, by rw [List.map_cons, he, hlog], hall⟩

omit [Crates] in
/-- The array of a blank manifest is zero. -/
theorem arrayOf_blank (uuid : Uuid) (objectSize objectCount : Nat)
    (messages : Int → Option Bytes) : arrayOf objectSize
      ((Manifest.empty uuid objectSize objectCount).content messages objectSize) = fun _ => 0 := by
  funext i
  have hzeros : (Manifest.empty uuid objectSize objectCount).content messages objectSize
      (i / objectSize) = List.replicate objectSize 0 := by
    rcases hf : (Manifest.empty uuid objectSize objectCount).find (i / objectSize) with _ | e
    · exact Manifest.content_none _ _ _ _ hf
    · exact Manifest.content_zero _ _ _ _ e hf
        (Manifest.mem_empty _ _ _ e (Manifest.mem_of_find _ _ e hf)).1
  rw [arrayOf, hzeros, List.getD_eq_getElem?_getD, List.getElem?_getD_replicate_default_eq]

/-- A benchmark that ends well is a session of its requests on an array of
    zeros: what it reads is what it wrote. -/
theorem Bench.agrees (b : Bench) (hpos : 0 < b.map.deviceSize) (w' : World MemoryBackend)
    (h : b.program.eval (deviceRun MemoryBackend.run) b.world = (.ok (), w')) :
    ∃ log, log.map Event.request = b.requests ∧ Agrees (fun _ => 0) log := by
  rcases Session.requests (P := Policy.steady) MemoryBackend.run b.device b.requests b.world w'
    (b.requests_inBounds hpos) h with ⟨log, hlog, hsession⟩
  refine ⟨log, hlog, ?_⟩
  rw [← arrayOf_blank b.uuid b.map.objectSize b.map.objectCount (MemoryBackend.new (-100)).messages]
  exact session_agrees MemoryBackend.returns b.map false b.manifest _
    (wellFormed_empty b.map b.uuid _) log w' hsession

end Crates

/-- What setting up a benchmark makes of its sizes. -/
theorem openBench_ok (profile : Profile) (cfg : Config) (size objectSize : Text) (ops : Nat)
    (uuid : Uuid) (b : Bench) (h : openBench profile cfg size objectSize ops uuid = .ok b) :
    ∃ parsed parsedObject, parseSize profile size = .ok parsed ∧
      parseSize profile objectSize = .ok parsedObject ∧
      b.map.deviceSize = parsed % 2 ^ 64 ∧ b.map.objectSize = parsedObject % 2 ^ 32 := by
  unfold openBench at h
  have h1 := (ite_error_eq_ok _ _ _ _ h).2
  rcases bind_eq_ok _ _ _ h1 with ⟨parsed, hsize, h2⟩
  rcases bind_eq_ok _ _ _ h2 with ⟨parsedObject, hobject, h3⟩
  rcases bind_eq_ok _ _ _ h3 with ⟨map, hmap, h4⟩
  by_cases hpos : 0 < map.objectSize
  · simp only [dif_pos hpos] at h4
    rw [← Except.ok.inj h4]
    exact ⟨parsed, parsedObject, hsize, hobject, BlockMap.new_sizes _ _ _ map hmap⟩
  · -- Counting the objects was a panic.
    simp only [dif_neg hpos] at h4
    cases h4

/-- A benchmark that is set up has the sizes it was given exactly if they fit
    the fields they are for. -/
theorem openBench_exact_iff (profile : Profile) (cfg : Config) (size objectSize : Text)
    (ops : Nat) (uuid : Uuid) (b : Bench)
    (h : openBench profile cfg size objectSize ops uuid = .ok b) :
    (Denotes size b.map.deviceSize ∧ Denotes objectSize b.map.objectSize) ↔
      FitsIn (2 ^ 64) (some size) ∧ FitsIn (2 ^ 32) (some objectSize) := by
  rcases openBench_ok profile cfg size objectSize ops uuid b h with
    ⟨parsed, parsedObject, hsize, hobject, hdeviceSize, hobjectSize⟩
  rw [hdeviceSize, hobjectSize]
  exact and_congr (stated_iff profile size 0 parsed 64 (by omega) hsize)
    (stated_iff profile objectSize 0 parsedObject 32 (by omega) hobject)

/-- A format that ends well has formatted, checked and announced the sizes of
    one configuration. These are the sizes it was given if and only if they fit
    the fields they are for, and the same goes for a benchmark. -/
theorem sizes_exact_iff [Crates] (profile : Profile) (cfg : Config) :
    (∀ (storage : TelegramStorage) (size objectSize : Option Text) (uuid : Uuid)
      (sqliteExists force localOnly : Bool) (c c' : Channel) (cfg' : Config) (m : Manifest)
      (s s' : LocalStore),
      Exec Telegram (formatSized profile storage cfg size objectSize uuid sqliteExists force
        localOnly) c (.done (.ok (cfg', m))) c' → storeManifest m s = .ok s' →
      FormattedAs cfg' localOnly m c' ∧ s'.loadManifest = .ok (some m) ∧
        ((Stated size cfg.deviceSize cfg'.deviceSize ∧
            Stated objectSize cfg.objectSize cfg'.objectSize) ↔
          FitsIn (2 ^ 64) size ∧ FitsIn (2 ^ 32) objectSize)) ∧
    (∀ (size objectSize : Text) (ops : Nat) (uuid : Uuid) (b : Bench),
      openBench profile cfg size objectSize ops uuid = .ok b →
      ((Denotes size b.map.deviceSize ∧ Denotes objectSize b.map.objectSize) ↔
        FitsIn (2 ^ 64) (some size) ∧ FitsIn (2 ^ 32) (some objectSize))) := by
  constructor
  · intro storage size objectSize uuid sqliteExists force localOnly c c' cfg' m s s' hformat hstore
    have hpost := wp_done _ _ _ _ _ _ (wp_formatSized profile storage cfg size objectSize uuid
      sqliteExists force localOnly c) hformat
    rcases hpost (cfg', m) rfl with ⟨hcfg, has⟩
    -- One configuration is checked, stored and announced.
    refine ⟨has, ?_, withSizes_exact_iff profile cfg cfg' size objectSize hcfg⟩
    rw [storeManifest_eq_ok m s s' hstore, LocalStore.loadManifest_setManifestState]
  · exact openBench_exact_iff profile cfg

section Small

attribute [local instance] concreteCrates

/-- 128 KiB are 131072 bytes, and 64 KiB are 65536. -/
theorem denotes_128 : Denotes "128KiB".toList 131072 :=
  ⟨.kib, "128".toList, 128, rfl, rfl, rfl⟩

theorem denotes_64 : Denotes "64KiB".toList 65536 :=
  ⟨.kib, "64".toList, 64, rfl, rfl, rfl⟩

/-- A format and a benchmark of two objects of 64 KiB. -/
theorem sizes_exact_small :
    (FormattedAs leastConfig true (Manifest.empty ⟨7⟩ 65536 2) Channel.blank ∧
      Stated (some "128KiB".toList) 131072 131072 ∧ Stated (some "64KiB".toList) 65536 65536) ∧
    ∃ b, openBench .dev leastConfig "128KiB".toList "64KiB".toList 32 ⟨7⟩ = .ok b ∧
      Denotes "128KiB".toList b.map.deviceSize ∧ Denotes "64KiB".toList b.map.objectSize := by
  have hdevice : FitsIn (2 ^ 64) (some "128KiB".toList) := fun t ht =>
    ⟨131072, Option.some.inj ht ▸ denotes_128, by decide⟩
  have hobject : FitsIn (2 ^ 32) (some "64KiB".toList) := fun t ht =>
    ⟨65536, Option.some.inj ht ▸ denotes_64, by decide⟩
  have hformat := (sizes_exact_iff .dev leastConfig).1 ⟨-100⟩ (some "128KiB".toList)
    (some "64KiB".toList) ⟨7⟩ true true true Channel.blank Channel.blank leastConfig
    (Manifest.empty ⟨7⟩ 65536 2) LocalStore.empty _ (.pure _ _) (storeManifest_ok _ _ (by decide))
  refine ⟨⟨hformat.1, hformat.2.2.mpr ⟨hdevice, hobject⟩⟩, ?_⟩
  refine ⟨⟨leastMap, ⟨7⟩, 32, by decide⟩, rfl, ?_⟩
  exact ((sizes_exact_iff .dev leastConfig).2 "128KiB".toList "64KiB".toList 32 ⟨7⟩ _ rfl).mpr
    ⟨hdevice, hobject⟩

/-- A blank manifest is stored. -/
theorem storeManifest_blank (uuid : Uuid) (objectSize objectCount : Nat) (s : LocalStore) :
    storeManifest (Manifest.empty uuid objectSize objectCount) s
      = .ok (s.setManifestState (Manifest.empty uuid objectSize objectCount)) := by
  refine storeManifest_ok _ _ ?_
  rw [Manifest.ids_empty]
  exact List.nodup_range

/-- A format with objects of 4 GiB and 64 KiB ends well, with or without
    overflow checks, on a channel that answers. -/
theorem exec_format_cut (profile : Profile) : ∃ c', Exec Telegram (formatSized profile ⟨-100⟩
    leastConfig (some "128KiB".toList) (some "4194368KiB".toList) ⟨7⟩ false false false)
    Channel.blank (.done (.ok (leastConfig, Manifest.empty ⟨7⟩ 65536 2))) c' := by
  have hlen : (Manifest.empty ⟨7⟩ 65536 2).encodeJson.length < 2 ^ 32 := by decide +kernel
  have hok := exec_of_isOk (TelegramStorage.commitManifest ⟨-100⟩ (Manifest.empty ⟨7⟩ 65536 2)
    131072 512 65536) Channel.blank (eval_commitManifest_isOk ⟨-100⟩ _ 131072 512 65536 Channel.blank
    rfl (by decide) (by decide) (by decide) (by unfold objectHeaderLen; omega))
  generalize (Prog.eval (S := tgSig) Channel.run _ Channel.blank).2 = c' at hok
  rcases hok with ⟨u, hsent⟩
  exact ⟨c', exec_formatSized profile ⟨-100⟩ leastConfig leastConfig _ _ ⟨7⟩ false rfl rfl hsent⟩

/-- A format whose object size does not fit 32 bits ends well and announces
    objects of 64 KiB. Without overflow checks a device of 2 ^ 64 bytes and
    1 GiB is formatted with 1 GiB. -/
theorem sizes_inexact :
    (∀ profile : Profile, ∃ (cfg' : Config) (m : Manifest) (c' : Channel) (s' : LocalStore),
      Exec Telegram (formatSized profile ⟨-100⟩ leastConfig (some "128KiB".toList)
        (some "4194368KiB".toList) ⟨7⟩ false false false) Channel.blank
        (.done (.ok (cfg', m))) c' ∧
      storeManifest m LocalStore.empty = .ok s' ∧ Announced cfg' c' ∧ cfg'.objectSize = 65536 ∧
      ¬Stated (some "4194368KiB".toList) leastConfig.objectSize cfg'.objectSize) ∧
    ∃ (cfg' : Config) (m : Manifest) (s' : LocalStore),
      Exec Telegram (formatSized .release ⟨-100⟩ leastConfig (some "17179869185GiB".toList)
        (some "64KiB".toList) ⟨7⟩ false false true) Channel.blank
        (.done (.ok (cfg', m))) Channel.blank ∧
      storeManifest m LocalStore.empty = .ok s' ∧ cfg'.deviceSize = 1073741824 ∧
      ¬Stated (some "17179869185GiB".toList) leastConfig.deviceSize cfg'.deviceSize := by
  constructor
  · -- The low 32 bits of the number are 65536.
    intro profile
    have hlarge : Denotes "4194368KiB".toList 4295032832 :=
      ⟨.kib, "4194368".toList, 4194368, rfl, rfl, rfl⟩
    rcases exec_format_cut profile with ⟨c', hex⟩
    have hpost := wp_done _ _ _ _ _ _ (wp_formatSized profile ⟨-100⟩ leastConfig _ _ ⟨7⟩ false
      false false Channel.blank) hex
    refine ⟨_, _, c', _, hex, storeManifest_blank _ _ _ _, (hpost _ rfl).2.superblock rfl, rfl, ?_⟩
    intro hcut
    exact absurd (denotes_unique _ _ _ hlarge hcut) (by decide)
  · -- The low 64 bits of the product are 2 ^ 30.
    have hlarge : Denotes "17179869185GiB".toList 18446744074783293440 :=
      ⟨.gib, "17179869185".toList, 17179869185, rfl, rfl, rfl⟩
    refine ⟨{ leastConfig with deviceSize := 1073741824 }, _, _, .pure _ _,
      storeManifest_blank ⟨7⟩ 65536 16384 _, rfl, ?_⟩
    intro hwrapped
    exact absurd (denotes_unique _ _ _ hlarge hwrapped) (by decide)

end Small

end TgDrive
