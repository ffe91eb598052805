import TgDrive.Cli.Recover
import TgDrive.Core.CrashSafety

/-!
# Formatting

The command `format`: it commits a blank manifest, unless it is told to stay
local, and makes it the stored one. Nothing else in the store changes. The
files and the cache rows of an earlier device do no harm, since no entry of a
blank manifest leads to a file. Its dirty rows do: they come before the
manifest in every read, and the next flush takes them along.

So a formatted device is blank and usable exactly if the store had no dirty
rows. What it does then is what any durable device does.

## Main definitions

* `format`: The part of the command that deals with the channel.
* `storeManifest`: The part that deals with the store.
* `openStore`: A device opened from a store.
* `Usable`: A device that is blank and can be written and flushed.

## Theorems

* `wp_format`: A format ends with the blank manifest of the configuration.
* `durable_formatted`: Without dirty rows a formatted device is durable.
* `format_usable_iff`: When a formatted device is blank and usable.
* `format_haunted`: A dirty row that outlives a format.
-/

namespace TgDrive

open Data Effect

section Crates

variable [Crates]

/-- The command `format`, up to the manifest it stores. -/
def format (storage : TelegramStorage) (cfg : Config) (uuid : Uuid)
    (sqliteExists force localOnly : Bool) : Prog tgSig Manifest := do
  Prog.ofExcept cfg.validate
  Prog.ensure (!(sqliteExists && !force)) "already exists; pass --force to replace local metadata"
  let manifest := Manifest.empty uuid cfg.objectSize cfg.objectCount
  if localOnly then pure manifest
  else do
    storage.commitManifest manifest cfg.deviceSize cfg.logicalSectorSize cfg.objectSize
    pure manifest

/-- The call of `replace_from_manifest` that ends a command. -/
def storeManifest (m : Manifest) (s : LocalStore) : Except String LocalStore :=
  match LocalStore.replaceFromManifest m with
  | .ok effects => .ok (applyAll effects s)
  | .error msg => .error msg

/-- Storing a manifest sets the one row it is stored in. -/
theorem storeManifest_eq_ok (m : Manifest) (s s' : LocalStore) (h : storeManifest m s = .ok s') :
    s' = s.setManifestState m := by
  unfold storeManifest LocalStore.replaceFromManifest at h
  by_cases hids : (m.objects.map (fun object => object.objectId)).Nodup
  · rw [if_pos hids] at h
    exact (Except.ok.inj h).symm
  · rw [if_neg hids] at h
    cases h

theorem storeManifest_ok (m : Manifest) (s : LocalStore)
    (hids : (m.objects.map ManifestObject.objectId).Nodup) :
    storeManifest m s = .ok (s.setManifestState m) := by
  unfold storeManifest LocalStore.replaceFromManifest
  rw [if_pos hids]
  rfl

variable {ρ : Type}

/-- A device opened from a store, over a remote side. -/
def openStore (s : LocalStore) (r : ρ) : Except String (World ρ) :=
  match s.loadManifest with
  | .ok (some m) => .ok { store := s, manifest := m, locked := false, remote := r }
  | .ok none => .error "no local manifest; run tgdrive format first"
  | .error msg => .error msg

/-- A format that ends well ends with the blank manifest of its
    configuration. -/
theorem wp_format (storage : TelegramStorage) (cfg : Config) (uuid : Uuid)
    (sqliteExists force localOnly : Bool) (c : Channel) :
    wp Telegram (format storage cfg uuid sqliteExists force localOnly)
      (fun r _ => ∀ m, r = .ok m → cfg.validate = .ok () ∧
        m = Manifest.empty uuid cfg.objectSize cfg.objectCount) (fun _ => True) c := by
  have hstop : ∀ (msg : String) m, (Except.error msg : Except String Manifest) = .ok m →
      cfg.validate = .ok () ∧ m = Manifest.empty uuid cfg.objectSize cfg.objectCount :=
    fun msg m h => (by cases h)
  unfold format
  refine wp_ofExcept_bind _ _ _ _ _ (fun _ hvalid => ?_) (fun msg _ => hstop msg)
  refine wp_ensure_bind _ _ _ _ _ _ (fun _ => ?_) (fun _ => hstop _)
  have hdone : ∀ m, (Except.ok (Manifest.empty uuid cfg.objectSize cfg.objectCount) :
      Except String Manifest) = .ok m → cfg.validate = .ok () ∧
        m = Manifest.empty uuid cfg.objectSize cfg.objectCount :=
    fun m h => ⟨hvalid, (Except.ok.inj h).symm⟩
  by_cases hlocal : localOnly = true
  · rw [if_pos hlocal]
    exact hdone
  · rw [if_neg hlocal]
    exact wp_seq _ _ _ _ _ _ c (wp_trivial _ c) (fun _ _ _ => hdone) (fun msg _ _ => hstop msg)
      (fun _ _ => trivial)

variable (R : (c : Call) → ρ → Except String c.Resp × ρ) {raw : ρ → Int → Option Bytes}

/-- Writes that all succeed, one after the other. -/
def writeAll (dev : BlockDevice) : List (Nat × Bytes) → World ρ → Except String (World ρ)
  | [], w => .ok w
  | (offset, bytes) :: rest, w =>
      match (dev.writeAt offset bytes).eval (deviceRun R) w with
      | (.ok _, w') => writeAll dev rest w'
      | (.error msg, _) => .error msg

/-- The array after some writes. -/
def written (a : Nat → UInt8) (writes : List (Nat × Bytes)) : Nat → UInt8 :=
  writes.foldl (fun a p => splice a p.1 p.2) a

/-- A device that is blank and usable: it reads zeros, it has nothing to flush,
    and after writes it flushes them, over zeros. -/
structure Usable (raw : ρ → Int → Option Bytes) (dev : BlockDevice) (w : World ρ) : Prop where
  blank : ∀ offset len, offset + len ≤ dev.map.deviceSize →
    ((dev.readAt offset len).eval (deviceRun R) w).1 = .ok (List.replicate len 0)
  idle : dev.flush.eval (deviceRun R) w = (.ok (), w)
  flushes : ∀ writes w1, (∀ p ∈ writes, p.1 + p.2.length ≤ dev.map.deviceSize) →
    writeAll R dev writes w = .ok w1 → ∃ w2, dev.flush.eval (deviceRun R) w1 = (.ok (), w2) ∧
      w2.store.dirtyRows = [] ∧ w2.store.loadManifest = .ok (some w2.manifest) ∧
      (∀ id, w2.manifest.content (raw w2.remote) dev.map.objectSize id
        = span (written (fun _ => 0) writes) (id * dev.map.objectSize) dev.map.objectSize) ∧
      (w1.store.dirtyRows ≠ [] →
        ∃ s, Committed (Env.ofRun (S := remoteSig) R) dev w2.manifest s w2.remote)

/-- A flush that succeeds and changes nothing had nothing to do. -/
theorem dirtyRows_of_idle (dev : BlockDevice) (w : World ρ)
    (h : dev.flush.eval (deviceRun R) w = (.ok (), w)) : w.store.dirtyRows = [] := by
  have hpost := wp_deviceRun R _ _ _ w
    (wp_flush (B := Env.ofRun (S := remoteSig) R) (P := Policy.quiet) dev w)
  rw [h] at hpost
  rcases hpost with ⟨hflush, _, _⟩
  cases hflush with
  | idle hnone => exact hnone
  | early _ _ ho => exact absurd rfl ho
  | stopped _ _ ho => exact absurd rfl ho
  | refused _ _ _ ho => exact absurd rfl ho
  | cut _ _ _ ho => exact absurd rfl ho
  | finished _ s hrows hup hs hstore =>
      -- It would have forgotten the rows.
      have hnone : w.store.dirtyRows = [] := by
        rw [hstore, LocalStore.dirtyRows_eq_nil]
        exact fun id => LocalStore.dirtyObject_clear _ id
      exact hnone

theorem idle_of_dirtyRows (dev : BlockDevice) (w : World ρ) (h : w.store.dirtyRows = []) :
    dev.flush.eval (deviceRun R) w = (.ok (), w) := by
  unfold BlockDevice.flush
  rw [Prog.eval_bind_ok _ _ _ w w w.store.dirtyRows rfl, h]
  rfl

/-- A formatted device whose store had no dirty rows is durable. -/
theorem durable_formatted (map : BlockMap) (m : Manifest) (uuid : Uuid)
    (hm : m = Manifest.empty uuid map.objectSize map.objectCount) (s : LocalStore) (r : ρ)
    (hrows : s.dirtyRows = []) :
    Durable raw map
      { store := s.setManifestState m, manifest := m, locked := false, remote := r } := by
  have hnone := (LocalStore.dirtyRows_eq_nil s).mp hrows
  have hblank : ∀ id e, m.find id = some e → e.zero = false → False := by
    intro id e hf hz
    have hmem := m.mem_of_find id e hf
    rw [hm] at hmem
    rw [(Manifest.mem_empty _ _ _ e hmem).1] at hz
    cases hz
  have hids : m.Covers map := by
    rw [hm]
    exact ⟨_, Nat.le_refl _, Manifest.ids_empty _ _ _⟩
  exact {
    consistent := {
      path := fun id d hd => absurd ((hnone id).symm.trans hd) (fun h => by cases h)
      clean := fun id e _ hf hz => (hblank id e hf hz).elim }
    rows := fun id d hd => absurd ((hnone id).symm.trans hd) (fun h => by cases h)
    live := fun id e _ hf hz => (hblank id e hf hz).elim
    ids := hids
    stored := ⟨m, LocalStore.loadManifest_setManifestState m s, hids, fun _ _ => rfl⟩ }

/-- A write leaves the manifest and the stored one alone. -/
theorem Wrote.keeps {B : Backend ρ} (dev : BlockDevice) (w w' : World ρ)
    (h : Wrote B raw dev w w') :
    w'.manifest = w.manifest ∧ w'.store.manifestState = w.store.manifestState := by
  induction h with
  | refl => exact ⟨rfl, rfl⟩
  | tail _ hstep ih =>
      cases hstep with
      | fill hf => exact ⟨hf.manifest.trans ih.1, hf.state.trans ih.2⟩
      | dirtied id object _ _ hd => exact ⟨hd.manifest.trans ih.1, hd.state.trans ih.2⟩
      | torn id object _ _ ht => exact ⟨ht.manifest.trans ih.1, ht.state.trans ih.2⟩

/-- Writes that succeed keep a durable device durable and put their bytes over
    its array. -/
theorem writeAll_durable (hR : Returns (Env.ofRun (S := remoteSig) R) raw) (dev : BlockDevice)
    (hsize : 0 < dev.map.objectSize) (writes : List (Nat × Bytes)) :
    ∀ (w w1 : World ρ) (a : Nat → UInt8), Durable raw dev.map w →
      Shows raw dev.map.objectSize w a → writeAll R dev writes w = .ok w1 →
      Durable raw dev.map w1 ∧ Shows raw dev.map.objectSize w1 (written a writes) ∧
        w1.locked = w.locked ∧ w1.manifest = w.manifest ∧
        w1.store.manifestState = w.store.manifestState := by
  induction writes with
  | nil =>
      intro w w1 a hw ha h
      rw [← Except.ok.inj h]
      exact ⟨hw, ha, rfl, rfl, rfl⟩
  | cons p rest ih =>
      intro w w1 a hw ha h
      rcases p with ⟨offset, bytes⟩
      have hpost := wp_deviceRun R _ _ _ w
        (wp_writeAt hR careful_quiet dev a offset bytes w hw.consistent ha)
      rw [writeAll] at h
      rcases hrun : (dev.writeAt offset bytes).eval (deviceRun R) w with ⟨r, w'⟩
      rw [hrun] at h hpost
      cases r with
      | error msg => cases h
      | ok u =>
          rcases Wrote.keeps dev w w' hpost.steps with ⟨hmanifest, hstate⟩
          rcases ih w' w1 _ (hw.wrote hR dev hsize hpost.steps) (hpost.whole rfl) h with
            ⟨hw1, ha1, hlock, hm1, hs1⟩
          exact ⟨hw1, ha1, hlock.trans hpost.locked, hm1.trans hmanifest, hs1.trans hstate⟩

/-- A durable device that is blank, whose stored manifest is the one in memory,
    is usable if it has no dirty rows. -/
theorem Durable.usable (hR : Returns (Env.ofRun (S := remoteSig) R) raw)
    (hserves : Serves (Env.ofRun (S := remoteSig) R) raw) (dev : BlockDevice)
    (hwilling : Willing (Env.ofRun (S := remoteSig) R) dev) (hsize : 0 < dev.map.objectSize)
    (w : World ρ) (hw : Durable raw dev.map w) (hfree : w.locked = false)
    (hgen : w.manifest.generation + 1 < 2 ^ 64)
    (hstored : w.store.loadManifest = .ok (some w.manifest)) (hrows : w.store.dirtyRows = [])
    (hblank : Shows raw dev.map.objectSize w (fun _ => 0)) : Usable R raw dev w where
  blank := by
    intro offset len hin
    rw [hw.reads R hR hserves dev hsize hfree _ hblank offset len hin, span, List.map_const',
      List.length_range']
  idle := idle_of_dirtyRows R dev w hrows
  flushes := by
    intro writes w1 _ hwrites
    rcases writeAll_durable R hR dev hsize writes w w1 _ hw hblank hwrites with
      ⟨hw1, ha1, hlock, hmanifest, hstate⟩
    have hok := hw1.flushes R dev hwilling hsize (hlock.trans hfree) (by rw [hmanifest]; exact hgen)
    have hpost := wp_deviceRun R _ _ _ w1
      (wp_flush (B := Env.ofRun (S := remoteSig) R) (P := Policy.quiet) dev w1)
    rcases hrun : dev.flush.eval (deviceRun R) w1 with ⟨r, w2⟩
    rw [hrun] at hok hpost
    have hr : r = .ok () := hok
    rw [hr] at hrun hpost
    rw [hrun]
    rcases hpost with ⟨hflush, _, _⟩
    have hshows := Carried.shows _ w1 w2 (hflush.carried hR) hw1.consistent _ ha1
    -- Without dirty rows the array is what the manifest says.
    have hcontent : w2.store.dirtyRows = [] → ∀ id,
        w2.manifest.content (raw w2.remote) dev.map.objectSize id
          = span (written (fun _ => 0) writes) (id * dev.map.objectSize) dev.map.objectSize := by
      intro hnone id
      rw [← hshows id, w2.content_clean raw _ _ ((LocalStore.dirtyRows_eq_nil _).mp hnone id)]
    refine ⟨w2, rfl, ?_⟩
    cases hflush with
    | idle hnone =>
        refine ⟨hnone, ?_, hcontent hnone, fun hne => absurd hnone hne⟩
        rw [LocalStore.loadManifest_congr _ _ hstate, hstored, hmanifest]
    | early _ _ ho => exact absurd rfl ho
    | stopped _ _ ho => exact absurd rfl ho
    | refused _ _ _ ho => exact absurd rfl ho
    | cut _ _ _ ho => exact absurd rfl ho
    | finished _ s hne hup hs hstore =>
        have hnone : w2.store.dirtyRows = [] := by
          rw [hstore, LocalStore.dirtyRows_eq_nil]
          exact fun id => LocalStore.dirtyObject_clear _ id
        refine ⟨hnone, ?_, hcontent hnone, fun _ => ⟨s, hs⟩⟩
        rw [hstore, LocalStore.loadManifest_congr _ _ (LocalStore.manifestState_clear _),
          LocalStore.loadManifest_setManifestState]

/-- After a format, on a backend that works, the device opened from the store
    with the formatted geometry is blank and usable if and only if the store
    had no dirty rows before. -/
theorem format_usable_iff (hR : Returns (Env.ofRun (S := remoteSig) R) raw)
    (hserves : Serves (Env.ofRun (S := remoteSig) R) raw) (storage : TelegramStorage)
    (cfg : Config) (uuid : Uuid) (sqliteExists force localOnly : Bool) (c c' : Channel)
    (m : Manifest) (s s' : LocalStore)
    (hformat : Exec Telegram (format storage cfg uuid sqliteExists force localOnly) c
      (.done (.ok m)) c')
    (hstore : storeManifest m s = .ok s') (dev : BlockDevice)
    (hdevice : dev.map.deviceSize = cfg.deviceSize) (hobject : dev.map.objectSize = cfg.objectSize)
    (hwilling : Willing (Env.ofRun (S := remoteSig) R) dev) (r : ρ) :
    (∃ w, openStore s' r = .ok w ∧ Usable R raw dev w) ↔ s.dirtyRows = [] := by
  rcases wp_done _ _ _ _ _ _ (wp_format storage cfg uuid sqliteExists force localOnly c) hformat m
    rfl with ⟨hvalid, hm⟩
  have hs' := storeManifest_eq_ok m s s' hstore
  have hcount : dev.map.objectCount = cfg.objectCount := by
    rw [BlockMap.objectCount, Config.objectCount, hdevice, hobject]
  -- The configuration was checked before anything was sent.
  have hsize : 0 < dev.map.objectSize := by
    unfold Config.validate at hvalid
    have h1 := (ite_error_eq_ok _ _ _ _ hvalid).2
    have h2 := (ite_error_eq_ok _ _ _ _ h1).2
    have h3 := (ite_error_eq_ok _ _ _ _ h2).1
    omega
  have hopen : openStore s' r = .ok { store := s', manifest := m, locked := false, remote := r } := by
    unfold openStore
    rw [hs', LocalStore.loadManifest_setManifestState]
  constructor
  · -- A usable device can become idle only if the store it opened had no rows.
    rintro ⟨w, hw, husable⟩
    rw [hopen, Except.ok.injEq] at hw
    have hidle := dirtyRows_of_idle R dev w husable.idle
    rw [← hw, hs'] at hidle
    exact hidle
  · -- Without rows every object is the blank one of the new manifest.
    intro hrows
    have hdurable : Durable raw dev.map
        { store := s.setManifestState m, manifest := m, locked := false, remote := r } :=
      durable_formatted dev.map m uuid (by rw [hm, hobject, hcount]) s r hrows
    rw [← hs'] at hdurable
    refine ⟨_, hopen, Durable.usable R hR hserves dev hwilling hsize _ hdurable rfl ?_ ?_ ?_ ?_⟩
    · rw [hm]
      change 0 + 1 < 2 ^ 64
      decide
    · rw [hs', LocalStore.loadManifest_setManifestState]
    · rw [hs']
      exact hrows
    · intro id
      have hnone : s'.dirtyObject id = none := by
        rw [hs']
        exact (LocalStore.dirtyRows_eq_nil s).mp hrows id
      have hzeros : span (fun _ => (0 : UInt8)) (id * dev.map.objectSize) dev.map.objectSize
          = List.replicate dev.map.objectSize 0 := by
        rw [span, List.map_const', List.length_range']
      rw [hzeros, World.content_clean _ _ _ _ hnone]
      rcases hf : m.find id with _ | e
      · exact Manifest.content_none _ _ _ _ hf
      · refine Manifest.content_zero _ _ _ _ e hf ?_
        have hmem := Manifest.mem_of_find m id e hf
        rw [hm] at hmem
        exact (Manifest.mem_empty _ _ _ e hmem).1

end Crates

section Small

attribute [local instance] concreteCrates

/-- The least configuration that passes the checks: two objects of 64 KiB. -/
def leastConfig : Config :=
  { deviceSize := 131072, logicalSectorSize := 512, objectSize := 65536, telegramChannelId := none }

def leastMap : BlockMap where
  deviceSize := 131072
  logicalSectorSize := 512
  objectSize := 65536
  deviceSize_lt := by decide
  objectSize_lt := by decide
  deviceAligned := by decide
  objectAligned := by decide

/-- A store with the row of an object that was written and not flushed. -/
def hauntedStore : LocalStore :=
  { LocalStore.empty with
    dirtyObjects := Table.empty.upsert (dirtyRow 0 1 [7])
    files := fun _ => some [7] }

theorem exec_format_least (c : Channel) :
    Exec Telegram (format ⟨-100⟩ leastConfig ⟨7⟩ true true true) c
      (.done (.ok (Manifest.empty ⟨7⟩ 65536 2))) c :=
  .pure _ _

theorem format_usable_small : ∃ w,
    openStore (LocalStore.empty.setManifestState (Manifest.empty ⟨7⟩ 65536 2))
      (MemoryBackend.new (-100)) = .ok w ∧
    Usable MemoryBackend.run MemoryBackend.messages (BlockDevice.new leastMap false) w :=
  (format_usable_iff MemoryBackend.run MemoryBackend.returns MemoryBackend.serves ⟨-100⟩
    leastConfig ⟨7⟩ true true true Channel.blank Channel.blank _ LocalStore.empty _
    (exec_format_least _) (storeManifest_ok _ _ (by decide)) (BlockDevice.new leastMap false) rfl rfl
    (MemoryBackend.willing _ rfl) _).mpr rfl

/-- The row outlives the format, and the next flush is not idle. -/
theorem format_haunted : ∃ s', storeManifest (Manifest.empty ⟨7⟩ 65536 2) hauntedStore = .ok s' ∧
    Exec Telegram (format ⟨-100⟩ leastConfig ⟨7⟩ true true true) Channel.blank
      (.done (.ok (Manifest.empty ⟨7⟩ 65536 2))) Channel.blank ∧
    ¬∃ w, openStore s' (MemoryBackend.new (-100)) = .ok w ∧
      Usable MemoryBackend.run MemoryBackend.messages (BlockDevice.new leastMap false) w := by
  refine ⟨_, storeManifest_ok _ _ (by decide), exec_format_least _, ?_⟩
  rintro ⟨w, hw, husable⟩
  have hidle := dirtyRows_of_idle MemoryBackend.run _ w husable.idle
  unfold openStore at hw
  rw [LocalStore.loadManifest_setManifestState, Except.ok.injEq] at hw
  rw [← hw] at hidle
  have hrow := (LocalStore.dirtyRows_eq_nil _).mp hidle 0
  cases hrow

end Small

end TgDrive
