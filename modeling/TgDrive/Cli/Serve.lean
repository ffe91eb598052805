import TgDrive.Cli.Stocked
import TgDrive.Nbd.Server

/-!
# Serving

The command `serve-nbd`, up to the device it serves: the manifest is the
stored one, or with the Telegram backend and without a stored one that of the
channel, and the geometry is that of the configuration. Only the last case
compares the two. A stored manifest is taken under any geometry, although its
objects were cut under the one the device was formatted with.

What comes of that depends on the two geometries alone. If the new one has
more objects, the last of them is missing. If the object sizes differ, the
second object of the smaller size is read from elsewhere, unless the part of
the device that both have ends before it.

## Main definitions

* `BackendChoice`, `serve`: The command.
* `SameDevice`: A device that reads, writes and flushes as the one before.
* `KeepsMeaning`: What was stored under a geometry is served under another.

## Theorems

* `wp_serve`: A store with a manifest is served under any geometry.
* `count_of_keeps`, `cut_of_keeps`: What a geometry that keeps what was stored is
  like.
* `same_device`: Such a geometry keeps it.
* `serve_geometry_iff`: When a geometry keeps what was stored.
* `serve_grown`: A device that has grown.
-/

namespace TgDrive

open Data Effect

/-- The backend a device is served from. -/
inductive BackendChoice : Type
  | memory
  | telegram
  deriving DecidableEq

/-- Whether the device gets a committer. -/
def BackendChoice.committer : BackendChoice → Bool
  | .memory => false
  | .telegram => true

/-- The integers of a configuration fit their types. -/
structure Config.Machine (cfg : Config) : Prop where
  deviceSize : cfg.deviceSize < 2 ^ 64
  logicalSectorSize : cfg.logicalSectorSize < 2 ^ 32
  objectSize : cfg.objectSize < 2 ^ 32

/-- The geometry of a configuration. -/
def Config.blockMap (cfg : Config) : Except String BlockMap :=
  BlockMap.new (UInt64.ofNat cfg.deviceSize) (UInt32.ofNat cfg.logicalSectorSize)
    (UInt32.ofNat cfg.objectSize)

/-- The geometry of a configuration that passes its checks. -/
theorem Config.exists_blockMap (cfg : Config) (hfits : cfg.Machine)
    (hvalid : cfg.validate = .ok ()) : ∃ map, cfg.blockMap = .ok map := by
  unfold Config.validate at hvalid
  have h1 := ite_error_eq_ok _ _ _ _ hvalid
  have h2 := ite_error_eq_ok _ _ _ _ h1.2
  unfold Config.blockMap BlockMap.new
  rw [dif_pos (by
      rw [UInt32.toNat_ofNat_of_lt' hfits.logicalSectorSize,
        UInt64.toNat_ofNat_of_lt' hfits.deviceSize]
      exact not_not.mp h1.1),
    dif_pos (by
      rw [UInt32.toNat_ofNat_of_lt' hfits.logicalSectorSize,
        UInt32.toNat_ofNat_of_lt' hfits.objectSize]
      exact not_not.mp h2.1)]
  exact ⟨_, rfl⟩

theorem Config.blockMap_sizes (cfg : Config) (hfits : cfg.Machine) (map : BlockMap)
    (h : cfg.blockMap = .ok map) :
    map.deviceSize = cfg.deviceSize ∧ map.objectSize = cfg.objectSize := by
  have hsizes := BlockMap.new_sizes _ _ _ map h
  rw [UInt64.toNat_ofNat_of_lt' hfits.deviceSize,
    UInt32.toNat_ofNat_of_lt' hfits.objectSize] at hsizes
  exact hsizes

theorem Config.objectSize_pos (cfg : Config) (hvalid : cfg.validate = .ok ()) :
    64 * 1024 ≤ cfg.objectSize := by
  unfold Config.validate at hvalid
  have h1 := (ite_error_eq_ok _ _ _ _ hvalid).2
  have h2 := (ite_error_eq_ok _ _ _ _ h1).2
  have h3 := (ite_error_eq_ok _ _ _ _ h2).1
  omega

section Crates

variable [Crates]

/-- The check of a stored manifest against the superblock of the channel, if
    there is one. -/
def checkSuperblock (manifest : Manifest) : Prog tgSig Unit := do
  let text ← TelegramStorage.recoverSuperblockText 200
  match text with
  | some text =>
      let remoteSuperblock ← Prog.ofExcept (Superblock.decodeText text)
      Prog.ensure (remoteSuperblock.deviceUuid = manifest.deviceUuid)
        "local manifest UUID does not match remote channel superblock"
  | none => pure ()

/-- The command `serve-nbd`, up to the device: its geometry, its manifest and
    its store. -/
def serve (storage : TelegramStorage) (cfg : Config) (choice : BackendChoice) (s : LocalStore) :
    Prog tgSig (BlockMap × Manifest × LocalStore) := do
  let stored ← Prog.ofExcept s.loadManifest
  match choice, stored with
  | .memory, stored =>
      let manifest ← Prog.ofOption stored "no local manifest; run tgdrive format first"
      let map ← Prog.ofExcept cfg.blockMap
      pure (map, manifest, s)
  | .telegram, some manifest =>
      checkSuperblock manifest
      let map ← Prog.ofExcept cfg.blockMap
      pure (map, manifest, s)
  | .telegram, none =>
      let (_, manifest) ← recoverRemoteManifest storage cfg
      let s ← Prog.ofExcept (storeManifest manifest s)
      let map ← Prog.ofExcept cfg.blockMap
      pure (map, manifest, s)

/-- A store with a manifest is served with that manifest, under the geometry of
    the configuration, whatever the two say of each other. -/
theorem wp_serve (storage : TelegramStorage) (cfg : Config) (choice : BackendChoice)
    (s : LocalStore) (m : Manifest) (hload : s.loadManifest = .ok (some m)) (c : Channel) :
    wp Telegram (serve storage cfg choice s)
      (fun r _ => ∀ x, r = .ok x → cfg.blockMap = .ok x.1 ∧ x.2 = (m, s)) (fun _ => True) c := by
  have hstop : ∀ (msg : String) x,
      (Except.error msg : Except String (BlockMap × Manifest × LocalStore)) = .ok x →
      cfg.blockMap = .ok x.1 ∧ x.2 = (m, s) := fun msg x h => (by cases h)
  have hend : ∀ c', wp Telegram (do
      let map ← Prog.ofExcept cfg.blockMap
      pure (map, m, s))
      (fun r _ => ∀ x, r = .ok x → cfg.blockMap = .ok x.1 ∧ x.2 = (m, s)) (fun _ => True) c' := by
    intro c'
    refine wp_ofExcept_bind _ _ _ _ _ (fun map hmap => ?_) (fun msg _ => hstop msg)
    intro x hx
    rw [← Except.ok.inj hx]
    exact ⟨hmap, rfl⟩
  unfold serve
  rw [hload]
  cases choice with
  | memory => exact hend c
  | telegram =>
      change wp Telegram (checkSuperblock m >>= fun _ => do
        let map ← Prog.ofExcept cfg.blockMap
        pure (map, m, s)) _ _ c
      exact wp_seq _ _ _ _ _ _ c (wp_trivial _ c) (fun _ c' _ => hend c')
        (fun msg _ _ => hstop msg) (fun _ _ => trivial)

/-- With nothing in the channel, a store with a manifest is served. -/
theorem exec_serve_blank (storage : TelegramStorage) (cfg : Config) (choice : BackendChoice)
    (s : LocalStore) (m : Manifest) (hload : s.loadManifest = .ok (some m)) (map : BlockMap)
    (hmap : cfg.blockMap = .ok map) :
    Exec Telegram (serve storage cfg choice s) Channel.blank (.done (.ok (map, m, s)))
      Channel.blank := by
  have heval : (serve storage cfg choice s).eval Channel.run Channel.blank
      = (.ok (map, m, s), Channel.blank) := by
    unfold serve
    rw [hload]
    cases choice with
    | memory =>
        rw [hmap]
        rfl
    | telegram =>
        rw [hmap]
        change (checkSuperblock m >>= _ : Prog tgSig _).eval Channel.run Channel.blank = _
        have hcheck : (checkSuperblock m).eval Channel.run Channel.blank
            = (.ok (), Channel.blank) := by
          unfold checkSuperblock
          rw [Prog.eval_bind_ok _ _ _ _ _ _ (eval_recoverSuperblockText Channel.blank 200)]
          rfl
        rw [Prog.eval_bind_ok _ _ _ _ _ _ hcheck]
        rfl
  have hex := exec_of_eval (S := tgSig) (E := Telegram) Channel.run telegram_run
    (serve storage cfg choice s) Channel.blank
  rw [heval] at hex
  exact hex

variable {ρ ρ' : Type} {raw : ρ → Int → Option Bytes}

/-- A device built from a store and a manifest, over a remote side. -/
def World.served (s : LocalStore) (m : Manifest) (r : ρ) : World ρ :=
  { store := s, manifest := m, locked := false, remote := r }

/-- A device that means the same as the one before: what both have is read as
    before, the objects of every request it takes are there, and what is
    written can be flushed. -/
structure SameDevice (R : (c : Call) → ρ → Except String c.Resp × ρ)
    (R' : (c : Call) → ρ' → Except String c.Resp × ρ') (dev dev' : BlockDevice) (w : World ρ)
    (w' : World ρ') : Prop where
  reads : ∀ offset len, offset + len ≤ dev.map.deviceSize → offset + len ≤ dev'.map.deviceSize →
    ∃ b, ((dev.readAt offset len).eval (deviceRun R) w).1 = .ok b ∧
      ((dev'.readAt offset len).eval (deviceRun R') w').1 = .ok b
  present : ∀ offset len, boundsOk dev'.map.deviceSize offset len = true → ∀ i, offset ≤ i →
    i < offset + len → (w'.manifest.find (i / dev'.map.objectSize)).isSome = true
  flushes : ∀ writes w1, writeAll R' dev' writes w' = .ok w1 →
    (dev'.flush.eval (deviceRun R') w1).1 = .ok ()

/-- Whatever was written and flushed under a geometry, after a format of a
    store, is served under a configuration as the same device, if it is served
    at all. -/
def KeepsMeaning (R : (c : Call) → ρ → Except String c.Resp × ρ)
    (R' : (c : Call) → ρ' → Except String c.Resp × ρ') (storage : TelegramStorage)
    (dev : BlockDevice) (cfg : Config) (choice : BackendChoice) (s0 : LocalStore) (r : ρ) : Prop :=
  ∀ w0 w, openStore s0 r = .ok w0 → Run (Env.ofRun (S := remoteSig) R) Policy.sparing dev w0 w →
    w.store.dirtyRows = [] → ∀ c c' map m s r',
      Exec Telegram (serve storage cfg choice w.store) c (.done (.ok (map, m, s))) c' →
      SameDevice R R' dev (BlockDevice.new map choice.committer) w (World.served s m r')

omit [Crates] in
/-- A payload is padded with zeros, whatever the object size. -/
theorem getD_padObject (payload : Bytes) (size k : Nat) (h : k < size) :
    (padObject payload size).getD k 0 = payload.getD k 0 := by
  rw [padObject]
  by_cases hk : k < payload.length
  · rw [List.getD_append _ _ _ _ (by rw [List.length_take]; omega), List.getD_eq_getElem?_getD,
      List.getElem?_take_of_lt h, ← List.getD_eq_getElem?_getD]
  · rw [List.getD_append_right _ _ _ _ (by rw [List.length_take]; omega),
      List.getD_replicate _ (by rw [List.length_take]; omega),
      List.getD_eq_default _ _ (Nat.le_of_not_lt hk)]

omit [Crates] in
theorem getD_zeros (size k : Nat) : (List.replicate size (0 : UInt8)).getD k 0 = 0 := by
  by_cases hk : k < size
  · exact List.getD_replicate _ hk
  · exact List.getD_eq_default _ _ (by rw [List.length_replicate]; omega)

omit [Crates] in
/-- Under two object sizes an object has the same bytes, as far as both go. -/
theorem Manifest.getD_content (m : Manifest) (messages : Int → Option Bytes)
    (size size' id k : Nat) (h : k < size) (h' : k < size') :
    (m.content messages size id).getD k 0 = (m.content messages size' id).getD k 0 := by
  rcases hf : m.find id with _ | e
  · rw [m.content_none _ _ _ hf, m.content_none _ _ _ hf, getD_zeros, getD_zeros]
  · rcases hz : e.zero with _ | _
    · rcases hr : e.remote with _ | r
      · rw [m.content_unsent _ _ _ e hf hz hr, m.content_unsent _ _ _ e hf hz hr, getD_zeros,
          getD_zeros]
      · rw [m.content_remote _ _ _ e r hf hz hr, m.content_remote _ _ _ e r hf hz hr, objectOf,
          objectOf, getD_padObject _ _ _ h, getD_padObject _ _ _ h']
    · rw [m.content_zero _ _ _ e hf hz, m.content_zero _ _ _ e hf hz, getD_zeros, getD_zeros]

omit [Crates] in
/-- The content of an object is a matter of its entry. -/
theorem Manifest.content_congr (m m' : Manifest) (messages : Int → Option Bytes) (size id : Nat)
    (h : m'.find id = m.find id) : m'.content messages size id = m.content messages size id := by
  unfold Manifest.content
  rw [h]

section Served

variable {map map' : BlockMap} {w : World ρ}

/-- A durable store without dirty rows, opened under another geometry that it
    covers, over any remote side: it is durable, stocked, and has the objects
    it had. -/
theorem Durable.served (hw : Durable raw map w) (hs : Stocked w) (hrows : w.store.dirtyRows = [])
    (hcount : map'.objectCount ≤ map.objectCount) (m : Manifest)
    (hload : w.store.loadManifest = .ok (some m)) (r' : ρ') :
    Durable (fun _ => raw w.remote) map' (World.served w.store m r') ∧
    Stocked (World.served w.store m r') ∧ ∀ id, m.find id = w.manifest.find id := by
  have hnone := (LocalStore.dirtyRows_eq_nil w.store).mp hrows
  rcases hw.stored with ⟨m', hm', ⟨n, hn, hids⟩, hsame⟩
  rw [hload, Except.ok.injEq, Option.some.injEq] at hm'
  rw [← hm'] at hsame hids
  have hfind : ∀ id, m.find id = w.manifest.find id := fun id => hsame id (hnone id)
  refine ⟨?_, fun id e hd hf => hs id e hd ((hfind id).symm.trans hf), hfind⟩
  exact {
    consistent := {
      path := hw.consistent.path
      clean := fun id e hd hf => hw.consistent.clean id e hd ((hfind id).symm.trans hf) }
    rows := fun id d hd => absurd ((hnone id).symm.trans hd) (fun h => by cases h)
    live := fun id e hd hf => hw.live id e hd ((hfind id).symm.trans hf)
    ids := ⟨n, Nat.le_trans hcount hn, hids⟩
    stored := ⟨m, hload, ⟨n, Nat.le_trans hcount hn, hids⟩, fun _ _ => rfl⟩ }

omit [Crates] in
/-- Under a geometry that cuts what it shares with the old one the same way,
    the array is the same. -/
theorem array_served (hrows : w.store.dirtyRows = []) (m : Manifest)
    (hfind : ∀ id, m.find id = w.manifest.find id) (r' : ρ') (i : Nat)
    (hsizes : map'.objectSize = map.objectSize ∨ i < min map.objectSize map'.objectSize) :
    (World.served w.store m r').array (fun _ => raw w.remote) map'.objectSize i
      = w.array raw map.objectSize i := by
  have hnone := (LocalStore.dirtyRows_eq_nil w.store).mp hrows
  have hobject : ∀ size id, (World.served w.store m r').content (fun _ => raw w.remote) size id
      = w.content raw size id := by
    intro size id
    rw [World.content_clean _ _ (World.served w.store m r') id (hnone id),
      World.content_clean _ _ w id (hnone id)]
    exact Manifest.content_congr _ _ _ _ _ (hfind id)
  rw [World.array, World.array, arrayOf, arrayOf, hobject]
  rcases hsizes with hsize | hi
  · rw [hsize]
  · have h1 : i < map.objectSize := by omega
    have h2 : i < map'.objectSize := by omega
    rw [Nat.div_eq_of_lt h1, Nat.div_eq_of_lt h2, Nat.mod_eq_of_lt h1, Nat.mod_eq_of_lt h2,
      World.content_clean _ _ _ 0 (hnone 0), World.content_clean _ _ _ 0 (hnone 0)]
    exact Manifest.getD_content _ _ _ _ _ _ h2 h1

end Served

omit [Crates] in
/-- A manifest whose entry for an object is blank, or missing, has zeros there. -/
theorem getD_blank (messages : Int → Option Bytes) (m m0 : Manifest) (uuid : Uuid)
    (objectSize objectCount size id k : Nat) (hm0 : m0 = Manifest.empty uuid objectSize objectCount)
    (h : m.find id = m0.find id) : (m.content messages size id).getD k 0 = 0 := by
  rw [Manifest.content_congr m0 m messages size id h]
  rcases hf : m0.find id with _ | e
  · rw [Manifest.content_none _ _ _ _ hf, getD_zeros]
  · have hmem := m0.mem_of_find id e hf
    rw [hm0] at hmem
    rw [Manifest.content_zero _ _ _ _ e hf (Manifest.mem_empty _ _ _ e hmem).1, getD_zeros]

variable (R : (c : Call) → ρ → Except String c.Resp × ρ)

/-- One byte written over a blank device and flushed: the byte is there, and
    the entries of the other objects are as they were. -/
theorem flushed_byte (hR : Returns (Env.ofRun (S := remoteSig) R) raw) (dev : BlockDevice)
    (hwilling : Willing (Env.ofRun (S := remoteSig) R) dev) (hsize : 0 < dev.map.objectSize)
    (w0 : World ρ) (hw0 : Durable raw dev.map w0) (hs0 : Stocked w0) (hfree : w0.locked = false)
    (hrows : w0.store.dirtyRows = []) (hroom : 0 < dev.maxDirtyObjects)
    (hgen : w0.manifest.generation + 1 < 2 ^ 64) (a : Nat → UInt8)
    (ha : Shows raw dev.map.objectSize w0 a) (p : Nat) (b : UInt8) (hin : p < dev.map.deviceSize) :
    ∃ w2, Run (Env.ofRun (S := remoteSig) R) Policy.sparing dev w0 w2 ∧ w2.store.dirtyRows = [] ∧
      w2.store.loadManifest = .ok (some w2.manifest) ∧
      (∀ id, id ≠ p / dev.map.objectSize → w2.manifest.find id = w0.manifest.find id) ∧
      w2.array raw dev.map.objectSize p = b := by
  have hcount : w0.store.dirtyCount = 0 := by
    rw [LocalStore.dirtyCount, (Table.select_eq_nil _ _).mp hrows]
    rfl
  have hnone := (LocalStore.dirtyRows_eq_nil w0.store).mp hrows
  rcases eval_writeAt_byte R dev hsize w0 hw0 hs0 hfree (by omega) hgen p b hin with
    ⟨t, w1, encoded, hwrite, hdirty⟩
  have hwrites : writeAll R dev [(p, [b])] w0 = .ok w1 := by
    rw [writeAll, hwrite]
    rfl
  rcases writeAll_durable R hR dev hsize _ w0 w1 a hw0 ha hwrites with
    ⟨hw1, ha1, hlock, hmanifest, _⟩
  have hok := hw1.flushes R dev hwilling hsize (hlock.trans hfree) (by rw [hmanifest]; exact hgen)
  have hpost := wp_deviceRun R _ _ _ w1
    (wp_flush (B := Env.ofRun (S := remoteSig) R) (P := Policy.quiet) dev w1)
  have hrun := exec_deviceRun (P := Policy.sparing) R dev.flush w1
  rcases hflush : dev.flush.eval (deviceRun R) w1 with ⟨r, w2⟩
  rw [hflush] at hok hpost hrun
  have hr : r = .ok () := hok
  rw [hr] at hpost hrun
  have hwrun := exec_deviceRun (P := Policy.sparing) R (dev.writeAt p [b]) w0
  rw [hwrite] at hwrun
  have hshows := Carried.shows _ w1 w2 (hpost.1.carried hR) hw1.consistent _ ha1
  have hrow : w1.store.dirtyRows ≠ [] := by
    intro hnil
    have hself := hdirty.rows (p / dev.map.objectSize)
    rw [(LocalStore.dirtyRows_eq_nil w1.store).mp hnil, if_pos rfl] at hself
    cases hself
  refine ⟨w2, .next _ _ .flush _ (.next _ _ (.write p [b]) _ .start hwrun) hrun, ?_⟩
  -- The array at the byte is the byte.
  have hbyte : w2.array raw dev.map.objectSize p = b := by
    have hmod := Nat.mod_lt p hsize
    have hdiv := Nat.div_add_mod p dev.map.objectSize
    rw [Nat.mul_comm] at hdiv
    rw [World.array, arrayOf, hshows, List.getD_eq_getElem?_getD, getElem?_span _ _ _ _ hmod, hdiv,
      Option.getD_some]
    have hinside := splice_inside a p [b] 0 Nat.one_pos
    exact Option.some.inj hinside
  rcases hpost with ⟨hflushed, _, _⟩
  cases hflushed with
  | idle hnil => exact absurd hnil hrow
  | early _ _ ho => exact absurd rfl ho
  | stopped _ _ ho => exact absurd rfl ho
  | refused _ _ _ ho => exact absurd rfl ho
  | cut _ _ _ ho => exact absurd rfl ho
  | finished _ s _ hup hs hstore =>
      refine ⟨?_, ?_, fun id hid => ?_, hbyte⟩
      · rw [hstore, LocalStore.dirtyRows_eq_nil]
        exact fun id => LocalStore.dirtyObject_clear _ id
      · rw [hstore, LocalStore.loadManifest_congr _ _ (LocalStore.manifestState_clear _),
          LocalStore.loadManifest_setManifestState]
      · rw [hup.find_other id fun d hd hdid => ?_, ← hmanifest]
        · rfl
        · -- Only the object of the byte has a row.
          have hother := hdirty.rows id
          rw [if_neg hid] at hother
          have hgot := (LocalStore.mem_dirtyRows w1.store d).mp hd
          rw [hdid, hother] at hgot
          cases (hnone id).symm.trans hgot

variable (R' : (c : Call) → ρ' → Except String c.Resp × ρ')

omit [Crates] in
/-- A block map has the objects of its configuration. -/
theorem Config.blockMap_count (cfg : Config) (hfits : cfg.Machine) (map : BlockMap)
    (hmap : cfg.blockMap = .ok map) : map.objectCount = cfg.objectCount := by
  rcases cfg.blockMap_sizes hfits map hmap with ⟨hdevice, hobject⟩
  rw [BlockMap.objectCount, Config.objectCount, hdevice, hobject]

section Geometry

variable (storage : TelegramStorage) (cfg' : Config) (choice : BackendChoice)
  {map map' : BlockMap} (committer : Bool) (hsize : 0 < map.objectSize)
  (hsize' : 0 < map'.objectSize) (m0 : Manifest) (s0 : LocalStore) (r : ρ)
  (hopen : openStore s0 r = .ok (World.served s0 m0 r)) (hrows0 : s0.dirtyRows = [])

include hsize' hopen hrows0

/-- A device that keeps its meaning has no more objects: without a write, the
    last object of the new geometry would be missing. -/
theorem count_of_keeps (hmap' : cfg'.blockMap = .ok map') (r' : ρ')
    (hload0 : s0.loadManifest = .ok (some m0))
    (hids : m0.objects.map ManifestObject.objectId = List.range map.objectCount)
    (hkeeps : KeepsMeaning R R' storage (BlockDevice.new map committer) cfg' choice s0 r) :
    map'.objectCount ≤ map.objectCount := by
  by_contra hmore
  have hsame := hkeeps _ _ hopen .start hrows0 _ _ map' m0 s0 r'
    (exec_serve_blank storage cfg' choice s0 m0 hload0 map' hmap')
  have hin : map.objectCount * map'.objectSize < map'.deviceSize := by
    have hlt : map.objectCount < (map'.deviceSize + map'.objectSize - 1) / map'.objectSize := by
      rw [← BlockMap.objectCount]
      omega
    rw [Nat.lt_iff_add_one_le, Nat.le_div_iff_mul_le hsize', Nat.succ_mul] at hlt
    omega
  have hlt := map'.deviceSize_lt
  have hfind := hsame.present (map.objectCount * map'.objectSize) 1 (by
    unfold boundsOk
    change (if map.objectCount * map'.objectSize + 1 < 2 ^ 64 then
      decide (map.objectCount * map'.objectSize + 1 ≤ map'.deviceSize) else false) = true
    rw [if_pos (by omega), decide_eq_true (by omega)]) _ (Nat.le_refl _) (Nat.lt_succ_self _)
  change (m0.find (map.objectCount * map'.objectSize / map'.objectSize)).isSome = true at hfind
  rw [Nat.mul_div_cancel _ hsize'] at hfind
  rcases Option.isSome_iff_exists.mp hfind with ⟨e, he⟩
  have hmem : e.objectId ∈ m0.objects.map ManifestObject.objectId :=
    List.mem_map_of_mem (m0.mem_of_find _ e he)
  rw [hids, m0.objectId_of_find _ e he] at hmem
  exact absurd (List.mem_range.mp hmem) (Nat.lt_irrefl _)

include hsize

/-- It cuts its objects the same way, or shares the first one at most: the byte
    where the second object of the smaller size begins is in another object
    under the other size. -/
theorem cut_of_keeps (hR : Returns (Env.ofRun (S := remoteSig) R) raw)
    (hE : Echoes (Env.ofRun (S := remoteSig) R))
    (hserves : Serves (Env.ofRun (S := remoteSig) R) raw)
    (hwilling : Willing (Env.ofRun (S := remoteSig) R) (BlockDevice.new map committer))
    (hmap' : cfg'.blockMap = .ok map') (r' : ρ') (uuid : Uuid) (objectSize objectCount : Nat)
    (hm0 : m0 = Manifest.empty uuid objectSize objectCount)
    (hdurable : Durable raw map (World.served s0 m0 r)) (hstocked : Stocked (World.served s0 m0 r))
    (hle : map'.objectCount ≤ map.objectCount)
    (hkeeps : KeepsMeaning R R' storage (BlockDevice.new map committer) cfg' choice s0 r) :
    map'.objectSize = map.objectSize ∨
      min map.deviceSize map'.deviceSize ≤ min map.objectSize map'.objectSize := by
  by_contra hcut
  rcases not_or.mp hcut with ⟨hne, hmin⟩
  have hgen : m0.generation + 1 < 2 ^ 64 := by
    rw [hm0]
    change 0 + 1 < 2 ^ 64
    decide
  -- One byte is written where that object begins, and flushed.
  rcases flushed_byte R hR (BlockDevice.new map committer) hwilling hsize _ hdurable hstocked rfl
    hrows0 (by change 0 < 4096; decide) hgen _ (shows_array raw _ _)
    (min map.objectSize map'.objectSize) 1 (by change _ < map.deviceSize; omega) with
    ⟨w2, hrun, hclean, hload, hother, hbyte⟩
  have hw2 := Run.durable hR hE careful_sparing _ hsize _ w2 hdurable hrun
  rcases Run.stocked hR hE careful_sparing _ hsize _ w2 hdurable hstocked rfl hrun with
    ⟨hs2, hfree2⟩
  rcases hw2.served hs2 hclean hle w2.manifest hload r' with ⟨hserved, hstocked', _⟩
  have hsame := hkeeps _ w2 hopen hrun hclean _ _ map' w2.manifest w2.store r'
    (exec_serve_blank storage cfg' choice w2.store w2.manifest hload map' hmap')
  have hin : min map.objectSize map'.objectSize + 1 ≤ map.deviceSize := by omega
  have hin' : min map.objectSize map'.objectSize + 1 ≤ map'.deviceSize := by omega
  rcases hsame.reads (min map.objectSize map'.objectSize) 1 hin hin' with ⟨b, hold, hnew⟩
  rw [hw2.reads R hR hserves _ hsize hfree2 _ (shows_array raw _ w2) _ 1 hin,
    Except.ok.injEq] at hold
  rw [eval_readAt_stocked R' _ hsize' _ hserved hstocked' rfl _ 1 hin', Except.ok.injEq,
    ← hold] at hnew
  have hequal := List.head_eq_of_cons_eq hnew
  rw [hbyte] at hequal
  have hzero : (World.served w2.store w2.manifest r').array (fun _ => raw w2.remote)
      map'.objectSize (min map.objectSize map'.objectSize) = 0 := by
    rw [World.array, arrayOf, World.content_clean _ _ (World.served w2.store w2.manifest r') _
      ((LocalStore.dirtyRows_eq_nil w2.store).mp hclean _)]
    refine getD_blank _ w2.manifest m0 uuid objectSize objectCount _ _ _ hm0 (hother _ ?_)
    change _ ≠ min map.objectSize map'.objectSize / map.objectSize
    -- It is the second object under the smaller size, and the first one
    -- under the greater.
    rcases Nat.lt_or_gt_of_ne (show map.objectSize ≠ map'.objectSize by omega) with hlt | hlt
    · rw [Nat.min_eq_left (Nat.le_of_lt hlt), Nat.div_eq_of_lt hlt, Nat.div_self hsize]
      exact Nat.zero_ne_one
    · rw [Nat.min_eq_right (Nat.le_of_lt hlt), Nat.div_eq_of_lt hlt, Nat.div_self hsize']
      exact Nat.one_ne_zero
  exact absurd (hequal.symm.trans hzero) (by decide)

omit hopen hrows0

/-- A clean store is served as the same device under a geometry that has no more
    objects and cuts what it shares with the old one the same way. -/
theorem same_device (hR : Returns (Env.ofRun (S := remoteSig) R) raw)
    (hserves : Serves (Env.ofRun (S := remoteSig) R) raw)
    (hwilling' : Willing (Env.ofRun (S := remoteSig) R') (BlockDevice.new map' choice.committer))
    (w : World ρ) (hw : Durable raw map w) (hs : Stocked w) (hfree : w.locked = false)
    (hclean : w.store.dirtyRows = []) (m : Manifest) (hload : w.store.loadManifest = .ok (some m))
    (r' : ρ') (hless : map'.objectCount ≤ map.objectCount)
    (hcut : map'.objectSize = map.objectSize ∨
      min map.deviceSize map'.deviceSize ≤ min map.objectSize map'.objectSize) :
    SameDevice R R' (BlockDevice.new map committer) (BlockDevice.new map' choice.committer) w
      (World.served w.store m r') := by
  rcases hw.served hs hclean hless m hload r' with ⟨hserved, hstocked', hfind⟩
  refine { reads := ?_, present := ?_, flushes := ?_ }
  · intro offset len hin hin'
    refine ⟨_, hw.reads R hR hserves _ hsize hfree _ (shows_array raw _ w) offset len hin, ?_⟩
    rw [eval_readAt_stocked R' _ hsize' _ hserved hstocked' rfl offset len hin']
    refine congrArg Except.ok (span_congr _ _ _ _ fun i _ hi => ?_)
    change offset + len ≤ map.deviceSize at hin
    change offset + len ≤ map'.deviceSize at hin'
    refine array_served hclean m hfind r' i ?_
    change map'.objectSize = map.objectSize ∨ i < min map.objectSize map'.objectSize
    rcases hcut with hcut | hcut
    · exact Or.inl hcut
    · exact Or.inr (by omega)
  · intro offset len hbounds i _ hi
    change boundsOk map'.deviceSize offset len = true at hbounds
    unfold boundsOk at hbounds
    by_cases hsum : offset + len < 2 ^ 64
    · rw [if_pos hsum, decide_eq_true_eq] at hbounds
      refine hserved.ids.find_isSome _ map' _ ?_ hsize'
      have hdiv := Nat.div_mul_le_self i map'.objectSize
      change i / map'.objectSize * map'.objectSize < map'.deviceSize
      omega
    · rw [if_neg hsum] at hbounds
      cases hbounds
  · intro writes w1 hwrites
    exact flushes_stocked R' _ hwilling' hsize' writes _ w1 hserved hstocked' rfl hclean hwrites

end Geometry

/-- What was written and flushed under one geometry is served under another, in
    every case in which it is served at all, as the same device if and only if
    the new geometry has no more objects, and either cuts them the same way or
    shares with the old one at most the first object of both. -/
theorem serve_geometry_iff [Nonempty ρ'] (hR : Returns (Env.ofRun (S := remoteSig) R) raw)
    (hE : Echoes (Env.ofRun (S := remoteSig) R))
    (hserves : Serves (Env.ofRun (S := remoteSig) R) raw) (storage : TelegramStorage)
    (cfg cfg' : Config) (hfits : cfg.Machine) (hfits' : cfg'.Machine)
    (hvalid' : cfg'.validate = .ok ()) (uuid : Uuid) (sqliteExists force localOnly : Bool)
    (c0 c1 : Channel) (m0 : Manifest) (s s0 : LocalStore)
    (hformat : Exec Telegram (format storage cfg uuid sqliteExists force localOnly) c0
      (.done (.ok m0)) c1)
    (hstore : storeManifest m0 s = .ok s0) (hrows : s.dirtyRows = []) (map : BlockMap)
    (hmap : cfg.blockMap = .ok map) (committer : Bool)
    (hwilling : Willing (Env.ofRun (S := remoteSig) R) (BlockDevice.new map committer))
    (choice : BackendChoice)
    (hwilling' : ∀ map', Willing (Env.ofRun (S := remoteSig) R')
      (BlockDevice.new map' choice.committer)) (r : ρ) :
    KeepsMeaning R R' storage (BlockDevice.new map committer) cfg' choice s0 r ↔
      cfg'.objectCount ≤ cfg.objectCount ∧ (cfg'.objectSize = cfg.objectSize ∨
        min cfg.deviceSize cfg'.deviceSize ≤ min cfg.objectSize cfg'.objectSize) := by
  rcases wp_done _ _ _ _ _ _ (wp_format storage cfg uuid sqliteExists force localOnly c0) hformat m0
    rfl with ⟨hvalid, hm0⟩
  rcases cfg.blockMap_sizes hfits map hmap with ⟨hdevice, hobject⟩
  have hpos := cfg.objectSize_pos hvalid
  have hpos' := cfg'.objectSize_pos hvalid'
  have hcount := cfg.blockMap_count hfits map hmap
  have hs0 := storeManifest_eq_ok m0 s s0 hstore
  have hload0 : s0.loadManifest = .ok (some m0) := by
    rw [hs0, LocalStore.loadManifest_setManifestState]
  have hopen : openStore s0 r = .ok (World.served s0 m0 r) := by
    unfold openStore
    rw [hload0]
    rfl
  have hdurable : Durable raw map (World.served s0 m0 r) := by
    rw [hs0]
    exact durable_formatted map m0 uuid (by rw [hm0, hobject, hcount]) s r hrows
  have hrows0 : s0.dirtyRows = [] := by
    rw [hs0]
    exact hrows
  -- No entry of a blank manifest needs a file.
  have hstocked : Stocked (World.served s0 m0 r) := by
    intro id e _ hf hz
    have hmem := Manifest.mem_of_find _ id e hf
    rw [show (World.served s0 m0 r).manifest = m0 from rfl, hm0] at hmem
    rw [(Manifest.mem_empty _ _ _ e hmem).1] at hz
    cases hz
  have hsize : 0 < map.objectSize := by omega
  constructor
  · intro hkeeps
    rcases ‹Nonempty ρ'› with ⟨r'⟩
    rcases cfg'.exists_blockMap hfits' hvalid' with ⟨map', hmap'⟩
    rcases cfg'.blockMap_sizes hfits' map' hmap' with ⟨hdevice', hobject'⟩
    have hsize' : 0 < map'.objectSize := by omega
    have hids : m0.objects.map ManifestObject.objectId = List.range map.objectCount := by
      rw [hm0, hcount]
      exact Manifest.ids_empty uuid cfg.objectSize cfg.objectCount
    have hle := count_of_keeps R R' storage cfg' choice committer hsize' m0 s0 r hopen hrows0 hmap'
      r' hload0 hids hkeeps
    have hcut := cut_of_keeps R R' storage cfg' choice committer hsize hsize' m0 s0 r hopen hrows0
      hR hE hserves hwilling hmap' r' uuid _ _ hm0 hdurable hstocked hle hkeeps
    rw [cfg'.blockMap_count hfits' map' hmap', hcount] at hle
    rw [hobject, hobject', hdevice, hdevice'] at hcut
    exact ⟨hle, hcut⟩
  · rintro ⟨hle, hcut⟩ w0 w hw0 hrun hclean c c' map' m s' r' hserve
    rw [hopen, Except.ok.injEq] at hw0
    rw [← hw0] at hrun
    have hw := Run.durable hR hE careful_sparing _ hsize _ w hdurable hrun
    rcases Run.stocked hR hE careful_sparing _ hsize _ w hdurable hstocked rfl hrun with
      ⟨hs, hfree⟩
    -- What is served is the manifest of the store.
    rcases hw.stored with ⟨m1, hload, _, _⟩
    rcases wp_done _ _ _ _ _ _ (wp_serve storage cfg' choice w.store m1 hload c) hserve _ rfl with
      ⟨hmap', hpair⟩
    rcases Prod.mk.inj hpair with ⟨hm, hs'⟩
    change m = m1 at hm
    change s' = w.store at hs'
    rw [hm, hs']
    rcases cfg'.blockMap_sizes hfits' map' hmap' with ⟨hdevice', hobject'⟩
    refine same_device R R' choice committer hsize (by omega) hR hserves (hwilling' map') w hw hs
      hfree hclean m1 hload r' ?_ ?_
    · rw [cfg'.blockMap_count hfits' map' hmap', hcount]
      exact hle
    · rw [hobject, hobject', hdevice, hdevice']
      exact hcut

end Crates

section Small

attribute [local instance] concreteCrates

/-- The least configuration with another object. -/
def grownConfig : Config := { leastConfig with deviceSize := 196608 }

theorem blockMap_least : leastConfig.blockMap = .ok leastMap := rfl

/-- The device is formatted and served under one configuration. -/
theorem serve_geometry_small : KeepsMeaning MemoryBackend.run MemoryBackend.run ⟨-100⟩
    (BlockDevice.new leastMap false) leastConfig .memory
    (LocalStore.empty.setManifestState (Manifest.empty ⟨7⟩ 65536 2)) (MemoryBackend.new (-100)) := by
  have : Nonempty MemoryBackend := ⟨MemoryBackend.new (-100)⟩
  exact (serve_geometry_iff MemoryBackend.run MemoryBackend.run MemoryBackend.returns
    MemoryBackend.echoes MemoryBackend.serves ⟨-100⟩ leastConfig leastConfig
    ⟨by decide, by decide, by decide⟩ ⟨by decide, by decide, by decide⟩ (by decide) ⟨7⟩ true true
    true Channel.blank Channel.blank _ LocalStore.empty _ (exec_format_least _)
    (storeManifest_ok _ _ (by decide)) rfl leastMap blockMap_least false
    (MemoryBackend.willing _ rfl) .memory (fun _ => MemoryBackend.willing _ rfl) _).mpr
    ⟨Nat.le_refl _, Or.inl rfl⟩

/-- A device that has grown by an object does not have it. -/
theorem serve_grown : ¬KeepsMeaning MemoryBackend.run MemoryBackend.run ⟨-100⟩
    (BlockDevice.new leastMap false) grownConfig .memory
    (LocalStore.empty.setManifestState (Manifest.empty ⟨7⟩ 65536 2)) (MemoryBackend.new (-100)) := by
  intro hkeeps
  have hload := LocalStore.loadManifest_setManifestState (Manifest.empty ⟨7⟩ 65536 2)
    LocalStore.empty
  rcases grownConfig.exists_blockMap ⟨by decide, by decide, by decide⟩ (by decide) with
    ⟨map, hmap⟩
  rcases grownConfig.blockMap_sizes ⟨by decide, by decide, by decide⟩ map hmap with
    ⟨hdevice, hobject⟩
  have hopen : openStore (LocalStore.empty.setManifestState (Manifest.empty ⟨7⟩ 65536 2))
      (MemoryBackend.new (-100)) = .ok (World.served
        (LocalStore.empty.setManifestState (Manifest.empty ⟨7⟩ 65536 2))
        (Manifest.empty ⟨7⟩ 65536 2) (MemoryBackend.new (-100))) := by
    unfold openStore
    rw [hload]
    rfl
  have hsame := hkeeps _ _ hopen .start rfl _ _ map _ _ (MemoryBackend.new (-100))
    (exec_serve_blank ⟨-100⟩ grownConfig .memory _ _ hload map hmap)
  have hfind := hsame.present 131072 1 (by
    change boundsOk map.deviceSize 131072 1 = true
    rw [hdevice]
    decide) 131072 (Nat.le_refl _) (Nat.lt_succ_self _)
  change ((Manifest.empty ⟨7⟩ 65536 2).find (131072 / map.objectSize)).isSome = true at hfind
  rw [hobject] at hfind
  exact absurd hfind (by decide)

end Small

end TgDrive
