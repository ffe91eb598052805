import TgDrive.Core.Concrete
import TgDrive.Core.FlushSpec

/-!
# A Device Is a Flat Array

One client that calls `read_at`, `write_at` and `flush`, one after the other.
The abstract side is an array of bytes that a write changes by putting its
bytes over it and that nothing else changes; `Agrees` says that the answers of
a session are those of this array. Reads and flushes of a session may fail in
any way that the disk and the backend allow, writes are those that succeeded.

A flush changes no content, whatever becomes of it: `Carried` is what it does
to an object. Either the object keeps its row, and then its entry does not
matter; or its row is gone, and its entry leads to what the row's file held.

## Main definitions

* `Carried`: What a flush does to the objects of a world.
* `Event`, `Session`: What a client did, and the sessions of a device.
* `Agrees`: The answers of a session are those of a flat array.
* `Policy.steady`: Disks that may fail everywhere but in a write.
* `Manifest.WellFormed`: A manifest a device may start from.

## Theorems

* `Flushed.carried`: However a flush ends, it carries all objects.
* `Carried.consistent`, `Carried.content`: What carrying keeps.
* `session_agrees`: The sessions of a device agree with a flat array.
-/

namespace TgDrive

open Data Effect

section Crates

variable {ρ : Type} [Crates] {B : Backend ρ} {P : Policy ρ} {raw : ρ → Int → Option Bytes}

/-- What a flush does to the objects of a world: each keeps its row, or loses
    it to an entry that leads to what the row's file held. -/
structure Carried (B : Backend ρ) (raw : ρ → Int → Option Bytes) (w w' : World ρ) : Prop where
  files : w'.store.files = w.store.files
  keeps : ∀ i b, raw w.remote i = some b → raw w'.remote i = some b
  object : ∀ id, (w'.store.dirtyObject id = w.store.dirtyObject id ∧
      (w.store.dirtyObject id = none → w'.manifest.find id = w.manifest.find id)) ∨
    ∃ d b e r, w.store.dirtyObject id = some d ∧ w'.store.dirtyObject id = none ∧
      w.store.files d.cachePath = some b ∧ w'.manifest.find id = some e ∧
      e.generation = d.generation ∧ e.zero = false ∧ e.remote = some r ∧
      raw w'.remote r.messageId = some b ∧ (Echoes B → e.Live (raw w'.remote))

theorem Carried.refl (w : World ρ) : Carried B raw w w where
  files := rfl
  keeps := fun _ _ h => h
  object := fun _ => Or.inl ⟨rfl, fun _ => rfl⟩

/-- Carrying keeps a world consistent. -/
theorem Carried.consistent (w w' : World ρ) (h : Carried B raw w w') (hw : Consistent raw w) :
    Consistent raw w' where
  path := by
    intro id d hd
    rcases h.object id with ⟨hrow, _⟩ | ⟨_, _, _, _, _, hnone, _⟩
    · rw [hrow] at hd
      exact hw.path id d hd
    · rw [hnone] at hd
      cases hd
  clean := by
    intro id e hd hf hz
    rcases h.object id with ⟨hrow, hsame⟩ | ⟨d, b, e', r, hd', _, hb, hf', hg, _, hr, hraw, _⟩
    · rw [hrow] at hd
      rw [hsame hd] at hf
      rcases hw.clean id e hd hf hz with ⟨r, b, hr, hraw, hcopy⟩
      refine ⟨r, b, hr, h.keeps _ _ hraw, fun b' hb' => ?_⟩
      rw [h.files] at hb'
      exact hcopy b' hb'
    · -- The entry is the one the flush made, and its file the row's.
      rw [hf', Option.some.injEq] at hf
      rw [← hf]
      refine ⟨r, b, hr, hraw, fun b' hb' => ?_⟩
      rw [hg, ← hw.path id d hd', h.files, hb, Option.some.injEq] at hb'
      exact hb'.symm

/-- Carrying leaves all contents alone. -/
theorem Carried.content (objectSize : Nat) (w w' : World ρ) (h : Carried B raw w w')
    (hw : Consistent raw w) (id : Nat) :
    w'.content raw objectSize id = w.content raw objectSize id := by
  rcases h.object id with ⟨hrow, hsame⟩ | ⟨d, b, e, r, hd, hnone, hb, hf, _, hz, hr, hraw, _⟩
  · rcases hd : w.store.dirtyObject id with _ | d
    · rw [w'.content_clean raw _ _ (hrow.trans hd), w.content_clean raw _ _ hd]
      have hfind := hsame hd
      rcases hf : w.manifest.find id with _ | e
      · rw [Manifest.content_none _ _ _ _ (hfind.trans hf), Manifest.content_none _ _ _ _ hf]
      · rcases hz : e.zero with _ | _
        · rcases hw.clean id e hd hf hz with ⟨r, b, hr, hraw, _⟩
          rw [Manifest.content_remote _ _ _ _ e r (hfind.trans hf) hz hr,
            Manifest.content_remote _ _ _ _ e r hf hz hr, hraw, h.keeps _ _ hraw]
        · rw [Manifest.content_zero _ _ _ _ e (hfind.trans hf) hz,
            Manifest.content_zero _ _ _ _ e hf hz]
    · rw [w'.content_dirty raw _ _ d (hrow.trans hd), w.content_dirty raw _ _ d hd, h.files]
  · rw [w'.content_clean raw _ _ hnone, w.content_dirty raw _ _ d hd,
      Manifest.content_remote _ _ _ _ e r hf hz hr, hraw, hb]

theorem Carried.shows (objectSize : Nat) (w w' : World ρ) (h : Carried B raw w w')
    (hw : Consistent raw w) (a : Nat → UInt8) (ha : Shows raw objectSize w a) :
    Shows raw objectSize w' a := fun id =>
  (Carried.content objectSize w w' h hw id).trans (ha id)

/-- Uploads of some of the dirty objects carry all of them, as long as the
    rows stay. -/
theorem Uploads.carried (hB : Returns B raw) (w w' : World ρ) (sent : List DirtyObject) (s : ρ)
    (hsent : sent <+: w.store.dirtyRows)
    (hup : Uploads B w.store.files w.bumped w.remote sent w'.manifest s)
    (hkeeps : ∀ i b, raw s i = some b → raw w'.remote i = some b)
    (hfiles : w'.store.files = w.store.files)
    (hrows : ∀ id, w'.store.dirtyObject id = w.store.dirtyObject id) : Carried B raw w w' where
  files := hfiles
  keeps := fun i b hi => hkeeps i b (hup.raw_keeps hB i b hi)
  object := by
    intro id
    refine Or.inl ⟨hrows id, fun hnone => hup.find_other id fun d hd hid => ?_⟩
    -- An uploaded object has a row.
    have hrow := (LocalStore.mem_dirtyRows w.store d).mp (hsent.subset hd)
    rw [hid, hnone] at hrow
    cases hrow

/-- Uploads of all dirty objects carry them, when the rows go. -/
theorem Uploads.carried_cleared (hB : Returns B raw) (w w' : World ρ) (s : ρ)
    (hup : Uploads B w.store.files w.bumped w.remote w.store.dirtyRows w'.manifest s)
    (hkeeps : ∀ i b, raw s i = some b → raw w'.remote i = some b)
    (hfiles : w'.store.files = w.store.files)
    (hrows : ∀ id, w'.store.dirtyObject id = .none) : Carried B raw w w' where
  files := hfiles
  keeps := fun i b hi => hkeeps i b (hup.raw_keeps hB i b hi)
  object := by
    intro id
    rcases hd : w.store.dirtyObject id with _ | d
    · refine Or.inl ⟨hrows id, fun _ => hup.find_other id fun d hmem hid => ?_⟩
      have hrow := (LocalStore.mem_dirtyRows w.store d).mp hmem
      rw [hid, hd] at hrow
      cases hrow
    · have hid := w.store.objectId_of_dirtyObject id d hd
      have hmem : d ∈ w.store.dirtyRows :=
        (LocalStore.mem_dirtyRows w.store d).mpr (by rw [hid]; exact hd)
      rcases hup.find_self hB (LocalStore.nodup_dirtyRows w.store) d hmem with
        ⟨b, ref, e0, hsound, he0, hf, hraw, hecho⟩
      rw [hid] at hf
      refine Or.inr ⟨d, b, _, ref, rfl, hrows id, hsound.file, hf, rfl, rfl, rfl,
        hkeeps _ _ hraw, fun hE => ?_⟩
      rcases hsound.decodes with ⟨env, henv⟩
      rcases hecho hE with ⟨hi, hg, hs⟩
      have hobj := Manifest.objectId_of_find _ _ _ he0
      refine ⟨ref, sha256Hex b, b, env, rfl, rfl, hkeeps _ _ hraw, rfl, ?_, ?_, hg, hs⟩
      · exact hobj ▸ henv
      · exact hi.trans hobj.symm

/-- However a flush ends, it carries all objects. -/
theorem Flushed.carried (hB : Returns B raw) (dev : BlockDevice) (w w' : World ρ)
    (o : Outcome Unit) (h : Flushed B dev w o w') : Carried B raw w w' := by
  -- The commit, if there is one, keeps what was uploaded.
  have hcommit : ∀ m s s', Committed B dev m s s' → ∀ i b, raw s i = some b →
      raw s' i = some b := by
    intro m s s' hs i b hi
    unfold Committed at hs
    by_cases hc : dev.committer = true
    · rw [if_pos hc] at hs
      exact hB.keeps _ _ _ _ hs i b hi
    · rw [if_neg hc] at hs
      rw [hs]
      exact hi
  cases h with
  | idle _ => exact Carried.refl w
  | early _ _ _ hstore hmanifest hremote =>
      exact {
        files := by rw [hstore]
        keeps := fun i b hi => by rw [hremote]; exact hi
        object := fun id => Or.inl ⟨by rw [hstore], fun _ => by rw [hmanifest]⟩ }
  | stopped _ _ _ _ hstop =>
      rcases hstop with ⟨hstore, sent, s, hpre, hup, hrest⟩
      refine Uploads.carried hB w w' sent s hpre hup (fun i b hi => ?_) (by rw [hstore])
        (fun id => by rw [hstore])
      rcases hrest with hrest | ⟨d, b', _, _, ⟨r, hs⟩ | hs⟩
      · rw [hrest]
        exact hi
      · exact hB.keeps _ _ _ _ hs i b hi
      · exact hB.crashKeeps _ _ _ hs i b hi
  | refused _ _ s _ _ _ hup hs hstore =>
      refine Uploads.carried hB w w' _ s (List.prefix_refl _) hup (fun i b hi => ?_)
        (by rw [hstore]) (fun id => by rw [hstore])
      rcases hs with ⟨msg, hs⟩ | hs
      · exact hB.keeps _ _ _ _ hs i b hi
      · exact hB.crashKeeps _ _ _ hs i b hi
  | cut _ _ s _ _ hup hs hstore =>
      rcases hstore with hstore | hstore | hstore
      · exact Uploads.carried hB w w' _ s (List.prefix_refl _) hup (hcommit _ _ _ hs)
          (by rw [hstore]) (fun id => by rw [hstore])
      · exact Uploads.carried hB w w' _ s (List.prefix_refl _) hup (hcommit _ _ _ hs)
          (by rw [hstore, LocalStore.files_setManifestState])
          (fun id => by rw [hstore, LocalStore.dirtyObject_setManifestState])
      · exact Uploads.carried_cleared hB w w' s hup (hcommit _ _ _ hs)
          (by rw [hstore, LocalStore.files_clear, LocalStore.files_setManifestState])
          (fun id => by rw [hstore, LocalStore.dirtyObject_clear])
  | finished _ s _ hup hs hstore =>
      exact Uploads.carried_cleared hB w w' s hup (hcommit _ _ _ hs)
        (by rw [hstore, LocalStore.files_clear, LocalStore.files_setManifestState])
        (fun id => by rw [hstore, LocalStore.dirtyObject_clear])

/-- What a client did: a request that ended, with its answer. Its writes are
    those that succeeded. -/
inductive Event : Type
  | read (offset len : Nat) (answer : Except String Bytes)
  | write (offset : Nat) (bytes : Bytes)
  | flush (answer : Except String Unit)

/-- The sessions of one client with requests inside the device. -/
inductive Session (B : Backend ρ) (P : Policy ρ) (dev : BlockDevice) :
    World ρ → List Event → World ρ → Prop
  | nil (w : World ρ) : Session B P dev w [] w
  | read (w w' w'' : World ρ) (offset len : Nat) (r : Except String Bytes) (rest : List Event)
      (hin : offset + len ≤ dev.map.deviceSize)
      (h : Exec (DeviceEnv B P) (dev.readAt offset len) w (.done r) w')
      (hrest : Session B P dev w' rest w'') : Session B P dev w (.read offset len r :: rest) w''
  | write (w w' w'' : World ρ) (offset : Nat) (bytes : Bytes) (rest : List Event)
      (hin : offset + bytes.length ≤ dev.map.deviceSize)
      (h : Exec (DeviceEnv B P) (dev.writeAt offset bytes) w (.done (.ok ())) w')
      (hrest : Session B P dev w' rest w'') : Session B P dev w (.write offset bytes :: rest) w''
  | flush (w w' w'' : World ρ) (r : Except String Unit) (rest : List Event)
      (h : Exec (DeviceEnv B P) dev.flush w (.done r) w')
      (hrest : Session B P dev w' rest w'') : Session B P dev w (.flush r :: rest) w''

/-- The answers of a session are those of a flat array that starts as `a` and
    that writes put their bytes over. -/
def Agrees : (Nat → UInt8) → List Event → Prop
  | _, [] => True
  | a, .read offset len r :: rest => (∀ b, r = .ok b → b = span a offset len) ∧ Agrees a rest
  | a, .write offset bytes :: rest => Agrees (splice a offset bytes) rest
  | a, .flush _ :: rest => Agrees a rest

/-- The array after a session. -/
def arrayAfter : (Nat → UInt8) → List Event → (Nat → UInt8)
  | a, [] => a
  | a, .read _ _ _ :: rest => arrayAfter a rest
  | a, .write offset bytes :: rest => arrayAfter (splice a offset bytes) rest
  | a, .flush _ :: rest => arrayAfter a rest

/-- A session on a device that is a flat array agrees with it, and leaves a
    device that is the array after it. -/
theorem Session.shows (hB : Returns B raw) (hP : Careful P) (dev : BlockDevice)
    (w w' : World ρ) (log : List Event) (h : Session B P dev w log w') (a : Nat → UInt8)
    (hw : Consistent raw w) (ha : Shows raw dev.map.objectSize w a) :
    Agrees a log ∧ Consistent raw w' ∧ Shows raw dev.map.objectSize w' (arrayAfter a log) := by
  induction h generalizing a with
  | nil w => exact ⟨trivial, hw, ha⟩
  | read w w1 w2 offset len r rest hin hex hrest ih =>
      have hpost := wp_done _ _ _ _ _ _ (wp_readAt hB dev a offset len w hw ha) hex
      rcases ih a (CacheFill.consistent hB w w1 hpost.fill hw)
        (CacheFill.shows hB _ w w1 hpost.fill hw a ha) with ⟨hagree, hrest⟩
      exact ⟨⟨hpost.answer, hagree⟩, hrest⟩
  | write w w1 w2 offset bytes rest hin hex hrest ih =>
      have hpost := wp_done _ _ _ _ _ _ (wp_writeAt hB hP dev a offset bytes w hw ha) hex
      exact ih _ (Wrote.consistent hB dev w w1 hpost.steps hw) (hpost.whole rfl)
  | flush w w1 w2 r rest hex hrest ih =>
      have hpost := wp_done _ _ _ _ _ _ (wp_flush dev w) hex
      have hcarried := hpost.1.carried hB
      exact ih a (Carried.consistent w w1 hcarried hw) (Carried.shows _ w w1 hcarried hw a ha)

/-- Disks where every operation may fail after any of its effects, but for
    the one that stores a written object. -/
def Policy.steady : Policy ρ where
  fault
    | .storeDirty _ _ _ _ _, _, _ => False
    | _, _, _ => True
  crash _ _ _ := False

omit [Crates] in
theorem careful_steady : Careful (Policy.steady : Policy ρ) := by
  intro id gen encoded offset len w k _ h
  rcases h with h | h
  · exact False.elim h
  · exact False.elim h

/-- A manifest a device may start from: its objects are those of the geometry,
    none is newer than the manifest, and each that was written can be fetched
    with the checksum it was recorded under. -/
structure Manifest.WellFormed (m : Manifest) (map : BlockMap)
    (messages : Int → Option Bytes) : Prop where
  ids : m.objects.map ManifestObject.objectId = List.range map.objectCount
  generations : ∀ e ∈ m.objects, e.generation ≤ m.generation
  fetchable : ∀ e ∈ m.objects, e.zero = false → ∃ r sha b, e.remote = some r ∧
    e.sha256 = some sha ∧ messages r.messageId = some b ∧ sha256Hex b = sha

/-- A device as it starts, on an empty store. -/
def World.start (m : Manifest) (s : ρ) : World ρ :=
  { store := LocalStore.empty, manifest := m, locked := false, remote := s }

omit [Crates] in
theorem content_start (m : Manifest) (s : ρ) (objectSize id : Nat) :
    (World.start m s).content raw objectSize id = m.content (raw s) objectSize id := rfl

/-- A device that starts from a well-formed manifest is consistent. -/
theorem consistent_start (map : BlockMap) (m : Manifest) (s : ρ)
    (h : m.WellFormed map (raw s)) : Consistent raw (World.start m s) where
  path := fun _ _ hd => (by cases hd)
  clean := by
    intro id e _ hf hz
    rcases h.fetchable e (m.mem_of_find id e hf) hz with ⟨r, sha, b, hr, _, hraw, _⟩
    exact ⟨r, b, hr, hraw, fun b' hb' => (by cases hb')⟩

omit [Crates] in
/-- The entries of a blank manifest are blank. -/
theorem Manifest.mem_empty (uuid : Uuid) (objectSize objectCount : Nat) (e : ManifestObject)
    (h : e ∈ (Manifest.empty uuid objectSize objectCount).objects) :
    e.zero = true ∧ e.generation = 0 := by
  rcases List.mem_map.mp h with ⟨id, _, rfl⟩
  exact ⟨rfl, rfl⟩

omit [Crates] in
theorem Manifest.ids_empty (uuid : Uuid) (objectSize objectCount : Nat) :
    (Manifest.empty uuid objectSize objectCount).objects.map ManifestObject.objectId
      = List.range objectCount := by
  change ((List.range objectCount).map ManifestObject.zeroEntry).map _ = _
  rw [List.map_map]
  exact List.map_id _

theorem wellFormed_empty (map : BlockMap) (uuid : Uuid) (messages : Int → Option Bytes) :
    (Manifest.empty uuid map.objectSize map.objectCount).WellFormed map messages where
  ids := Manifest.ids_empty _ _ _
  generations := fun e he => by
    rw [(Manifest.mem_empty _ _ _ e he).2]
    exact Nat.zero_le _
  fetchable := fun e he hz => by
    rw [(Manifest.mem_empty _ _ _ e he).1] at hz
    cases hz

/-- The sessions of a device agree with a flat array that starts as what the
    manifest describes. -/
theorem session_agrees (hB : Returns B raw) (map : BlockMap) (committer : Bool) (m : Manifest)
    (s : ρ) (hm : m.WellFormed map (raw s)) (log : List Event) (w' : World ρ)
    (h : Session B Policy.steady (BlockDevice.new map committer) (World.start m s) log w') :
    Agrees (arrayOf map.objectSize (m.content (raw s) map.objectSize)) log := by
  refine (Session.shows hB careful_steady _ _ _ log h _ (consistent_start map m s hm)
    fun id => ?_).1
  rw [content_start]
  exact (span_arrayOf map.objectSize _ id (m.length_content (raw s) map.objectSize id)).symm

end Crates

section Small

attribute [local instance] concreteCrates

/-- A blank small device on the memory backend, and three requests to it. -/
def smallStart : World MemoryBackend :=
  World.start (Manifest.empty ⟨7⟩ 4 2) (MemoryBackend.new (-100))

def smallWritten : World MemoryBackend :=
  (((BlockDevice.new smallMap false).writeAt 3 [1, 2, 3]).eval
    (deviceRun MemoryBackend.run) smallStart).2

def smallFlushed : World MemoryBackend :=
  ((BlockDevice.new smallMap false).flush.eval (deviceRun MemoryBackend.run) smallWritten).2

/-- A write across two objects, a flush, and a read of everything. -/
theorem session_agrees_small : Agrees
    (arrayOf 4 ((Manifest.empty ⟨7⟩ 4 2).content (MemoryBackend.new (-100)).messages 4))
    [.write 3 [1, 2, 3], .flush (.ok ()), .read 0 8 (.ok [0, 0, 0, 1, 2, 3, 0, 0])] := by
  have hwrite := exec_deviceRun (P := Policy.steady) MemoryBackend.run
    ((BlockDevice.new smallMap false).writeAt 3 [1, 2, 3]) smallStart
  have hflush := exec_deviceRun (P := Policy.steady) MemoryBackend.run
    (BlockDevice.new smallMap false).flush smallWritten
  have hread := exec_deviceRun (P := Policy.steady) MemoryBackend.run
    ((BlockDevice.new smallMap false).readAt 0 8) smallFlushed
  rw [show (((BlockDevice.new smallMap false).writeAt 3 [1, 2, 3]).eval
    (deviceRun MemoryBackend.run) smallStart).1 = .ok () by decide +kernel] at hwrite
  rw [show ((BlockDevice.new smallMap false).flush.eval
    (deviceRun MemoryBackend.run) smallWritten).1 = .ok () by decide +kernel] at hflush
  rw [show (((BlockDevice.new smallMap false).readAt 0 8).eval
    (deviceRun MemoryBackend.run) smallFlushed).1 = .ok [0, 0, 0, 1, 2, 3, 0, 0] by
      decide +kernel] at hread
  exact session_agrees MemoryBackend.returns smallMap false (Manifest.empty ⟨7⟩ 4 2)
    (MemoryBackend.new (-100)) (wellFormed_empty smallMap ⟨7⟩ _) _ _
    (.write _ _ _ 3 [1, 2, 3] _ (by decide) hwrite
      (.flush _ _ _ _ _ hflush (.read _ _ _ 0 8 _ _ (by decide) hread (.nil _))))

end Small

end TgDrive
