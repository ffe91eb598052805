import TgDrive.Core.Refinement

/-!
# Crashes and Reopening

What is left of a device when its process dies, and what a new process makes
of it. Reopening takes the store as it is and the manifest that is stored in
it; the manifest in memory, which a failed flush may have half changed, is
gone, and the generation goes back with it.

`Durable` is the invariant that makes this harmless. The stored manifest and
the one in memory tell the same about every object without a row, and whatever
they tell differently about the others does not matter, since their files pass
all checks. Every step of every method keeps it, with one exception: the file
of a written object is overwritten in place before its row is, so a second
write to an object in one generation that is interrupted between the two
leaves a row with the checksum of a file that is gone. `Policy.sparing` allows
every interruption but those.

## Main definitions

* `World.reopen`: A device built again from its store.
* `Request`, `Request.ends`: A request and the ways it can end.
* `Run`: Runs of requests, restarts included.
* `Policy.sparing`: Interruptions anywhere but on a file in use.
* `Durable`: The invariant of the store.
* `Manifest.Sound`: A manifest all of whose objects can be read.

## Theorems

* `Durable.fill`, `Durable.writeStep`, `Durable.flushed`: The invariant is
  kept.
* `Durable.reopen`: It makes a device that starts again.
* `Durable.reads`, `Durable.flushes`: Such a device reads and flushes.
* `crash_consistent`: An interrupted request leaves old or new objects.
-/

namespace TgDrive

open Data Effect

section Crates

variable {ρ : Type} [Crates] {B : Backend ρ} {P : Policy ρ} {raw : ρ → Int → Option Bytes}

/-- A device built again from its store, as a new process does it. -/
def World.reopen (w : World ρ) : Except String (World ρ) :=
  match w.store.loadManifest with
  | .ok (some m) => .ok { w with manifest := m, locked := false }
  | .ok none => .error "no local manifest; run tgdrive format first"
  | .error msg => .error msg

/-- A request of a client. -/
inductive Request : Type
  | read (offset len : Nat)
  | write (offset : Nat) (bytes : Bytes)
  | flush

namespace Request

/-- A request inside the device. -/
def InBounds (map : BlockMap) : Request → Prop
  | .read offset len => offset + len ≤ map.deviceSize
  | .write offset bytes => offset + bytes.length ≤ map.deviceSize
  | .flush => True

/-- What a request that succeeds makes of the array. -/
def apply : Request → (Nat → UInt8) → (Nat → UInt8)
  | .write offset bytes, a => splice a offset bytes
  | _, a => a

/-- The program of a request, its answer left out. -/
def program (dev : BlockDevice) : Request → Prog deviceSig Unit
  | .read offset len => dev.readAt offset len >>= fun _ => pure ()
  | .write offset bytes => dev.writeAt offset bytes
  | .flush => dev.flush

end Request

/-- Runs of one device: requests that end, whether they succeed or fail, and
    restarts after a request that ended or was cut short. -/
inductive Run (B : Backend ρ) (P : Policy ρ) (dev : BlockDevice) (w0 : World ρ) :
    World ρ → Prop
  | start : Run B P dev w0 w0
  | next (w w' : World ρ) (req : Request) (r : Except String Unit) (h : Run B P dev w0 w)
      (hreq : Exec (DeviceEnv B P) (req.program dev) w (.done r) w') : Run B P dev w0 w'
  | restart (w w' w'' : World ρ) (req : Request) (o : Outcome Unit) (h : Run B P dev w0 w)
      (hreq : Exec (DeviceEnv B P) (req.program dev) w o w') (hopen : w'.reopen = .ok w'') :
      Run B P dev w0 w''

/-- Errors and crashes between any two effects. -/
def Policy.any : Policy ρ where
  fault _ _ _ := True
  crash _ _ _ := True

/-- An operation is not stopped between the file of a written object and its
    row, unless nothing stands on the file. -/
def LocalOp.Spares : LocalOp → World ρ → Nat → Prop
  | .storeDirty id gen encoded _ _, w, k => k = 1 ∨ k = 2 → Spare w id gen encoded
  | _, _, _ => True

/-- Errors and crashes between any two effects that spare a file in use. -/
def Policy.sparing : Policy ρ where
  fault := LocalOp.Spares
  crash := LocalOp.Spares

omit [Crates] in
theorem careful_sparing : Careful (Policy.sparing : Policy ρ) := by
  intro id gen encoded offset len w k hk h
  rcases h with h | h
  · exact h hk
  · exact h hk

omit [Crates] in
theorem careful_quiet : Careful (Policy.quiet : Policy ρ) := by
  intro id gen encoded offset len w k _ h
  rcases h with h | h
  · exact False.elim h
  · exact False.elim h

/-- A manifest of a device all of whose objects can be read. -/
structure Manifest.Sound (m : Manifest) (map : BlockMap) (messages : Int → Option Bytes) :
    Prop where
  ids : m.objects.map ManifestObject.objectId = List.range map.objectCount
  live : ∀ e ∈ m.objects, e.zero = false → e.Live messages

/-- A manifest that lists the objects of a geometry, and maybe more of them. -/
def Manifest.Covers (m : Manifest) (map : BlockMap) : Prop :=
  ∃ n, map.objectCount ≤ n ∧ m.objects.map ManifestObject.objectId = List.range n

/-- What a restart needs of a world: files that pass all checks under the rows,
    live entries for the other objects, and a stored manifest that agrees with
    the one in memory on those. -/
structure Durable (raw : ρ → Int → Option Bytes) (map : BlockMap) (w : World ρ) : Prop where
  consistent : Consistent raw w
  rows : ∀ id d, w.store.dirtyObject id = some d → id * map.objectSize < map.deviceSize ∧
    ∃ b, d.Sound w.store.files b
  live : ∀ id e, w.store.dirtyObject id = none → w.manifest.find id = some e →
    e.zero = false → e.Live (raw w.remote)
  ids : w.manifest.Covers map
  stored : ∃ m, w.store.loadManifest = .ok (some m) ∧ m.Covers map ∧
    ∀ id, w.store.dirtyObject id = none → m.find id = w.manifest.find id

omit [Crates] in
/-- An entry of a manifest with distinct ids is the one that is found. -/
theorem Manifest.find_of_mem (m : Manifest) (hids : (m.objects.map ManifestObject.objectId).Nodup)
    (e : ManifestObject) (he : e ∈ m.objects) : m.find e.objectId = some e := by
  rcases hf : m.find e.objectId with _ | e'
  · exact absurd (decide_eq_true rfl) (List.find?_eq_none.mp hf e he)
  · rw [List.inj_on_of_nodup_map hids (m.mem_of_find _ _ hf) he (m.objectId_of_find _ _ hf)]

omit [Crates] in
/-- A manifest has an entry for each of the ids it lists. -/
theorem Manifest.find_isSome_of_ids (m : Manifest) (n id : Nat)
    (h : m.objects.map ManifestObject.objectId = List.range n) (hid : id < n) :
    (m.find id).isSome = true := by
  have hmem : id ∈ m.objects.map ManifestObject.objectId := by
    rw [h]
    exact List.mem_range.mpr hid
  rcases List.mem_map.mp hmem with ⟨e, he, rfl⟩
  rw [Manifest.find, List.find?_isSome]
  exact ⟨e, he, by simp only [decide_true]⟩

omit [Crates] in
theorem Manifest.Covers.find_isSome (m : Manifest) (map : BlockMap) (h : m.Covers map) (id : Nat)
    (hid : id * map.objectSize < map.deviceSize) (hsize : 0 < map.objectSize) :
    (m.find id).isSome = true := by
  rcases h with ⟨n, hn, hids⟩
  exact m.find_isSome_of_ids n id hids (Nat.lt_of_lt_of_le (lt_objectCount map id hid hsize) hn)

omit [Crates] in
theorem Manifest.Covers.nodup (m : Manifest) (map : BlockMap) (h : m.Covers map) :
    (m.objects.map ManifestObject.objectId).Nodup := by
  rcases h with ⟨n, _, hids⟩
  rw [hids]
  exact List.nodup_range

omit [Crates] in
theorem Manifest.Covers.congr (m m' : Manifest) (map : BlockMap) (h : m.Covers map)
    (hids : m'.objects.map ManifestObject.objectId = m.objects.map ManifestObject.objectId) :
    m'.Covers map := by
  rcases h with ⟨n, hn, hrange⟩
  exact ⟨n, hn, hids.trans hrange⟩

theorem Manifest.Sound.covers (m : Manifest) (map : BlockMap) (messages : Int → Option Bytes)
    (h : m.Sound map messages) : m.Covers map := ⟨_, Nat.le_refl _, h.ids⟩

namespace Durable

variable {map : BlockMap} {w w' : World ρ}

/-- Every object of a durable world can be read. -/
theorem readable (hsize : 0 < map.objectSize) (h : Durable raw map w) (id : Nat)
    (hid : id * map.objectSize < map.deviceSize) : Readable raw w id where
  dirty := by
    intro d hd
    rcases (h.rows id d hd).2 with ⟨b, hb⟩
    rcases hb.decodes with ⟨env, henv⟩
    rw [w.store.objectId_of_dirtyObject id d hd] at henv
    exact ⟨b, env, hb.file, hb.sha, henv⟩
  clean := by
    intro hd
    have hsome := h.ids.find_isSome _ map id hid hsize
    rcases Option.isSome_iff_exists.mp hsome with ⟨e, he⟩
    exact ⟨e, he, h.live id e hd he⟩

/-- The dirty objects of a durable world can be flushed. -/
theorem flushReady (hsize : 0 < map.objectSize) (h : Durable raw map w)
    (hgen : w.manifest.generation + 1 < 2 ^ 64) : FlushReady w where
  sound := fun id d hd => (h.rows id d hd).2
  listed := fun id d hd => h.ids.find_isSome _ map id (h.rows id d hd).1 hsize
  nodup := h.ids.nodup
  generation := hgen

/-- Filling the cache keeps a world durable. -/
theorem fill (hB : Returns B raw) (hfill : CacheFill B raw w w') (h : Durable raw map w) :
    Durable raw map w' where
  consistent := CacheFill.consistent hB w w' hfill h.consistent
  rows := by
    intro id d hd
    rw [CacheFill.dirtyObject w w' hfill] at hd
    rcases h.rows id d hd with ⟨hid, b, hb⟩
    refine ⟨hid, b, { hb with file := ?_ }⟩
    rw [CacheFill.dirtyFile w w' hfill h.consistent id d hd]
    exact hb.file
  live := by
    intro id e hd hf hz
    rw [CacheFill.dirtyObject w w' hfill] at hd
    rw [hfill.manifest] at hf
    exact (h.live id e hd hf hz).mono _ _ e (hB.called_keeps B raw _ _ _ hfill.remote)
  ids := by
    rw [hfill.manifest]
    exact h.ids
  stored := by
    rcases h.stored with ⟨m, hm, hids, hsame⟩
    refine ⟨m, (LocalStore.loadManifest_congr _ _ hfill.state).trans hm, hids, fun id hd => ?_⟩
    rw [CacheFill.dirtyObject w w' hfill] at hd
    rw [hfill.manifest]
    exact hsame id hd

/-- Storing an object as dirty keeps a world durable. -/
theorem dirtied (dev : BlockDevice) (hsize : 0 < dev.map.objectSize) (id : Nat) (object : Bytes)
    (hid : id * dev.map.objectSize < dev.map.deviceSize)
    (hgen : w.manifest.generation + 1 < 2 ^ 64)
    (hd : Dirtied id (w.manifest.generation + 1)
      (dev.encodeDirty id (w.manifest.generation + 1) object) w w')
    (h : Durable raw dev.map w) : Durable raw dev.map w' := by
  have hlt := dev.map.deviceSize_lt
  have hmul : id * 1 ≤ id * dev.map.objectSize := Nat.mul_le_mul_left id hsize
  refine {
    consistent := hd.consistent h.consistent
    rows := ?_
    live := ?_
    ids := by rw [hd.manifest]; exact h.ids
    stored := ?_ }
  · intro i d hrow
    rw [hd.rows] at hrow
    by_cases hi : i = id
    · rw [if_pos hi, Option.some.injEq] at hrow
      rw [← hrow, hi]
      refine ⟨hid, _, {
        file := by rw [hd.files]; exact if_pos rfl
        decodes := decode_encodeDirty dev id _ object (by omega) hgen
        sha := rfl }⟩
    · rw [if_neg hi] at hrow
      rcases h.rows i d hrow with ⟨hin, b, hb⟩
      refine ⟨hin, b, { hb with file := ?_ }⟩
      rw [hd.files, h.consistent.path i d hrow, if_neg (cachePath_ne i _ hi),
        ← h.consistent.path i d hrow]
      exact hb.file
  · intro i e hnone hf hz
    rw [hd.rows] at hnone
    by_cases hi : i = id
    · rw [if_pos hi] at hnone
      cases hnone
    · rw [if_neg hi] at hnone
      rw [hd.manifest] at hf
      rw [hd.remote]
      exact h.live i e hnone hf hz
  · rcases h.stored with ⟨m, hm, hids, hsame⟩
    refine ⟨m, (LocalStore.loadManifest_congr _ _ hd.state).trans hm, hids,
      fun i hnone => ?_⟩
    rw [hd.rows] at hnone
    by_cases hi : i = id
    · rw [if_pos hi] at hnone
      cases hnone
    · rw [if_neg hi] at hnone
      rw [hd.manifest]
      exact hsame i hnone

/-- A step of a write keeps a world durable. -/
theorem writeStep (hB : Returns B raw) (dev : BlockDevice) (hsize : 0 < dev.map.objectSize)
    (hstep : WriteStep B raw dev w w') (h : Durable raw dev.map w) : Durable raw dev.map w' := by
  cases hstep with
  | fill hfill => exact h.fill hB hfill
  | dirtied id object hid hgen hd => exact h.dirtied dev hsize id object hid hgen hd
  | torn id object hgen hs ht =>
      refine {
        consistent := ht.consistent hs h.consistent
        rows := ?_
        live := ?_
        ids := by rw [ht.manifest]; exact h.ids
        stored := ?_ }
      · intro i d hrow
        rw [ht.rows] at hrow
        rcases h.rows i d hrow with ⟨hin, b, hb⟩
        refine ⟨hin, b, { hb with file := ?_ }⟩
        have hpath := h.consistent.path i d hrow
        have hfile := hb.file
        rw [hpath] at hfile ⊢
        rw [ht.files]
        by_cases hp : LocalStore.cachePath i d.generation
            = LocalStore.cachePath id (w.manifest.generation + 1)
        · -- A file in use was overwritten by what it held.
          have hi : i = id := congrArg CachePath.objectId hp
          have hg : d.generation = w.manifest.generation + 1 :=
            congrArg CachePath.generation hp
          rw [hi] at hrow
          rw [if_pos hp, ← hs.dirty d hrow hg, ← hp, hfile]
        · rw [if_neg hp, hfile]
      · intro i e hnone hf hz
        rw [ht.rows] at hnone
        rw [ht.manifest] at hf
        rw [ht.remote]
        exact h.live i e hnone hf hz
      · rcases h.stored with ⟨m, hm, hids, hsame⟩
        refine ⟨m, (LocalStore.loadManifest_congr _ _ ht.state).trans hm, hids,
          fun i hnone => ?_⟩
        rw [ht.rows] at hnone
        rw [ht.manifest]
        exact hsame i hnone

theorem wrote (hB : Returns B raw) (dev : BlockDevice) (hsize : 0 < dev.map.objectSize)
    (hsteps : Wrote B raw dev w w') (h : Durable raw dev.map w) : Durable raw dev.map w' := by
  induction hsteps with
  | refl => exact h
  | tail _ hstep ih => exact ih.writeStep hB dev hsize hstep

end Durable

/-- What a flush leaves stored: the manifest that was, or the one it made. -/
theorem Flushed.stored (dev : BlockDevice) (w w' : World ρ) (o : Outcome Unit)
    (h : Flushed B dev w o w') :
    (w'.store.loadManifest = w.store.loadManifest ∧
      ∀ id, w'.store.dirtyObject id = w.store.dirtyObject id) ∨
    w'.store.loadManifest = .ok (some w'.manifest) := by
  cases h with
  | idle _ => exact Or.inl ⟨rfl, fun _ => rfl⟩
  | early _ _ _ hstore _ _ => exact Or.inl ⟨by rw [hstore], fun _ => by rw [hstore]⟩
  | stopped _ _ _ _ h => exact Or.inl ⟨by rw [h.1], fun _ => by rw [h.1]⟩
  | refused _ _ _ _ _ _ _ _ hstore => exact Or.inl ⟨by rw [hstore], fun _ => by rw [hstore]⟩
  | cut _ _ _ _ _ _ _ hstore =>
      rcases hstore with hstore | hstore | hstore
      · exact Or.inl ⟨by rw [hstore], fun _ => by rw [hstore]⟩
      · exact Or.inr (by rw [hstore, LocalStore.loadManifest_setManifestState])
      · refine Or.inr ?_
        rw [hstore, LocalStore.loadManifest_congr _ _ (LocalStore.manifestState_clear _),
          LocalStore.loadManifest_setManifestState]
  | finished _ _ _ _ _ hstore =>
      refine Or.inr ?_
      rw [hstore, LocalStore.loadManifest_congr _ _ (LocalStore.manifestState_clear _),
        LocalStore.loadManifest_setManifestState]

/-- A flush keeps the ids of the manifest. -/
theorem Flushed.ids (dev : BlockDevice) (w w' : World ρ) (o : Outcome Unit)
    (h : Flushed B dev w o w') : w'.manifest.objects.map ManifestObject.objectId
      = w.manifest.objects.map ManifestObject.objectId := by
  cases h with
  | idle _ => rfl
  | early _ _ _ _ hmanifest _ => rw [hmanifest]
  | stopped _ _ _ _ h =>
      rcases h with ⟨_, sent, s, _, hup, _⟩
      exact hup.ids
  | refused _ _ _ _ _ _ hup _ _ => exact hup.ids
  | cut _ _ _ _ _ hup _ _ => exact hup.ids
  | finished _ _ _ hup _ _ => exact hup.ids

namespace Durable

variable {map : BlockMap} {w w' : World ρ}

/-- However a flush ends, it keeps a world durable. -/
theorem flushed (hB : Returns B raw) (hE : Echoes B) (dev : BlockDevice) (o : Outcome Unit)
    (hflush : Flushed B dev w o w') (h : Durable raw map w) : Durable raw map w' := by
  have hcarried := hflush.carried hB
  refine {
    consistent := Carried.consistent w w' hcarried h.consistent
    rows := ?_
    live := ?_
    ids := h.ids.congr _ _ map (hflush.ids dev w w' o)
    stored := ?_ }
  · intro id d hd
    rcases hcarried.object id with ⟨hrow, _⟩ | ⟨_, _, _, _, _, hnone, _⟩
    · rw [hrow] at hd
      rcases h.rows id d hd with ⟨hin, b, hb⟩
      exact ⟨hin, b, { hb with file := by rw [hcarried.files]; exact hb.file }⟩
    · rw [hnone] at hd
      cases hd
  · intro id e hd hf hz
    rcases hcarried.object id with ⟨hrow, hsame⟩ | ⟨_, _, e', _, _, _, _, hf', _, _, _, _, hlive⟩
    · rw [hrow] at hd
      rw [hsame hd] at hf
      exact (h.live id e hd hf hz).mono _ _ e hcarried.keeps
    · rw [hf', Option.some.injEq] at hf
      rw [← hf]
      exact hlive hE
  · rcases hflush.stored dev w w' o with ⟨hload, hrows⟩ | hload
    · rcases h.stored with ⟨m, hm, hids, hsame⟩
      refine ⟨m, hload.trans hm, hids, fun id hd => ?_⟩
      rw [hrows] at hd
      rcases hcarried.object id with ⟨_, hfind⟩ | ⟨_, _, _, _, hsome, _⟩
      · exact (hsame id hd).trans (hfind hd).symm
      · rw [hd] at hsome
        cases hsome
    · exact ⟨w'.manifest, hload, h.ids.congr _ _ map (hflush.ids dev w w' o), fun _ _ => rfl⟩

/-- A device starts again from a durable world, is durable, and holds what it
    held. -/
theorem reopen (h : Durable raw map w) : ∃ w', w.reopen = .ok w' ∧ Durable raw map w' ∧
    w'.locked = false ∧
    ∀ objectSize id, w'.content raw objectSize id = w.content raw objectSize id := by
  rcases h.stored with ⟨m, hm, hids, hsame⟩
  refine ⟨{ w with manifest := m, locked := false }, ?_, ?_, rfl, ?_⟩
  · rw [World.reopen, hm]
  · exact {
      consistent := {
        path := h.consistent.path
        clean := fun id e hd hf => h.consistent.clean id e hd ((hsame id hd).symm.trans hf) }
      rows := h.rows
      live := fun id e hd hf => h.live id e hd ((hsame id hd).symm.trans hf)
      ids := hids
      stored := ⟨m, hm, hids, fun _ _ => rfl⟩ }
  · intro objectSize id
    rcases hd : w.store.dirtyObject id with _ | d
    · have hnew := World.content_clean raw objectSize
        { w with manifest := m, locked := false } id hd
      rw [hnew, w.content_clean raw _ _ hd]
      unfold Manifest.content
      rw [hsame id hd]
    · have hnew := World.content_dirty raw objectSize
        { w with manifest := m, locked := false } id d hd
      rw [hnew, w.content_dirty raw _ _ d hd]

/-- A durable device on a quiet disk and a backend that serves reads its
    array. -/
theorem reads (R : (c : Call) → ρ → Except String c.Resp × ρ)
    (hR : Returns (Env.ofRun (S := remoteSig) R) raw)
    (hserves : Serves (Env.ofRun (S := remoteSig) R) raw) (dev : BlockDevice)
    (hsize : 0 < dev.map.objectSize) (h : Durable raw dev.map w) (hfree : w.locked = false)
    (a : Nat → UInt8) (ha : Shows raw dev.map.objectSize w a) (offset len : Nat)
    (hin : offset + len ≤ dev.map.deviceSize) :
    ((dev.readAt offset len).eval (deviceRun R) w).1 = .ok (span a offset len) := by
  have hpost := wp_deviceRun R _ _ _ w (wp_readAt hR dev a offset len w h.consistent ha)
  rcases hr : ((dev.readAt offset len).eval (deviceRun R) w).1 with msg | b
  · rw [hr] at hpost
    exact absurd (fun id hid => h.readable hsize id hid)
      (hpost.answers msg rfl ⟨fun _ _ _ hf => hf, hserves⟩ hfree hsize hin)
  · rw [hr] at hpost
    rw [hr, hpost.answer b rfl]

/-- A durable device on a quiet disk and a backend that takes what it is sent
    flushes. -/
theorem flushes (R : (c : Call) → ρ → Except String c.Resp × ρ)
    (dev : BlockDevice) (hwilling : Willing (Env.ofRun (S := remoteSig) R) dev)
    (hsize : 0 < dev.map.objectSize) (h : Durable raw dev.map w) (hfree : w.locked = false)
    (hgen : w.manifest.generation + 1 < 2 ^ 64) :
    (dev.flush.eval (deviceRun R) w).1 = .ok () := by
  have hpost := wp_deviceRun R _ _ _ w
    (wp_flush (B := Env.ofRun (S := remoteSig) R) (P := Policy.quiet) dev w)
  rcases hr : (dev.flush.eval (deviceRun R) w).1 with msg | u
  · rw [hr] at hpost
    exact absurd ⟨fun _ _ _ hf => hf, hwilling, h.flushReady hsize hgen⟩
      (hpost.2.2 msg rfl hfree)
  · exact hr

end Durable

/-- What a request leaves, however it ends: a durable world in which every
    object is old or new. -/
theorem Request.ends (hB : Returns B raw) (hE : Echoes B) (hP : Careful P) (dev : BlockDevice)
    (hsize : 0 < dev.map.objectSize) (req : Request) (o : Outcome Unit) (w w' : World ρ)
    (hreq : Exec (DeviceEnv B P) (req.program dev) w o w') (h : Durable raw dev.map w)
    (a : Nat → UInt8) (ha : Shows raw dev.map.objectSize w a) :
    Durable raw dev.map w' ∧ ∃ c, Mixed dev.map.objectSize a (req.apply a) c ∧
      Shows raw dev.map.objectSize w' c := by
  have hpost : wp (DeviceEnv B P) (req.program dev)
      (fun _ w' => Durable raw dev.map w' ∧ ∃ c, Mixed dev.map.objectSize a (req.apply a) c ∧
        Shows raw dev.map.objectSize w' c)
      (fun w' => Durable raw dev.map w' ∧ ∃ c, Mixed dev.map.objectSize a (req.apply a) c ∧
        Shows raw dev.map.objectSize w' c) w := by
    have hfill : ∀ w', CacheFill B raw w w' → Durable raw dev.map w' ∧
        ∃ c, Mixed dev.map.objectSize a a c ∧ Shows raw dev.map.objectSize w' c := fun w' hf =>
      ⟨h.fill hB hf, a, Mixed.left _ _ _, CacheFill.shows hB _ w w' hf h.consistent a ha⟩
    have hflush : ∀ o w', Flushed B dev w o w' → Durable raw dev.map w' ∧
        ∃ c, Mixed dev.map.objectSize a a c ∧ Shows raw dev.map.objectSize w' c :=
      fun o w' hf => ⟨h.flushed hB hE dev o hf, a, Mixed.left _ _ _,
        Carried.shows _ w w' (hf.carried hB) h.consistent a ha⟩
    cases req with
    | read offset len =>
        exact wp_seq _ _ _ _ _ _ _ (wp_readAt hB dev a offset len w h.consistent ha)
          (fun _ w1 hr => hfill w1 hr.fill) (fun _ w1 hr => hfill w1 hr.fill)
          (fun w1 hc => hfill w1 hc)
    | write offset bytes =>
        exact wp_mono _ _ _ _ _ (fun _ w1 hr => ⟨h.wrote hB dev hsize hr.steps, hr.part⟩)
          (fun w1 hc => ⟨h.wrote hB dev hsize hc.1, hc.2⟩) _
          (wp_writeAt hB hP dev a offset bytes w h.consistent ha)
    | flush =>
        exact wp_mono _ _ _ _ _ (fun r w1 hr => hflush _ w1 hr.1) (fun w1 hc => hflush _ w1 hc) _
          (wp_flush dev w)
  have hall := (wp_iff_exec _ _ _ _).mp hpost o w' hreq
  cases o with
  | done r => exact hall
  | crashed => exact hall

/-- Runs keep a world durable. -/
theorem Run.durable (hB : Returns B raw) (hE : Echoes B) (hP : Careful P) (dev : BlockDevice)
    (hsize : 0 < dev.map.objectSize) (w0 w : World ρ) (h0 : Durable raw dev.map w0)
    (h : Run B P dev w0 w) : Durable raw dev.map w := by
  induction h with
  | start => exact h0
  | next w w' req r _ hreq ih =>
      exact (Request.ends hB hE hP dev hsize req _ w w' hreq ih _
        (shows_array raw dev.map.objectSize w)).1
  | restart w w' w'' req o _ hreq hopen ih =>
      have hw' := (Request.ends hB hE hP dev hsize req _ w w' hreq ih _
        (shows_array raw dev.map.objectSize w)).1
      rcases hw'.reopen with ⟨w2, hw2, hdur, _⟩
      rw [hw2, Except.ok.injEq] at hopen
      rw [← hopen]
      exact hdur

/-- A device just built from a store that holds a manifest and nothing else. -/
def World.opened (m : Manifest) (s : ρ) : World ρ :=
  { store := LocalStore.empty.setManifestState m, manifest := m, locked := false, remote := s }

/-- A blank manifest is sound. -/
theorem sound_empty (map : BlockMap) (uuid : Uuid) (messages : Int → Option Bytes) :
    (Manifest.empty uuid map.objectSize map.objectCount).Sound map messages where
  ids := Manifest.ids_empty _ _ _
  live := fun e he hz => by
    rw [(Manifest.mem_empty _ _ _ e he).1] at hz
    cases hz

theorem durable_opened (map : BlockMap) (m : Manifest) (s : ρ) (hm : m.Sound map (raw s)) :
    Durable raw map (World.opened m s) where
  consistent := {
    path := fun _ _ hd => (by cases hd)
    clean := by
      intro id e _ hf hz
      rcases hm.live e (m.mem_of_find id e hf) hz with ⟨r, sha, b, env, hr, _, hraw, _⟩
      exact ⟨r, b, hr, hraw, fun b' hb' => (by cases hb')⟩ }
  rows := fun _ _ hd => (by cases hd)
  live := fun id e _ hf => hm.live e (m.mem_of_find id e hf)
  ids := hm.covers
  stored := ⟨m, LocalStore.loadManifest_setManifestState m _, hm.covers, fun _ _ => rfl⟩

/-- What a crash may leave of a device: one that starts again, reads every
    object as it was before the request in hand or as it is after it, and
    flushes. -/
def Recovers (R : (c : Call) → ρ → Except String c.Resp × ρ)
    (raw : ρ → Int → Option Bytes) (dev : BlockDevice) (req : Request) (w w' : World ρ) :
    Prop :=
  ∃ w'', w'.reopen = .ok w'' ∧ ∃ c,
    Mixed dev.map.objectSize (w.array raw dev.map.objectSize)
      (req.apply (w.array raw dev.map.objectSize)) c ∧
    (∀ offset len, offset + len ≤ dev.map.deviceSize →
      ((dev.readAt offset len).eval (deviceRun R) w'').1 = .ok (span c offset len)) ∧
    (w''.manifest.generation + 1 < 2 ^ 64 → (dev.flush.eval (deviceRun R) w'').1 = .ok ())

/-- In every run under a policy, what a request leaves, however it ends, is a
    device that recovers. -/
def CrashConsistent (B : Backend ρ) (P : Policy ρ) (R : (c : Call) → ρ → Except String c.Resp × ρ)
    (raw : ρ → Int → Option Bytes) (dev : BlockDevice) (m : Manifest) (s : ρ) : Prop :=
  ∀ w w' req o, Run B P dev (World.opened m s) w →
    Exec (DeviceEnv B P) (req.program dev) w o w' → Recovers R raw dev req w w'

/-- Runs that spare files in use are crash consistent. -/
theorem crash_consistent (hB : Returns B raw) (hE : Echoes B)
    (R : (c : Call) → ρ → Except String c.Resp × ρ)
    (hR : Returns (Env.ofRun (S := remoteSig) R) raw)
    (hserves : Serves (Env.ofRun (S := remoteSig) R) raw)
    (dev : BlockDevice) (hwilling : Willing (Env.ofRun (S := remoteSig) R) dev)
    (hsize : 0 < dev.map.objectSize) (m : Manifest) (s : ρ)
    (hm : m.Sound dev.map (raw s)) : CrashConsistent B Policy.sparing R raw dev m s := by
  intro w w' req o hrun hreq
  have hw := Run.durable hB hE careful_sparing dev hsize _ w (durable_opened dev.map m s hm) hrun
  rcases Request.ends hB hE careful_sparing dev hsize req o w w' hreq hw _
    (shows_array raw dev.map.objectSize w) with ⟨hw', c, hmixed, hc⟩
  rcases hw'.reopen with ⟨w'', hopen, hdur, hfree, hcontent⟩
  exact ⟨w'', hopen, c, hmixed,
    hdur.reads R hR hserves dev hsize hfree c (fun id => (hcontent _ id).trans (hc id)),
    hdur.flushes R dev hwilling hsize hfree⟩

end Crates

section Small

attribute [local instance] concreteCrates

/-- The small device, without a committer. -/
def smallDevice : BlockDevice := BlockDevice.new smallMap false

/-- The small device after one write. -/
def smallDirty : World MemoryBackend :=
  ((smallDevice.writeAt 0 [1, 2, 3, 4]).eval (deviceRun MemoryBackend.run)
    (World.opened (Manifest.empty ⟨7⟩ 4 2) (MemoryBackend.new (-100)))).2

/-- A second write, which dies right after it wrote its file. -/
def smallTorn : Option (World MemoryBackend) :=
  (smallDevice.writeAt 0 [5, 6, 7, 8]).crashAt (deviceRun MemoryBackend.run) (diskCut 1) 2
    smallDirty

/-- The same write, which dies when its row is there as well. -/
def smallStored : Option (World MemoryBackend) :=
  (smallDevice.writeAt 0 [5, 6, 7, 8]).crashAt (deviceRun MemoryBackend.run) (diskCut 3) 2
    smallDirty

/-- Whether the first object can be read after starting again. -/
def readsBack (w : World MemoryBackend) : Bool :=
  match w.reopen with
  | .ok w' => match ((smallDevice.readAt 0 4).eval (deviceRun MemoryBackend.run) w').1 with
    | .ok _ => true
    | .error _ => false
  | .error _ => false

/-- The first write, under any policy. -/
theorem run_smallDirty (P : Policy MemoryBackend) : Run MemoryBackend.backend P smallDevice
    (World.opened (Manifest.empty ⟨7⟩ 4 2) (MemoryBackend.new (-100))) smallDirty :=
  .next _ _ (.write 0 [1, 2, 3, 4]) _ .start (exec_deviceRun MemoryBackend.run _ _)

/-- A write that dies between its row and its WAL rows leaves the object old
    or new. -/
theorem crash_consistent_small : ∃ w', smallStored = some w' ∧
    Recovers MemoryBackend.run MemoryBackend.messages smallDevice (.write 0 [5, 6, 7, 8])
      smallDirty w' := by
  rcases hstored : smallStored with _ | w'
  · exact absurd hstored (by decide +kernel)
  · refine ⟨w', rfl, crash_consistent MemoryBackend.returns MemoryBackend.echoes
      MemoryBackend.run MemoryBackend.returns MemoryBackend.serves smallDevice
      (MemoryBackend.willing smallDevice rfl) (by decide) (Manifest.empty ⟨7⟩ 4 2)
      (MemoryBackend.new (-100)) (sound_empty smallMap ⟨7⟩ _) smallDirty w' _ .crashed
      (run_smallDirty _) ?_⟩
    refine exec_diskCut MemoryBackend.run 2 3 (fun l w => ?_) _ _ _ hstored
    -- Three effects in, a store is past its file.
    cases l with
    | storeDirty _ _ _ _ _ => exact fun hk => absurd hk (by decide)
    | _ => trivial

/-- A second write to an object in one generation that dies between its file
    and its row leaves a device that cannot read the object. -/
theorem crash_inconsistent : ¬CrashConsistent MemoryBackend.backend Policy.any
    MemoryBackend.run MemoryBackend.messages smallDevice (Manifest.empty ⟨7⟩ 4 2)
    (MemoryBackend.new (-100)) := by
  intro h
  have hback : smallTorn.map readsBack = some false := by decide +kernel
  rcases htorn : smallTorn with _ | w'
  · rw [htorn] at hback
    cases hback
  · rw [htorn, Option.map_some, Option.some.injEq] at hback
    rcases h smallDirty w' (.write 0 [5, 6, 7, 8]) .crashed (run_smallDirty _)
      (exec_diskCut MemoryBackend.run 2 1 (fun _ _ => trivial) _ _ _ htorn) with
      ⟨w'', hopen, c, _, hreads, _⟩
    have hread := hreads 0 4 (by decide)
    unfold readsBack at hback
    rw [hopen] at hback
    simp only [hread, Bool.true_eq_false] at hback

end Small

end TgDrive
