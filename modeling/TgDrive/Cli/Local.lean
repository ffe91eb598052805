import TgDrive.Cli.Format
import TgDrive.Nbd.Exact

/-!
# Serving without a Channel

The backend of `serve-nbd --backend local` and of the command `flush` keeps its
objects in memory. What it holds is gone with the process, and the next process
starts to count its messages from one again, so the references that a flush
leaves in the stored manifest lead nowhere, or to the object of another.

What makes such a device last is the cache. A flush leaves the files of what it
uploaded where they are, and a read looks for the file before it follows the
reference. So every object is on the disk, and the backend is never asked for
one. The commands answer as an ideal device does, over any number of processes.

## Main definitions

* `OnDisk`: An object that is read without the backend.
* `Housed`: A world that stands for an ideal device and has all of it on its
  disk.
* `LocalCommand`: A command that opens a device without its channel.
* `runLocal`, `runIdealLocal`: Such commands one after the other, on either device.

## Theorems

* `OnDisk.read`: Reading from the disk.
* `eval_prefetch_cached`: A prefetch finds nothing to ask for.
* `Housed.dirtied`, `Housed.flushed`: What a write and a flush keep.
* `emulates_housed`: A housed device does what the ideal one does.
* `local_exact`: A device that was formatted, over any commands.
-/

namespace TgDrive

open Data Effect

section Crates

variable {ρ : Type} [Crates] {raw : ρ → Int → Option Bytes}

/-- An object of a world that is read without the backend: the file of its row,
    zeros, or the file of its entry. -/
inductive OnDisk (objectSize : Nat) (w : World ρ) (id : Nat) : Bytes → Prop
  | dirty (d : DirtyObject) (b : Bytes) (hd : w.store.dirtyObject id = some d)
      (hb : d.Sound w.store.files b) : OnDisk objectSize w id (objectOf objectSize b)
  | blank (e : ManifestObject) (hd : w.store.dirtyObject id = none)
      (hf : w.manifest.find id = some e) (hz : e.zero = true) :
      OnDisk objectSize w id (List.replicate objectSize 0)
  | cached (e : ManifestObject) (r : RemoteObjectRef) (b : Bytes) (env : ObjectEnvelope)
      (hd : w.store.dirtyObject id = none) (hf : w.manifest.find id = some e)
      (hz : e.zero = false) (hr : e.remote = some r) (hs : e.sha256 = some (sha256Hex b))
      (hb : w.store.files (LocalStore.cachePath id e.generation) = some b)
      (henv : ObjectEnvelope.decode b id e.generation = .ok env) :
      OnDisk objectSize w id (objectOf objectSize b)

/-- What is on the disk is read, and at most a row of the cache changes. -/
theorem OnDisk.read (R : (c : Call) → ρ → Except String c.Resp × ρ) (dev : BlockDevice)
    (w : World ρ) (hfree : w.locked = false) (id : Nat) (object : Bytes)
    (h : OnDisk dev.map.objectSize w id object) :
    ∃ t, (dev.readObject id).eval (deviceRun R) w = (.ok object, w.withRows t) := by
  cases h with
  | dirty d b hd hb =>
      rcases hb.decodes with ⟨env, henv⟩
      rw [w.store.objectId_of_dirtyObject id d hd] at henv
      refine ⟨w.store.cacheEntries, ?_⟩
      rw [← pad_decode _ b id d.generation env henv]
      exact eval_readObject_row R dev id w d b env hd hb.file hb.sha henv
  | blank e hd hf hz =>
      exact ⟨w.store.cacheEntries, eval_readObject_blank R dev id w hfree hd e hf hz⟩
  | cached e r b env hd hf hz hr hs hb henv =>
      rw [← pad_decode _ b id e.generation env henv]
      exact eval_readObject_cached R dev id w hfree hd e hf hz r _ hr hs b env hb rfl henv

/-- The objects of the manifest that are neither dirty nor blank have their
    files in the cache. -/
def World.Cached (w : World ρ) : Prop :=
  ∀ id e, w.store.dirtyObject id = none → w.manifest.find id = some e → e.zero = false →
    ∃ b, e.sha256 = some (sha256Hex b) ∧
      w.store.files (LocalStore.cachePath id e.generation) = some b

section Prefetch

variable (R : (c : Call) → ρ → Except String c.Resp × ρ)

/-- With all files in the cache there is nothing to ask for. -/
theorem eval_collectPrefetch_cached (ids : List Nat) : ∀ w : World ρ, w.Cached →
    ∃ t, (BlockDevice.collectPrefetch (w.store.dirtyRows.map DirtyObject.objectId) w.manifest
      ids).eval (deviceRun R) w = (.ok [], w.withRows t) := by
  induction ids with
  | nil => exact fun w _ => ⟨w.store.cacheEntries, rfl⟩
  | cons id rest ih =>
      intro w h
      rw [BlockDevice.collectPrefetch]
      by_cases hrow : id ∈ w.store.dirtyRows.map DirtyObject.objectId
      · rw [if_pos hrow]
        exact ih w h
      · rw [if_neg hrow]
        rcases hf : w.manifest.find id with _ | e
        · exact ⟨w.store.cacheEntries, rfl⟩
        · rcases hz : e.zero with _ | _
          · have hd : w.store.dirtyObject id = none := by
              rcases hd : w.store.dirtyObject id with _ | d
              · rfl
              · refine absurd (List.mem_map.mpr ⟨d, ?_, w.store.objectId_of_dirtyObject id d hd⟩)
                  hrow
                rw [LocalStore.mem_dirtyRows, w.store.objectId_of_dirtyObject id d hd]
                exact hd
            rcases h id e hd hf hz with ⟨b, hsha, hb⟩
            simp only [hz, Bool.false_eq_true, if_false, hsha]
            rcases hr : e.remote with _ | r
            · exact ih w h
            · have hlook : (LocalOp.readCache id e.generation (sha256Hex b)).answer w
                  = .ok (some b) := by
                simp only [LocalOp.answer, LocalStore.readCache, hb, ne_eq, not_true_eq_false,
                  if_false]
              rcases applyAll_readCache w id e.generation (sha256Hex b) with ⟨t, ht⟩
              have hdisk := eval_disk_ok R _ w _ hlook
              rw [ht] at hdisk
              rcases ih (w.withRows t) h with ⟨t', hrest⟩
              exact ⟨t', (Prog.eval_bind_ok _ _ _ _ _ _ hdisk).trans hrest⟩
          · simp only [hz, if_true]
            exact ih w h

/-- A prefetch takes the lock, finds all files, and gives the lock back. -/
theorem eval_prefetch_cached (w : World ρ) (h : w.Cached) (hfree : w.locked = false)
    (start count : Nat) : ∃ t,
      (BlockDevice.prefetchObjects start count).eval (deviceRun R) w = (.ok (), w.withRows t) := by
  rcases eval_collectPrefetch_cached R (BlockDevice.prefetchRange start count)
    { w with locked := true } h with ⟨t, hcollect⟩
  refine ⟨t, ?_⟩
  have hlock : (disk .lockManifest).eval (deviceRun R) w = (.ok (), { w with locked := true }) := by
    refine eval_disk_ok R .lockManifest w () ?_
    rw [LocalOp.answer, hfree, if_neg Bool.false_ne_true]
  have hget : (disk .getManifest).eval (deviceRun R) { w with locked := true }
      = (.ok w.manifest, { w with locked := true }) := rfl
  have hattempt := Prog.eval_attempt (deviceRun R) (BlockDevice.collectPrefetch
    (w.store.dirtyRows.map DirtyObject.objectId) w.manifest
    (BlockDevice.prefetchRange start count)) { w with locked := true }
  rw [hcollect] at hattempt
  unfold BlockDevice.prefetchObjects
  rw [Prog.eval_bind_ok _ _ _ w w w.store.dirtyRows rfl, Prog.eval_bind_ok _ _ _ _ _ _ hlock]
  refine (Prog.eval_bind_ok _ _ _ _ _ _ hget).trans
    ((Prog.eval_bind_ok _ _ _ _ _ _ hattempt).trans ?_)
  -- The list is empty, so what is left gives the lock back.
  change (Except.ok (), { w.withRows t with locked := false }) = (Except.ok (), w.withRows t)
  rw [← hfree]
  rfl

end Prefetch

omit [Crates] in
/-- An object of the device begins inside it. -/
theorem objectCount_inside (map : BlockMap) (id : Nat) (h : id < map.objectCount)
    (hsize : 0 < map.objectSize) : id * map.objectSize < map.deviceSize := by
  rw [BlockMap.objectCount, Nat.lt_iff_add_one_le, Nat.le_div_iff_mul_le hsize, Nat.succ_mul] at h
  omega

/-- An object stays on the disk as long as its row, its entry and its files are
    the same. -/
theorem OnDisk.move (objectSize : Nat) (w w' : World ρ) (id : Nat) (object : Bytes)
    (h : OnDisk objectSize w id object)
    (hpath : ∀ d, w.store.dirtyObject id = some d → d.cachePath.objectId = id)
    (hd : w'.store.dirtyObject id = w.store.dirtyObject id)
    (hf : w'.manifest.find id = w.manifest.find id)
    (hfiles : ∀ p : CachePath, p.objectId = id → w'.store.files p = w.store.files p) :
    OnDisk objectSize w' id object := by
  cases h with
  | dirty d b hrow hb =>
      refine .dirty d b (hd.trans hrow) { hb with file := ?_ }
      rw [hfiles _ (hpath d hrow)]
      exact hb.file
  | blank e hrow he hz => exact .blank e (hd.trans hrow) (hf.trans he) hz
  | cached e r b env hrow he hz hr hs hb henv =>
      exact .cached e r b env (hd.trans hrow) (hf.trans he) hz hr hs ((hfiles _ rfl).trans hb) henv

/-- A world that is a given ideal device and has all objects on its disk. Its
    dirty objects belong to the next generation, and the stored manifest is the
    one in memory. -/
structure Housed (map : BlockMap) (s : Ideal) (w : World ρ) : Prop where
  free : w.locked = false
  ids : w.manifest.objects.map ManifestObject.objectId = List.range map.objectCount
  shows : ∀ id, id * map.objectSize < map.deviceSize →
    OnDisk map.objectSize w id (span s.array (id * map.objectSize) map.objectSize)
  dirty : w.store.dirtyIds = s.dirty
  generation : w.manifest.generation = s.generation
  rows : ∀ id d, w.store.dirtyObject id = some d → id * map.objectSize < map.deviceSize ∧
    d.cachePath = LocalStore.cachePath id d.generation ∧ d.generation = s.generation + 1 ∧
    s.generation + 1 < 2 ^ 64
  stored : w.store.loadManifest = .ok (some w.manifest)

namespace Housed

variable {map : BlockMap} {s : Ideal} {w w' : World ρ}

/-- Rows of the cache do not matter. -/
theorem rowsOnly (t : Table CacheEntry.key) (h : Housed map s w) : Housed map s (w.withRows t) where
  free := h.free
  ids := h.ids
  shows := fun id hid => (h.shows id hid).move _ _ _ _ _
    (fun d hd => congrArg CachePath.objectId (h.rows id d hd).2.1) rfl rfl fun _ _ => rfl
  dirty := h.dirty
  generation := h.generation
  rows := h.rows
  stored := h.stored

/-- All objects of a manifest on the disk have their files in the cache. -/
theorem cached (hsize : 0 < map.objectSize) (h : Housed map s w) : w.Cached := by
  intro id e hd hf hz
  have hlt : id < map.objectCount := by
    have hmem := List.mem_map_of_mem (f := ManifestObject.objectId) (w.manifest.mem_of_find id e hf)
    rwa [h.ids, List.mem_range, w.manifest.objectId_of_find id e hf] at hmem
  have hobject := h.shows id (objectCount_inside map id hlt hsize)
  generalize span s.array (id * map.objectSize) map.objectSize = object at hobject
  cases hobject with
  | dirty d b hrow hb =>
      rw [hd] at hrow
      cases hrow
  | blank e' _ hf' hz' =>
      rw [hf, Option.some.injEq] at hf'
      rw [← hf', hz] at hz'
      cases hz'
  | cached e' r b env _ hf' _ _ hs hb _ =>
      rw [hf, Option.some.injEq] at hf'
      rw [← hf'] at hs hb
      exact ⟨b, hs, hb⟩

/-- What a write of a part of an object leaves. -/
theorem dirtied (dev : BlockDevice) (h : Housed dev.map s w) (id o : Nat) (chunk object : Bytes)
    (hsize : 0 < dev.map.objectSize) (hid : id * dev.map.objectSize < dev.map.deviceSize)
    (hfit : o + chunk.length ≤ dev.map.objectSize) (hgen : s.generation + 1 < 2 ^ 64)
    (hobject : object = span (splice s.array (id * dev.map.objectSize + o) chunk)
      (id * dev.map.objectSize) dev.map.objectSize)
    (hd : Dirtied id (s.generation + 1) (dev.encodeDirty id (s.generation + 1) object) w w') :
    Housed dev.map { s with
      array := splice s.array (id * dev.map.objectSize + o) chunk
      dirty := insert id s.dirty } w' where
  free := hd.locked.trans h.free
  ids := by
    rw [hd.manifest]
    exact h.ids
  shows := by
    intro i hi
    by_cases hsame : i = id
    · -- The object is in the file that was just written.
      have hlow : id < 2 ^ 64 := by
        have hdev := dev.map.deviceSize_lt
        have hle := Nat.le_mul_of_pos_right id hsize
        omega
      rw [hsame]
      have hnew : objectOf dev.map.objectSize (dev.encodeDirty id (s.generation + 1) object)
          = span (splice s.array (id * dev.map.objectSize + o) chunk) (id * dev.map.objectSize)
            dev.map.objectSize := by
        rw [objectOf_encodeDirty, hobject, padObject_self _ _ (length_span _ _ _)]
      change OnDisk _ w' id (span (splice s.array _ chunk) _ _)
      rw [← hnew]
      refine .dirty
        (dirtyRow id (s.generation + 1) (dev.encodeDirty id (s.generation + 1) object)) _
        (by rw [hd.rows, if_pos rfl]) ⟨?_, ?_, rfl⟩
      · rw [hd.files, dirtyRow, if_pos rfl]
      · exact decode_encodeDirty dev id _ object hlow hgen
    · change OnDisk _ w' i (span (splice s.array _ chunk) _ _)
      rw [show span (splice s.array (id * dev.map.objectSize + o) chunk) (i * dev.map.objectSize)
        dev.map.objectSize = span s.array (i * dev.map.objectSize) dev.map.objectSize
        from agree_splice_other _ id i _ o chunk hfit hsame]
      refine (h.shows i hi).move _ _ _ _ _
        (fun d hrow => congrArg CachePath.objectId (h.rows i d hrow).2.1) ?_ ?_ fun p hp => ?_
      · rw [hd.rows, if_neg hsame]
      · rw [hd.manifest]
      · rw [hd.files, if_neg]
        intro hpath
        rw [hpath] at hp
        exact hsame hp.symm
  dirty := by
    rw [dirtyIds_dirtied hd, h.dirty]
  generation := by
    rw [hd.manifest]
    exact h.generation
  rows := by
    intro i d hrow
    rw [hd.rows] at hrow
    by_cases hi : i = id
    · rw [if_pos hi, Option.some.injEq] at hrow
      rw [← hrow, hi]
      exact ⟨hid, rfl, rfl, hgen⟩
    · rw [if_neg hi] at hrow
      exact h.rows i d hrow
  stored := by
    rw [LocalStore.loadManifest_congr _ _ hd.state, hd.manifest]
    exact h.stored

/-- All is ready for a flush. -/
theorem flushReady (hsize : 0 < map.objectSize) (h : Housed map s w)
    (hne : w.store.dirtyRows ≠ []) : FlushReady w where
  sound := by
    intro id d hd
    have hobject := h.shows id (h.rows id d hd).1
    generalize span s.array (id * map.objectSize) map.objectSize = object at hobject
    cases hobject with
    | dirty d' b hrow hb =>
        rw [hd, Option.some.injEq] at hrow
        exact ⟨b, hrow ▸ hb⟩
    | blank e hrow =>
        rw [hd] at hrow
        cases hrow
    | cached e r b env hrow =>
        rw [hd] at hrow
        cases hrow
  listed := fun id d hd => w.manifest.find_isSome_of_ids _ id h.ids
    (lt_objectCount map id (h.rows id d hd).1 hsize)
  nodup := by
    rw [h.ids]
    exact List.nodup_range
  generation := by
    rcases List.exists_mem_of_ne_nil _ hne with ⟨d, hd⟩
    rw [h.generation]
    exact (h.rows d.objectId d ((w.store.mem_dirtyRows d).mp hd)).2.2.2

/-- A flush that succeeds leaves every object on the disk: the file of a row is
    now the file of its entry. -/
theorem flushed {B : Backend ρ} (hB : Returns B raw) (hE : Echoes B) (dev : BlockDevice)
    (hne : w.store.dirtyRows ≠ []) (hflush : Flushed B dev w (.done (.ok ())) w')
    (hfree : w'.locked = false) (h : Housed map s w) :
    Housed map { s with dirty := ∅, generation := s.generation + 1 } w' := by
  have hcarried := hflush.carried hB
  have hids := hflush.ids dev w w' _
  cases hflush with
  | idle hnil => exact absurd hnil hne
  | early _ _ ho => exact absurd rfl ho
  | stopped _ _ ho => exact absurd rfl ho
  | refused _ _ _ ho => exact absurd rfl ho
  | cut _ _ _ ho => exact absurd rfl ho
  | finished _ _ _ hup _ hstore =>
      have hrow : ∀ id, w'.store.dirtyObject id = none := fun id => by
        rw [hstore]
        exact LocalStore.dirtyObject_clear _ id
      refine {
        free := hfree
        ids := hids.trans h.ids
        shows := fun id hid => ?_
        dirty := ?_
        generation := ?_
        rows := fun id d hd => ?_
        stored := ?_ }
      · have hobject := h.shows id hid
        change OnDisk _ w' id (span s.array _ _)
        generalize span s.array (id * map.objectSize) map.objectSize = object at hobject ⊢
        rcases hcarried.object id with ⟨hsame, hfind⟩ |
          ⟨d, b, e, r, hd, _, hb, hf, hgen, hz, hr, hraw, hlive⟩
        · -- It was not dirty, and nothing about it changed.
          have hclean : w.store.dirtyObject id = none := by
            rw [← hsame]
            exact hrow id
          exact hobject.move _ _ _ _ _ (fun d hd => by rw [hclean] at hd; cases hd) hsame
            (hfind hclean) fun p _ => by rw [hcarried.files]
        · cases hobject with
          | dirty d' b' hd' hb' =>
              rw [hd, Option.some.injEq] at hd'
              rw [← hd'] at hb'
              have hbb := hb'.file
              rw [hb, Option.some.injEq] at hbb
              rw [← hbb]
              rcases hlive hE with ⟨r', sha, b2, env, hr', hsha, hraw', hsum, henv, _⟩
              rw [hr, Option.some.injEq] at hr'
              rw [← hr', hraw, Option.some.injEq] at hraw'
              rw [← hraw'] at hsum henv
              rw [w'.manifest.objectId_of_find id e hf] at henv
              refine .cached e r b env (hrow id) hf hz hr (by rw [hsha, hsum]) ?_ henv
              rw [hcarried.files, hgen, ← (h.rows id d hd).2.1]
              exact hb
          | blank e' hd' =>
              rw [hd] at hd'
              cases hd'
          | cached e' r' b' env hd' =>
              rw [hd] at hd'
              cases hd'
      · rw [Finset.eq_empty_iff_forall_notMem]
        intro id hid
        exact (LocalStore.mem_dirtyIds _ id).mp hid (hrow id)
      · rw [hup.generation]
        exact newGeneration_all _ _ _ hne fun d hd =>
          (h.rows d.objectId d ((w.store.mem_dirtyRows d).mp hd)).2.2.1
      · rw [hrow id] at hd
        cases hd
      · rw [hstore, LocalStore.loadManifest_congr _ _ (LocalStore.manifestState_clear _),
          LocalStore.loadManifest_setManifestState]

end Housed

section Emulated

variable (R : (c : Call) → ρ → Except String c.Resp × ρ)
  (hR : Returns (Env.ofRun (S := remoteSig) R) raw)
  (hE : Echoes (Env.ofRun (S := remoteSig) R)) (dev : BlockDevice)
  (hwilling : Willing (Env.ofRun (S := remoteSig) R) dev) (hsize : 0 < dev.map.objectSize)

include hR hE hwilling hsize

/-- A housed device does what the ideal one does. Its backend may have
    forgotten everything, if only it takes what it is sent. -/
theorem emulates_housed : Emulates R dev (Housed dev.map) where
  free := fun _ _ h => h.free
  dirty := fun _ _ h => h.dirty
  generation := fun _ _ h => h.generation
  object := by
    intro s w id h hid
    rcases (h.shows id hid).read R dev w h.free id _ with ⟨t, hread⟩
    exact ⟨_, hread, h.rowsOnly t⟩
  prefetch := by
    intro s w start count h
    rcases eval_prefetch_cached R w (h.cached hsize) h.free start count with ⟨t, hprefetch⟩
    rw [hprefetch]
    exact h.rowsOnly t
  stored := fun s w w' id o object chunk h hid _ hfit hgen hobject hd =>
    h.dirtied dev id o chunk _ hsize hid hfit hgen hobject hd
  flushed := by
    intro s w h
    unfold Ideal.flush
    by_cases hempty : s.dirty = ∅
    · rw [if_pos hempty, idle_of_dirtyRows R dev w (w.store.dirtyIds_eq_empty.mp
        (h.dirty.trans hempty))]
      exact ⟨rfl, h⟩
    · rw [if_neg hempty]
      have hne : w.store.dirtyRows ≠ [] := fun hnil =>
        hempty (h.dirty.symm.trans (w.store.dirtyIds_eq_empty.mpr hnil))
      rcases eval_flush_ready R dev hwilling w h.free (h.flushReady hsize hne) with
        ⟨w', hrun, hfree, hflush⟩
      rw [hrun]
      exact ⟨rfl, h.flushed hR hE dev hne hflush hfree⟩

end Emulated

/-- A process that starts with what is on the disk of a housed device, and with
    any backend, serves the same device. -/
theorem Housed.open {ρ' : Type} {map : BlockMap} {s : Ideal} {w : World ρ} (h : Housed map s w)
    (r : ρ') : ∃ w' : World ρ', openStore w.store r = .ok w' ∧ Housed map s w' := by
  refine ⟨{ store := w.store, manifest := w.manifest, locked := false, remote := r }, ?_, ?_⟩
  · rw [openStore, h.stored]
  · refine {
      free := rfl
      ids := h.ids
      shows := fun id hid => ?_
      dirty := h.dirty
      generation := h.generation
      rows := h.rows
      stored := h.stored }
    have hobject := h.shows id hid
    generalize span s.array (id * map.objectSize) map.objectSize = object at hobject ⊢
    cases hobject with
    | dirty d b hd hb => exact .dirty d b hd hb
    | blank e hd hf hz => exact .blank e hd hf hz
    | cached e r b env hd hf hz hr hs hb henv => exact .cached e r b env hd hf hz hr hs hb henv

/-- A device that was formatted over a store without dirty rows. -/
theorem housed_formatted (map : BlockMap) (hsize : 0 < map.objectSize) (uuid : Uuid)
    (store : LocalStore) (hrows : store.dirtyRows = []) (r : ρ) :
    Housed map ⟨fun _ => 0, ∅, 0⟩ {
      store := store.setManifestState (Manifest.empty uuid map.objectSize map.objectCount)
      manifest := Manifest.empty uuid map.objectSize map.objectCount
      locked := false
      remote := r } := by
  have hnone := (LocalStore.dirtyRows_eq_nil store).mp hrows
  have hids := Manifest.ids_empty uuid map.objectSize map.objectCount
  refine {
    free := rfl
    ids := hids
    shows := fun id hid => ?_
    dirty := store.dirtyIds_eq_empty.mpr hrows
    generation := rfl
    rows := fun id d hd => ?_
    stored := LocalStore.loadManifest_setManifestState _ _ }
  · rcases Option.isSome_iff_exists.mp (Manifest.find_isSome_of_ids _ _ id hids
      (lt_objectCount map id hid hsize)) with ⟨e, hf⟩
    have hzero : span (fun _ => (0 : UInt8)) (id * map.objectSize) map.objectSize
        = List.replicate map.objectSize 0 := by
      rw [span, List.map_const', List.length_range']
    change OnDisk _ _ id (span (fun _ => (0 : UInt8)) _ _)
    rw [hzero]
    exact .blank e (hnone id) hf (Manifest.mem_empty _ _ _ e (Manifest.mem_of_find _ id e hf)).1
  · have hd' : store.dirtyObject id = some d := hd
    rw [hnone id] at hd'
    cases hd'

/-- A command that opens a formatted device without its channel. Messages get
    the chat id of the configuration. -/
inductive LocalCommand : Type
  | serveNbd (chatId : Int) (clients : List (Bytes × Nat))
  | flush (chatId : Int)

namespace LocalCommand

def chatId : LocalCommand → Int
  | .serveNbd chatId _ => chatId
  | .flush chatId => chatId

/-- What a command does with its device: how each connection ended and what was
    sent over it, or how the flush ended. -/
def run (dev : BlockDevice) (options : NbdServerOptions) (command : LocalCommand)
    (w : World MemoryBackend) : List (Except String Unit × Bytes) × World MemoryBackend :=
  match command with
  | .serveNbd _ clients =>
      serveAll MemoryBackend.run dev options (clients.map fun c => .client c.1 c.2) w
  | .flush _ =>
      ([((dev.flush.eval (deviceRun MemoryBackend.run) w).1, [])],
        (dev.flush.eval (deviceRun MemoryBackend.run) w).2)

/-- The same with an ideal device. -/
def runIdeal (dev : BlockDevice) (options : NbdServerOptions) (command : LocalCommand)
    (s : Ideal) : List (Except String Unit × Bytes) × Ideal :=
  match command with
  | .serveNbd _ clients => serveIdeal dev options (clients.map fun c => .client c.1 c.2) s
  | .flush _ => ([(s.flush.1, [])], s.flush.2)

end LocalCommand

/-- Commands one after the other, each in a process of its own: with the store
    as it is then, and with a backend that has nothing. -/
def runLocal (dev : BlockDevice) (options : NbdServerOptions) :
    List LocalCommand → LocalStore → List (Except String Unit × Bytes) × LocalStore
  | [], s => ([], s)
  | command :: rest, s => match openStore s (MemoryBackend.new command.chatId) with
      | .ok w =>
          let done := command.run dev options w
          (done.1 ++ (runLocal dev options rest done.2.store).1,
            (runLocal dev options rest done.2.store).2)
      | .error msg =>
          ((.error msg, []) :: (runLocal dev options rest s).1, (runLocal dev options rest s).2)

/-- The same with an ideal device that lasts. -/
def runIdealLocal (dev : BlockDevice) (options : NbdServerOptions) :
    List LocalCommand → Ideal → List (Except String Unit × Bytes) × Ideal
  | [], s => ([], s)
  | command :: rest, s =>
      let done := command.runIdeal dev options s
      (done.1 ++ (runIdealLocal dev options rest done.2).1,
        (runIdealLocal dev options rest done.2).2)

/-- A command on a housed device. -/
theorem LocalCommand.run_housed (dev : BlockDevice) (hcommit : dev.committer = false)
    (hsize : 0 < dev.map.objectSize) (options : NbdServerOptions) (command : LocalCommand)
    (s : Ideal) (w : World MemoryBackend) (h : Housed dev.map s w) :
    (command.run dev options w).1 = (command.runIdeal dev options s).1 ∧
      Housed dev.map (command.runIdeal dev options s).2 (command.run dev options w).2 := by
  have hW := emulates_housed MemoryBackend.run MemoryBackend.returns MemoryBackend.echoes dev
    (MemoryBackend.willing dev hcommit) hsize
  cases command with
  | serveNbd chatId clients =>
      exact serveAll_ideal hW hsize (fun s w h => by rw [World.reopen, h.stored, ← h.free]) options
        _ s w h
  | flush chatId =>
      rcases hW.flushed s w h with ⟨hend, hnext⟩
      refine ⟨?_, hnext⟩
      rw [LocalCommand.run, LocalCommand.runIdeal, hend]

/-- Commands on the disk of a housed device. -/
theorem runLocal_housed (dev : BlockDevice) (hcommit : dev.committer = false)
    (hsize : 0 < dev.map.objectSize) (options : NbdServerOptions) (commands : List LocalCommand) :
    ∀ (s : Ideal) (w : World MemoryBackend), Housed dev.map s w →
      (runLocal dev options commands w.store).1 = (runIdealLocal dev options commands s).1 := by
  induction commands with
  | nil => exact fun _ _ _ => rfl
  | cons command rest ih =>
      intro s w h
      rcases h.open (MemoryBackend.new command.chatId) with ⟨w1, hopen, h1⟩
      rcases command.run_housed dev hcommit hsize options s w1 h1 with ⟨hdone, h2⟩
      rw [runLocal, hopen, runIdealLocal]
      simp only []
      rw [hdone, ih _ _ h2]

/-- A device that is formatted over a store without dirty rows and then served
    or flushed by any number of processes, none of which has a channel, sends
    to its clients what an ideal device would that lasts, byte for byte, and
    each connection and each flush ends as it would there. -/
theorem local_exact (dev : BlockDevice) (hcommit : dev.committer = false)
    (hsize : 0 < dev.map.objectSize) (options : NbdServerOptions) (uuid : Uuid)
    (store store' : LocalStore) (hrows : store.dirtyRows = [])
    (hformat : storeManifest (Manifest.empty uuid dev.map.objectSize dev.map.objectCount) store
      = .ok store') (commands : List LocalCommand) :
    (runLocal dev options commands store').1
      = (runIdealLocal dev options commands ⟨fun _ => 0, ∅, 0⟩).1 := by
  rw [storeManifest_eq_ok _ _ _ hformat]
  exact runLocal_housed dev hcommit hsize options commands _ _
    (housed_formatted dev.map hsize uuid store hrows (MemoryBackend.new 0))

end Crates

section Small

attribute [local instance] concreteCrates

/-- The small client, and after a flush a client that reads what it wrote, each
    from a process of its own. -/
def smallCommands : List LocalCommand :=
  [ .serveNbd (-100) [(smallClient, 3)]
  , .flush (-100)
  , .serveNbd (-100)
      [(smallClient.take 26 ++ (smallRequests.drop 1).flatMap SentRequest.encode, 3)] ]

/-- The store of the small device after its format. -/
def smallHome : LocalStore :=
  LocalStore.empty.setManifestState
    (Manifest.empty ⟨7⟩ smallDevice.map.objectSize smallDevice.map.objectCount)

/-- What was written in the first process is read in the third. -/
theorem local_exact_small :
    (runLocal smallDevice smallOptions smallCommands
      smallHome).1.map (fun t => (t.1.isOk, t.2.drop 70))
    = [ (true, toBe 4 repMagic ++ toBe 4 0 ++ toBe 8 5)
      , (true, [])
      , (true, toBe 4 repMagic ++ toBe 4 0 ++ toBe 8 6 ++ [9]) ] := by
  rw [local_exact smallDevice rfl (by decide) smallOptions ⟨7⟩ LocalStore.empty smallHome rfl
    (storeManifest_ok _ _ (by decide)) smallCommands]
  decide +kernel

end Small

end TgDrive
