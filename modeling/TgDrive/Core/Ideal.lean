import TgDrive.Core.Generations
import TgDrive.Core.Limits

/-!
# A Device without Failures

What a device is when nothing is wrong with it: an array of bytes, the set of
the objects that are dirty, and a generation. An operation on it is a function
that says in full what is answered, down to the text of an error, and what is
left. Requests outside the device are refused, a write goes on until the limit
on dirty objects is reached, and a flush that has something to do makes the
next generation. To restart is to do nothing.

The device of the program is that on disks and a backend that do what they are
told. `Working` relates the two states. Each method answers as the operation
does and keeps the relation, and so do any requests in a row, with restarts
between them.

## Main definitions

* `Ideal`: The state of such a device.
* `Ideal.readAt`, `Ideal.writeAt`, `Ideal.flush`: Its operations.
* `Turn`: A request or a restart.
* `Ideal.run`, `BlockDevice.run`: Turns taken one after the other.
* `Emulates`: A relation to an ideal device that reads of an object, writes of an
  object and flushes keep.
* `Working`: What a world has to do with an ideal device.

## Theorems

* `Emulates.eval_readAt`, `Emulates.eval_writeAt`, `Emulates.eval_answer`: The
  methods answer as the operations do.
* `emulates_working`, `reopen_ideal`: A working device, and a restart of it.
* `device_exact`: Any turns.
-/

namespace TgDrive

open Data Effect

/-- The state of a device without failures. -/
structure Ideal where
  array : Nat → UInt8
  dirty : Finset Nat
  generation : Nat

namespace Ideal

variable (dev : BlockDevice)

def readAt (offset len : Nat) (s : Ideal) : Except String Bytes × Ideal :=
  match checkedAdd offset len with
  | .error msg => (.error msg, s)
  | .ok stop =>
      if stop ≤ dev.map.deviceSize then (.ok (span s.array offset len), s)
      else (.error "read out of bounds", s)

/-- The object with the next bytes, stored, and then the rest. -/
def writeLoop : Nat → Nat → Bytes → Ideal → Except String Unit × Ideal
  | _, _, [], s => (.ok (), s)
  | 0, _, _ :: _, s => (.error "out of rounds", s)
  | rounds + 1, cursor, b :: bs, s =>
      let take := min (bs.length + 1) (dev.map.objectSize - cursor % dev.map.objectSize)
      if s.dirty.card < dev.maxDirtyObjects then
        match checkedAdd s.generation 1 with
        | .error msg => (.error msg, s)
        | .ok _ => writeLoop rounds (cursor + take) ((b :: bs).drop take) {
            s with
            array := splice s.array cursor ((b :: bs).take take)
            dirty := insert (cursor / dev.map.objectSize) s.dirty }
      else (.error limitReached, s)

def writeAt (offset : Nat) (bytes : Bytes) (s : Ideal) : Except String Unit × Ideal :=
  match checkedAdd offset bytes.length with
  | .error msg => (.error msg, s)
  | .ok stop =>
      if stop ≤ dev.map.deviceSize then writeLoop dev bytes.length offset bytes s
      else (.error "write out of bounds", s)

/-- The dirty objects go into the next generation, if there are any. -/
def flush (s : Ideal) : Except String Unit × Ideal :=
  if s.dirty = ∅ then (.ok (), s)
  else (.ok (), { s with dirty := ∅, generation := s.generation + 1 })

/-- A request and its answer. Only a read returns bytes. -/
def answer : Request → Ideal → Except String Bytes × Ideal
  | .read offset len, s => readAt dev offset len s
  | .write offset bytes, s => ((writeAt dev offset bytes s).1.map fun _ => [],
      (writeAt dev offset bytes s).2)
  | .flush, s => ((flush s).1.map fun _ => [], (flush s).2)

end Ideal

/-- What may happen to a device that works: a request, or a restart. -/
inductive Turn : Type
  | request (req : Request)
  | restart

/-- Turns taken by a device without failures, with the answers. -/
def Ideal.run (dev : BlockDevice) : List Turn → Ideal → List (Except String Bytes) × Ideal
  | [], s => ([], s)
  | .request req :: rest, s =>
      ((answer dev req s).1 :: (run dev rest (answer dev req s).2).1,
        (run dev rest (answer dev req s).2).2)
  | .restart :: rest, s => run dev rest s

section Crates

variable {ρ : Type} [Crates] {raw : ρ → Int → Option Bytes}

namespace BlockDevice

variable (dev : BlockDevice)

/-- The program of a request, with its answer. -/
def answer : Request → Prog deviceSig Bytes
  | .read offset len => dev.readAt offset len
  | .write offset bytes => dev.writeAt offset bytes >>= fun _ => pure []
  | .flush => dev.flush >>= fun _ => pure []

/-- Turns taken by a device. One that does not start again answers no more. -/
def run (R : (c : Call) → ρ → Except String c.Resp × ρ) :
    List Turn → World ρ → List (Except String Bytes) × World ρ
  | [], w => ([], w)
  | .request req :: rest, w =>
      let answered := (dev.answer req).eval (deviceRun R) w
      (answered.1 :: (run R rest answered.2).1, (run R rest answered.2).2)
  | .restart :: rest, w => match w.reopen with
      | .ok w' => run R rest w'
      | .error msg => ([.error msg], w)

end BlockDevice

omit [Crates] in
/-- Dirty objects that are all of one generation are flushed into it. -/
theorem newGeneration_all (rows : List DirtyObject) (fallback gen : Nat) (hne : rows ≠ [])
    (h : ∀ d ∈ rows, d.generation = gen) : BlockDevice.newGeneration rows fallback = gen := by
  rcases (newGeneration_rows rows fallback hne).1 with ⟨d, hd, hgen⟩
  rw [hgen]
  exact h d hd

/-- A flush for which all is ready goes through. -/
theorem eval_flush_ready (R : (c : Call) → ρ → Except String c.Resp × ρ) (dev : BlockDevice)
    (hwilling : Willing (Env.ofRun (S := remoteSig) R) dev) (w : World ρ) (hfree : w.locked = false)
    (hready : FlushReady w) : ∃ w', dev.flush.eval (deviceRun R) w = (.ok (), w') ∧
      w'.locked = false ∧ Flushed (Env.ofRun (S := remoteSig) R) dev w (.done (.ok ())) w' := by
  have hpost := wp_deviceRun R _ _ _ w
    (wp_flush (B := Env.ofRun (S := remoteSig) R) (P := Policy.quiet) dev w)
  rcases hrun : dev.flush.eval (deviceRun R) w with ⟨r, w'⟩
  rw [hrun] at hpost
  rcases hpost with ⟨hflush, hlock, heasy⟩
  cases r with
  | ok u => exact ⟨w', hrun, hlock.trans hfree, hflush⟩
  | error msg => exact absurd ⟨fun _ _ _ hf => hf, hwilling, hready⟩ (heasy msg rfl hfree)

/-- A world whose device works, and is a given ideal one. All dirty objects
    belong to the next generation, and the stored manifest is the one in
    memory. -/
structure Working (raw : ρ → Int → Option Bytes) (map : BlockMap) (s : Ideal) (w : World ρ) :
    Prop where
  durable : Durable raw map w
  free : w.locked = false
  shows : Shows raw map.objectSize w s.array
  dirty : w.store.dirtyIds = s.dirty
  generation : w.manifest.generation = s.generation
  rows : ∀ id d, w.store.dirtyObject id = some d →
    d.generation = s.generation + 1 ∧ s.generation + 1 < 2 ^ 64
  stored : w.store.loadManifest = .ok (some w.manifest)

/-- A device just built from a sound manifest works. -/
theorem working_opened (map : BlockMap) (m : Manifest) (s : ρ) (hm : m.Sound map (raw s)) :
    Working raw map ⟨(World.opened m s).array raw map.objectSize, ∅, m.generation⟩
      (World.opened m s) where
  durable := durable_opened map m s hm
  free := rfl
  shows := shows_array raw map.objectSize _
  dirty := rfl
  generation := rfl
  rows := fun _ _ hd => (by cases hd)
  stored := LocalStore.loadManifest_setManifestState m _

namespace Working

variable {map : BlockMap} {s : Ideal} {w w' : World ρ}

/-- Filling the cache is not seen. -/
theorem fill {B : Backend ρ} (hB : Returns B raw) (hfill : CacheFill B raw w w')
    (hlocked : w'.locked = false) (h : Working raw map s w) : Working raw map s w' where
  durable := h.durable.fill hB hfill
  free := hlocked
  shows := CacheFill.shows hB _ w w' hfill h.durable.consistent _ h.shows
  dirty := (dirtyIds_fill hfill).trans h.dirty
  generation := by
    rw [hfill.manifest]
    exact h.generation
  rows := fun id d hd => h.rows id d (by rwa [CacheFill.dirtyObject w w' hfill] at hd)
  stored := by
    rw [LocalStore.loadManifest_congr _ _ hfill.state, hfill.manifest]
    exact h.stored

/-- A flush that succeeds has made the next generation. -/
theorem flushed {B : Backend ρ} (hB : Returns B raw) (hE : Echoes B) (dev : BlockDevice)
    (hne : w.store.dirtyRows ≠ []) (hflush : Flushed B dev w (.done (.ok ())) w')
    (hfree : w'.locked = false) (h : Working raw map s w) :
    Working raw map { s with dirty := ∅, generation := s.generation + 1 } w' := by
  have hshows := Carried.shows _ w w' (hflush.carried hB) h.durable.consistent _ h.shows
  have hdur := h.durable.flushed hB hE dev _ hflush
  cases hflush with
  | idle hnil => exact absurd hnil hne
  | early _ _ ho => exact absurd rfl ho
  | stopped _ _ ho => exact absurd rfl ho
  | refused _ _ _ ho => exact absurd rfl ho
  | cut _ _ _ ho => exact absurd rfl ho
  | finished _ _ _ hup _ hstore =>
      have hrow : ∀ id, w'.store.dirtyObject id = none := fun id => by
        rw [hstore]
        exact LocalStore.dirtyObject_clear _ id
      refine {
        durable := hdur
        free := hfree
        shows := hshows
        dirty := ?_
        generation := ?_
        rows := fun id d hd => ?_
        stored := ?_ }
      · rw [Finset.eq_empty_iff_forall_notMem]
        intro id hid
        exact (LocalStore.mem_dirtyIds _ id).mp hid (hrow id)
      · rw [hup.generation]
        exact newGeneration_all _ _ _ hne fun d hd =>
          (h.rows d.objectId d ((w.store.mem_dirtyRows d).mp hd)).1
      · rw [hrow id] at hd
        cases hd
      · rw [hstore, LocalStore.loadManifest_congr _ _ (LocalStore.manifestState_clear _),
          LocalStore.loadManifest_setManifestState]

end Working

/-- Worlds that stand for ideal devices, on disks and a backend that do what
    they are told: how the parts answer that the methods are made of, and which
    worlds they lead to. -/
structure Emulates (R : (c : Call) → ρ → Except String c.Resp × ρ) (dev : BlockDevice)
    (W : Ideal → World ρ → Prop) : Prop where
  free : ∀ s w, W s w → w.locked = false
  dirty : ∀ s w, W s w → w.store.dirtyIds = s.dirty
  generation : ∀ s w, W s w → w.manifest.generation = s.generation
  object : ∀ s w id, W s w → id * dev.map.objectSize < dev.map.deviceSize →
    ∃ w1, (dev.readObject id).eval (deviceRun R) w
      = (.ok (span s.array (id * dev.map.objectSize) dev.map.objectSize), w1) ∧ W s w1
  prefetch : ∀ s w start count, W s w →
    W s ((BlockDevice.prefetchObjects start count).eval (deviceRun R) w).2
  stored : ∀ s w w' id o object chunk, W s w → id * dev.map.objectSize < dev.map.deviceSize →
    0 < chunk.length → o + chunk.length ≤ dev.map.objectSize → s.generation + 1 < 2 ^ 64 →
    BlockDevice.overwrite object o chunk =
      span (splice s.array (id * dev.map.objectSize + o) chunk) (id * dev.map.objectSize)
        dev.map.objectSize →
    Dirtied id (s.generation + 1)
      (dev.encodeDirty id (s.generation + 1) (BlockDevice.overwrite object o chunk)) w w' →
    W { s with
      array := splice s.array (id * dev.map.objectSize + o) chunk
      dirty := insert id s.dirty } w'
  flushed : ∀ s w, W s w → (dev.flush.eval (deviceRun R) w).1 = s.flush.1 ∧
    W s.flush.2 (dev.flush.eval (deviceRun R) w).2

namespace Emulates

variable {R : (c : Call) → ρ → Except String c.Resp × ρ} {dev : BlockDevice}
  {W : Ideal → World ρ → Prop} (hW : Emulates R dev W) (hsize : 0 < dev.map.objectSize)

include hW hsize

/-- The rounds of a read. -/
theorem eval_readLoop (s : Ideal) (rounds : Nat) :
    ∀ (cursor left : Nat) (out : Bytes) (w : World ρ), left ≤ rounds →
      cursor + left ≤ dev.map.deviceSize → W s w →
      ∃ w1, (dev.readLoop rounds cursor left out).eval (deviceRun R) w
        = (.ok (out ++ span s.array cursor left, cursor + left), w1) ∧ W s w1 := by
  induction rounds with
  | zero =>
      intro cursor left out w hrounds _ h
      rw [Nat.le_zero.mp hrounds]
      exact ⟨w, by rw [span_zero, List.append_nil]; rfl, h⟩
  | succ rounds ih =>
      intro cursor left out w hrounds hin h
      cases left with
      | zero => exact ⟨w, by rw [span_zero, List.append_nil]; rfl, h⟩
      | succ left =>
          have hmod := Nat.mod_lt cursor hsize
          have hdiv := Nat.div_add_mod cursor dev.map.objectSize
          rw [Nat.mul_comm] at hdiv
          rcases hW.object s w (cursor / dev.map.objectSize) h (by omega) with ⟨w1, hobject, h1⟩
          generalize htake : min (left + 1)
            (dev.map.objectSize - cursor % dev.map.objectSize) = take
          rcases ih (cursor + take) (left + 1 - take) (out ++ span s.array cursor take) w1
            (by omega) (by omega) h1 with ⟨w2, hrest, h2⟩
          refine ⟨w2, ?_, h2⟩
          unfold BlockDevice.readLoop
          rw [locate_inside dev.map cursor hsize (by omega), Prog.eval_bind_ok _ _ _ w w _ rfl]
          simp only [htake]
          rw [Prog.eval_bind_ok _ _ _ _ _ _ hobject, take_drop_span _ _ _ _ _ (by omega), hdiv,
            hrest, List.append_assoc, ← span_add, show take + (left + 1 - take) = left + 1 by omega,
            show cursor + take + (left + 1 - take) = cursor + (left + 1) by omega]

/-- A read. The prefetch after it is not seen. -/
theorem eval_readAt (s : Ideal) (w : World ρ) (h : W s w) (offset len : Nat) :
    ((dev.readAt offset len).eval (deviceRun R) w).1 = (s.readAt dev offset len).1 ∧
      W (s.readAt dev offset len).2 ((dev.readAt offset len).eval (deviceRun R) w).2 := by
  unfold BlockDevice.readAt Ideal.readAt
  rcases hstop : checkedAdd offset len with msg | stop
  · rw [Prog.eval_bind_error _ _ _ w w msg rfl]
    exact ⟨rfl, h⟩
  · rw [Prog.eval_bind_ok _ _ _ w w stop rfl]
    by_cases hin : stop ≤ dev.map.deviceSize
    · have hsum := checkedAdd_eq_ok offset len stop hstop
      rcases hW.eval_readLoop hsize s len offset len [] w (Nat.le_refl _) (by omega) h with
        ⟨w1, hloop, h1⟩
      rw [decide_eq_true hin, Prog.eval_bind_ok _ _ _ w w () rfl,
        Prog.eval_bind_ok _ _ _ _ _ _ hloop]
      simp only [if_pos hin, List.nil_append]
      have hkeep : ∀ start, ((BlockDevice.prefetchObjects start dev.readAheadObjects).attempt >>=
          fun _ => pure (span s.array offset len) : Prog deviceSig Bytes).eval (deviceRun R) w1
          = (.ok (span s.array offset len), ((BlockDevice.prefetchObjects start
            dev.readAheadObjects).eval (deviceRun R) w1).2) := fun start =>
        Prog.eval_bind_ok _ _ _ _ _ _ (Prog.eval_attempt (deviceRun R)
          (BlockDevice.prefetchObjects start dev.readAheadObjects) w1)
      by_cases hmore : offset + len < dev.map.deviceSize
      · rw [if_pos hmore, locate_inside dev.map _ hsize hmore]
        rcases (offset + len) % dev.map.objectSize with _ | o
        · have hafter := hW.prefetch s w1 ((offset + len) / dev.map.objectSize)
            dev.readAheadObjects h1
          rw [← congrArg Prod.snd (hkeep _)] at hafter
          exact ⟨congrArg Prod.fst (hkeep _), hafter⟩
        · exact ⟨rfl, h1⟩
      · rw [if_neg hmore]
        exact ⟨rfl, h1⟩
    · rw [decide_eq_false hin, Prog.eval_bind_error _ _ _ w w _ rfl]
      simp only [if_neg hin, true_and]
      exact h

/-- The rounds of a write. -/
theorem eval_writeLoop (rounds : Nat) :
    ∀ (cursor : Nat) (bytes : Bytes) (s : Ideal) (w : World ρ), bytes.length ≤ rounds →
      cursor + bytes.length ≤ dev.map.deviceSize → W s w →
      ((dev.writeLoop rounds cursor bytes).eval (deviceRun R) w).1
        = (s.writeLoop dev rounds cursor bytes).1 ∧
      W (s.writeLoop dev rounds cursor bytes).2
        ((dev.writeLoop rounds cursor bytes).eval (deviceRun R) w).2 := by
  induction rounds with
  | zero =>
      intro cursor bytes s w hrounds hin h
      rw [List.length_eq_zero_iff.mp (Nat.le_zero.mp hrounds)]
      exact ⟨rfl, h⟩
  | succ rounds ih =>
      intro cursor bytes s w hrounds hin h
      cases bytes with
      | nil => exact ⟨rfl, h⟩
      | cons b bs =>
          rw [List.length_cons] at hrounds hin
          rw [Ideal.writeLoop]
          generalize hid : cursor / dev.map.objectSize = id
          generalize ho : cursor % dev.map.objectSize = o
          generalize htake : min (bs.length + 1) (dev.map.objectSize - o) = take
          have hmod := Nat.mod_lt cursor hsize
          have hdiv := Nat.div_add_mod cursor dev.map.objectSize
          rw [hid, ho, Nat.mul_comm] at hdiv
          rcases eval_writeLoop_round R dev hsize rounds cursor b bs w s.array hin id o take
            hid.symm ho.symm htake.symm (W s) h (hW.object s w id h (by omega)) with
            ⟨object, w1, h1, hobject, heval⟩
          rw [heval]
          have hfree1 := hW.free s w1 h1
          have hgen1 := hW.generation s w1 h1
          by_cases hroom : s.dirty.card < dev.maxDirtyObjects
          · have hroom1 : w1.store.dirtyIds.card < dev.maxDirtyObjects := by
              rw [hW.dirty s w1 h1]
              exact hroom
            simp only [if_pos hroom]
            rcases hgen : checkedAdd s.generation 1 with msg | next
            · rw [Prog.eval_bind_error _ _ _ _ _ _ (eval_writeDirtyObject_last R dev w1 id o take _
                hfree1 hroom1 msg (by rw [hgen1]; exact hgen))]
              exact ⟨rfl, h1⟩
            · have hsum := checkedAdd_eq_ok _ _ _ hgen
              rcases eval_writeDirtyObject_room R dev w1 hfree1 id o take
                (BlockDevice.overwrite object o ((b :: bs).take take)) hroom1
                (by rw [hgen1]; exact hsum.2) with ⟨w2, hstore, _, hdirty⟩
              have hlen : ((b :: bs).take take).length = take := by
                rw [List.length_take, List.length_cons]
                omega
              have hdrop : ((b :: bs).drop take).length = bs.length + 1 - take := by
                rw [List.length_drop, List.length_cons]
              rw [hgen1] at hdirty
              have h2 := hW.stored s w1 w2 id o object ((b :: bs).take take) h1 (by omega)
                (by omega) (by omega) hsum.2 hobject hdirty
              rw [hdiv] at h2
              rw [Prog.eval_bind_ok _ _ _ _ _ _ hstore]
              exact ih _ _ _ w2 (by omega) (by omega) h2
          · simp only [if_neg hroom]
            rw [Prog.eval_bind_error _ _ _ _ _ _ (eval_writeDirtyObject_full R dev w1 id o take _
              (by rw [hW.dirty s w1 h1]; exact hroom))]
            exact ⟨rfl, h1⟩

/-- A write. -/
theorem eval_writeAt (s : Ideal) (w : World ρ) (h : W s w) (offset : Nat) (bytes : Bytes) :
    ((dev.writeAt offset bytes).eval (deviceRun R) w).1 = (s.writeAt dev offset bytes).1 ∧
      W (s.writeAt dev offset bytes).2 ((dev.writeAt offset bytes).eval (deviceRun R) w).2 := by
  unfold BlockDevice.writeAt Ideal.writeAt
  rcases hstop : checkedAdd offset bytes.length with msg | stop
  · rw [Prog.eval_bind_error _ _ _ w w msg rfl]
    exact ⟨rfl, h⟩
  · rw [Prog.eval_bind_ok _ _ _ w w stop rfl]
    by_cases hin : stop ≤ dev.map.deviceSize
    · rw [decide_eq_true hin, Prog.eval_bind_ok _ _ _ w w () rfl]
      simp only [if_pos hin]
      have hsum := checkedAdd_eq_ok _ _ _ hstop
      exact hW.eval_writeLoop hsize _ offset bytes s w (Nat.le_refl _) (by omega) h
    · rw [decide_eq_false hin, Prog.eval_bind_error _ _ _ w w _ rfl]
      simp only [if_neg hin, true_and]
      exact h

/-- A request. -/
theorem eval_answer (req : Request) (s : Ideal) (w : World ρ) (h : W s w) :
    ((dev.answer req).eval (deviceRun R) w).1 = (s.answer dev req).1 ∧
      W (s.answer dev req).2 ((dev.answer req).eval (deviceRun R) w).2 := by
  have hunit : ∀ (p : Prog deviceSig Unit) (x : Except String Unit × Ideal),
      (p.eval (deviceRun R) w).1 = x.1 ∧ W x.2 (p.eval (deviceRun R) w).2 →
      ((p >>= fun _ => pure ([] : Bytes)).eval (deviceRun R) w).1 = x.1.map (fun _ => []) ∧
        W x.2 ((p >>= fun _ => pure ([] : Bytes)).eval (deviceRun R) w).2 := by
    intro p x hp
    rcases heval : p.eval (deviceRun R) w with ⟨r, w'⟩
    rw [heval] at hp
    rw [← hp.1]
    cases r with
    | ok u =>
        rw [Prog.eval_bind_ok _ _ _ _ _ _ heval]
        exact ⟨rfl, hp.2⟩
    | error msg =>
        rw [Prog.eval_bind_error _ _ _ _ _ _ heval]
        exact ⟨rfl, hp.2⟩
  cases req with
  | read offset len => exact hW.eval_readAt hsize s w h offset len
  | write offset bytes => exact hunit _ _ (hW.eval_writeAt hsize s w h offset bytes)
  | flush => exact hunit _ _ (hW.flushed s w h)

end Emulates

section Eval

variable (R : (c : Call) → ρ → Except String c.Resp × ρ)
  (hR : Returns (Env.ofRun (S := remoteSig) R) raw)
  (hE : Echoes (Env.ofRun (S := remoteSig) R)) (dev : BlockDevice)
  (hwilling : Willing (Env.ofRun (S := remoteSig) R) dev) (hsize : 0 < dev.map.objectSize)

include hR hE hwilling hsize

/-- A flush of a working device. -/
theorem eval_flush_working (s : Ideal) (w : World ρ) (h : Working raw dev.map s w) :
    (dev.flush.eval (deviceRun R) w).1 = s.flush.1 ∧
      Working raw dev.map s.flush.2 (dev.flush.eval (deviceRun R) w).2 := by
  unfold Ideal.flush
  by_cases hempty : s.dirty = ∅
  · rw [if_pos hempty, idle_of_dirtyRows R dev w (w.store.dirtyIds_eq_empty.mp
      (h.dirty.trans hempty))]
    exact ⟨rfl, h⟩
  · rw [if_neg hempty]
    have hne : w.store.dirtyRows ≠ [] := fun hnil =>
      hempty (h.dirty.symm.trans (w.store.dirtyIds_eq_empty.mpr hnil))
    have hlow : w.manifest.generation + 1 < 2 ^ 64 := by
      rcases List.exists_mem_of_ne_nil _ hne with ⟨d, hd⟩
      rw [h.generation]
      exact (h.rows d.objectId d ((w.store.mem_dirtyRows d).mp hd)).2
    rcases eval_flush_ready R dev hwilling w h.free (h.durable.flushReady hsize hlow) with
      ⟨w', hrun, hfree, hflush⟩
    rw [hrun]
    exact ⟨rfl, h.flushed hR hE dev hne hflush hfree⟩

/-- A working device does what the ideal one does. -/
theorem emulates_working (hserves : Serves (Env.ofRun (S := remoteSig) R) raw) :
    Emulates R dev (Working raw dev.map) where
  free := fun _ _ h => h.free
  dirty := fun _ _ h => h.dirty
  generation := fun _ _ h => h.generation
  object := by
    intro s w id h hid
    rcases eval_readObject_serves R hR hserves dev hsize w h.durable h.free id hid with
      ⟨w1, heval, hfree, hfill⟩
    rw [h.shows id] at heval
    exact ⟨w1, heval, h.fill hR hfill hfree⟩
  prefetch := by
    intro s w start count h
    have hpost := wp_deviceRun R _ _ _ w
      (wp_prefetchObjects (P := Policy.quiet) hR start count w)
    exact h.fill hR hpost.1 (hpost.2.trans h.free)
  stored := by
    intro s w w' id o object chunk h hid hlen hfit hgen hobject hdirty
    rw [← h.generation] at hgen hdirty
    have hst := Stocktaking.chunk R hR dev hsize w w w' s.array id o chunk object h.durable h.shows
      hlen hfit hid hgen (CacheFill.refl w) (hdirty.locked.trans h.free) hobject hdirty
    refine {
      durable := hst.durable
      free := hst.free
      shows := hst.shows
      dirty := ?_
      generation := ?_
      rows := fun i d hd => ?_
      stored := ?_ }
    · rw [dirtyIds_dirtied hdirty, h.dirty]
    · rw [hdirty.manifest]
      exact h.generation
    · rw [hdirty.rows] at hd
      by_cases hi : i = id
      · rw [if_pos hi, Option.some.injEq] at hd
        rw [← hd]
        exact ⟨congrArg (· + 1) h.generation, by rw [← h.generation]; exact hgen⟩
      · rw [if_neg hi] at hd
        exact h.rows i d hd
    · rw [LocalStore.loadManifest_congr _ _ hdirty.state, hdirty.manifest]
      exact h.stored
  flushed := eval_flush_working R hR hE dev hwilling hsize

omit hR hE hwilling hsize [Crates] in
/-- A restart of a working device changes nothing. -/
theorem reopen_ideal [Crates] (map : BlockMap) (s : Ideal) (w : World ρ)
    (h : Working raw map s w) : w.reopen = .ok w := by
  rw [World.reopen, h.stored, ← h.free]

/-- Turns taken by a working device. -/
theorem run_ideal (hserves : Serves (Env.ofRun (S := remoteSig) R) raw) (turns : List Turn) :
    ∀ (s : Ideal) (w : World ρ), Working raw dev.map s w →
      (dev.run R turns w).1 = (s.run dev turns).1 ∧
        Working raw dev.map (s.run dev turns).2 (dev.run R turns w).2 := by
  have hW := emulates_working R hR hE dev hwilling hsize hserves
  induction turns with
  | nil => exact fun s w h => ⟨rfl, h⟩
  | cons turn rest ih =>
      intro s w h
      cases turn with
      | request req =>
          rcases hW.eval_answer hsize req s w h with ⟨hans, hnext⟩
          rcases ih _ _ hnext with ⟨hrest, hend⟩
          exact ⟨List.cons_eq_cons.mpr ⟨hans, hrest⟩, hend⟩
      | restart =>
          rw [BlockDevice.run, reopen_ideal dev.map s w h]
          exact ih s w h

end Eval

/-- A device built from a sound manifest, on disks and a backend that do what
    they are told, answers any requests exactly as the ideal device does,
    refusals and errors included, and restarts are not seen. -/
theorem device_exact (R : (c : Call) → ρ → Except String c.Resp × ρ)
    (hR : Returns (Env.ofRun (S := remoteSig) R) raw)
    (hE : Echoes (Env.ofRun (S := remoteSig) R))
    (hserves : Serves (Env.ofRun (S := remoteSig) R) raw) (dev : BlockDevice)
    (hwilling : Willing (Env.ofRun (S := remoteSig) R) dev) (hsize : 0 < dev.map.objectSize)
    (m : Manifest) (s : ρ) (hm : m.Sound dev.map (raw s)) (turns : List Turn) :
    (dev.run R turns (World.opened m s)).1 =
      (Ideal.run dev turns ⟨(World.opened m s).array raw dev.map.objectSize, ∅, m.generation⟩).1 :=
  (run_ideal R hR hE dev hwilling hsize hserves turns _ _ (working_opened dev.map m s hm)).1

end Crates

section Small

attribute [local instance] concreteCrates

/-- Two writes to the device with room for one dirty object, and what a flush
    and a restart make of it. -/
theorem device_exact_small :
    (smallTight.run MemoryBackend.run [.request (.write 2 [7, 8, 9]), .restart, .request .flush,
      .request (.write 4 [9]), .request (.read 0 8), .request (.read 7 2)] smallBlank).1
      = [.error limitReached, .ok [], .ok [], .ok [0, 0, 7, 8, 9, 0, 0, 0],
        .error "read out of bounds"] := by
  refine (device_exact MemoryBackend.run MemoryBackend.returns MemoryBackend.echoes
    MemoryBackend.serves smallTight (MemoryBackend.willing smallTight rfl) (by decide)
    (Manifest.empty ⟨7⟩ 4 2) (MemoryBackend.new (-100)) (sound_empty smallMap ⟨7⟩ _) _).trans ?_
  decide +kernel

end Small

end TgDrive
