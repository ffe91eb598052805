import TgDrive.Cli.Format
import TgDrive.Core.Transparency

/-!
# Stores That Need No Backend

A flush leaves the files of what it uploaded where they are, so on the machine
that wrote a device every object of it is in the cache or dirty, unless it is
blank. Such a store is stocked. Runs keep it so, and a device that is opened
from it reads and writes without asking its backend, whichever that is: the
one it was flushed to, or one that has never heard of it.

What the references of the manifest stand for is still said by a reading `raw`
of remote states. Here it is a parameter that is not tied to the backend in
use.

## Main definitions

* `Stocked`: Every object that is neither dirty nor blank is in the cache.

## Theorems

* `Run.stocked`: Runs keep a store stocked.
* `eval_readObject_stocked`, `eval_readAt_stocked`: Reading without a backend.
* `eval_writeLoop_stocked`, `writeAll_stocked`: Writing without one.
* `flushes_stocked`: What was written can be flushed.
-/

namespace TgDrive

open Data Effect

section Crates

variable {ρ : Type} [Crates] {B : Backend ρ} {P : Policy ρ} {raw : ρ → Int → Option Bytes}

/-- Every object that is neither dirty nor blank has its file in the cache. -/
def Stocked (w : World ρ) : Prop :=
  ∀ id e, w.store.dirtyObject id = none → w.manifest.find id = some e → e.zero = false →
    ∃ b, w.store.files (LocalStore.cachePath id e.generation) = some b

namespace Stocked

variable {w w' : World ρ}

omit [Crates] in
/-- Filling the cache keeps a store stocked. -/
theorem fill (hfill : CacheFill B raw w w') (h : Stocked w) : Stocked w' := by
  intro id e hd hf hz
  rw [CacheFill.dirtyObject w w' hfill] at hd
  rw [hfill.manifest] at hf
  rcases hfill.files (LocalStore.cachePath id e.generation) with hsame | ⟨_, _, b, _, _, _, _, _, _, hb⟩
  · rw [hsame]
    exact h id e hd hf hz
  · exact ⟨b, hb⟩

omit [Crates] in
theorem rowsOnly (t : Table CacheEntry.key) (h : Stocked w) : Stocked (w.withRows t) := h

/-- Storing an object as dirty keeps a store stocked. -/
theorem dirtied {id gen : Nat} {encoded : Bytes} (hd : Dirtied id gen encoded w w')
    (h : Stocked w) : Stocked w' := by
  intro i e hnone hf hz
  rw [hd.rows] at hnone
  by_cases hi : i = id
  · rw [if_pos hi] at hnone
    cases hnone
  · rw [if_neg hi] at hnone
    rw [hd.manifest] at hf
    rw [hd.files, if_neg (cachePath_ne i _ hi)]
    exact h i e hnone hf hz

theorem writeStep (dev : BlockDevice) (hstep : WriteStep B raw dev w w') (h : Stocked w) :
    Stocked w' := by
  cases hstep with
  | fill hfill => exact h.fill hfill
  | dirtied id object _ _ hd => exact h.dirtied hd
  | torn id object _ _ ht =>
      intro i e hnone hf hz
      rw [ht.rows] at hnone
      rw [ht.manifest] at hf
      rw [ht.files]
      by_cases hp : LocalStore.cachePath i e.generation
          = LocalStore.cachePath id (w.manifest.generation + 1)
      · rw [if_pos hp]
        exact ⟨_, rfl⟩
      · rw [if_neg hp]
        exact h i e hnone hf hz

theorem wrote (dev : BlockDevice) (hsteps : Wrote B raw dev w w') (h : Stocked w) :
    Stocked w' := by
  induction hsteps with
  | refl => exact h
  | tail _ hstep ih => exact ih.writeStep dev hstep

/-- However a flush ends, it keeps a store stocked: the entry of what it has
    uploaded names the file of the row. -/
theorem carried (hcarried : Carried B raw w w') (hw : Consistent raw w) (h : Stocked w) :
    Stocked w' := by
  intro id e hd hf hz
  rw [hcarried.files]
  rcases hcarried.object id with ⟨hrow, hsame⟩ | ⟨d, b, e', _, hd', _, hb, hf', hg, _⟩
  · rw [hrow] at hd
    rw [hsame hd] at hf
    exact h id e hd hf hz
  · rw [hf', Option.some.injEq] at hf
    rw [← hf, hg, ← hw.path id d hd']
    exact ⟨b, hb⟩

/-- However a request ends, it keeps a store stocked. -/
theorem ends (hB : Returns B raw) (hP : Careful P) (dev : BlockDevice) (req : Request)
    (o : Outcome Unit) (hreq : Exec (DeviceEnv B P) (req.program dev) w o w')
    (hw : Consistent raw w) (h : Stocked w) : Stocked w' := by
  have ha := shows_array raw dev.map.objectSize w
  have hpost : wp (DeviceEnv B P) (req.program dev) (fun _ w' => Stocked w') Stocked w := by
    cases req with
    | read offset len =>
        exact wp_seq _ _ _ _ _ _ _ (wp_readAt hB dev _ offset len w hw ha)
          (fun _ w1 hr => h.fill hr.fill) (fun _ w1 hr => h.fill hr.fill)
          (fun w1 hc => h.fill hc)
    | write offset bytes =>
        exact wp_mono _ _ _ _ _ (fun _ w1 hr => h.wrote dev hr.steps)
          (fun w1 hc => h.wrote dev hc.1) _ (wp_writeAt hB hP dev _ offset bytes w hw ha)
    | flush =>
        exact wp_mono _ _ _ _ _ (fun _ w1 hr => h.carried (hr.1.carried hB) hw)
          (fun w1 hc => h.carried (hc.carried hB) hw) _ (wp_flush dev w)
  have hall := (wp_iff_exec _ _ _ _).mp hpost o w' hreq
  cases o with
  | done r => exact hall
  | crashed => exact hall

end Stocked

/-- A request that ends gives up the lock if it found it free. -/
theorem Request.unlocked (hB : Returns B raw) (hP : Careful P) (dev : BlockDevice)
    (req : Request) (w w' : World ρ) (r : Except String Unit)
    (hreq : Exec (DeviceEnv B P) (req.program dev) w (.done r) w') (hw : Consistent raw w) :
    w'.locked = w.locked := by
  have ha := shows_array raw dev.map.objectSize w
  cases req with
  | read offset len =>
      have hpost : wp (DeviceEnv B P) ((Request.read offset len).program dev)
          (fun _ w' => w'.locked = w.locked) (fun _ => True) w :=
        wp_seq _ _ _ _ _ _ _ (wp_readAt hB dev _ offset len w hw ha)
          (fun _ w1 hr => hr.locked) (fun _ w1 hr => hr.locked) (fun w1 hc => trivial)
      exact wp_done _ _ _ _ _ _ hpost hreq
  | write offset bytes =>
      exact (wp_done _ _ _ _ _ _ (wp_writeAt hB hP dev _ offset bytes w hw ha) hreq).locked
  | flush => exact (wp_done _ _ _ _ _ _ (wp_flush dev w) hreq).2.1

/-- Runs keep a store stocked, and their devices wait for no lock. -/
theorem Run.stocked (hB : Returns B raw) (hE : Echoes B) (hP : Careful P) (dev : BlockDevice)
    (hsize : 0 < dev.map.objectSize) (w0 w : World ρ) (h0 : Durable raw dev.map w0)
    (hs0 : Stocked w0) (hfree : w0.locked = false) (h : Run B P dev w0 w) :
    Stocked w ∧ w.locked = false := by
  induction h with
  | start => exact ⟨hs0, hfree⟩
  | next w w' req r hrun hreq ih =>
      have hw := (Run.durable hB hE hP dev hsize w0 w h0 hrun).consistent
      exact ⟨Stocked.ends hB hP dev req _ hreq hw ih.1,
        (Request.unlocked hB hP dev req w w' r hreq hw).trans ih.2⟩
  | restart w w' w'' req o hrun hreq hopen ih =>
      have hw := Run.durable hB hE hP dev hsize w0 w h0 hrun
      have hs := Stocked.ends hB hP dev req o hreq hw.consistent ih.1
      rcases (Request.ends hB hE hP dev hsize req o w w' hreq hw _
        (shows_array raw dev.map.objectSize w)).1.stored with ⟨m, hm, _, hsame⟩
      -- The stored manifest agrees with the one in memory where there is no row.
      rw [World.reopen, hm, Except.ok.injEq] at hopen
      rw [← hopen]
      exact ⟨fun id e hd hf hz => hs id e hd ((hsame id hd).symm.trans hf) hz, rfl⟩

namespace Durable

variable {map : BlockMap} {w : World ρ}

omit [Crates] in
/-- Rows of the cache do not matter to a durable world. -/
theorem rowsOnly [Crates] (t : Table CacheEntry.key) (h : Durable raw map w) :
    Durable raw map (w.withRows t) where
  consistent := { path := h.consistent.path, clean := h.consistent.clean }
  rows := h.rows
  live := h.live
  ids := h.ids
  stored := h.stored

end Durable

section Eval

variable (R : (c : Call) → ρ → Except String c.Resp × ρ)

/-- An object of a stocked store is read, and nothing happens but that a row of
    the cache is refreshed. -/
theorem eval_readObject_stocked (dev : BlockDevice) (w : World ρ) (hw : Durable raw dev.map w)
    (hs : Stocked w) (hfree : w.locked = false) (hsize : 0 < dev.map.objectSize) (id : Nat)
    (hid : id * dev.map.objectSize < dev.map.deviceSize) :
    ∃ t, (dev.readObject id).eval (deviceRun R) w
      = (.ok (w.content raw dev.map.objectSize id), w.withRows t) := by
  rcases hd : w.store.dirtyObject id with _ | d
  · rcases Option.isSome_iff_exists.mp (hw.ids.find_isSome _ dev.map id hid hsize) with ⟨e, hf⟩
    rw [w.content_clean raw _ _ hd]
    rcases hz : e.zero with _ | _
    · -- The file is in the cache, and it is a copy of the remote object.
      rcases hs id e hd hf hz with ⟨cached, hfile⟩
      rcases hw.live id e hd hf hz with ⟨r, sha, b, env, hr, hsha, hraw, hsum, henv, _⟩
      rcases hw.consistent.clean id e hd hf hz with ⟨r', b', hr', hraw', hcopy⟩
      rw [hr, Option.some.injEq] at hr'
      rw [← hr', hraw, Option.some.injEq] at hraw'
      have hsame : cached = b := (hcopy cached hfile).trans hraw'.symm
      rw [w.manifest.objectId_of_find id e hf] at henv
      rw [Manifest.content_remote _ _ _ _ e r hf hz hr, hraw, Option.getD_some,
        ← pad_decode _ b id e.generation env henv]
      exact eval_readObject_cached R dev id w hfree hd e hf hz r sha hr hsha cached env hfile
        (by rw [hsame, hsum]) (by rw [hsame, henv])
    · -- A blank object needs no file.
      refine ⟨w.store.cacheEntries, ?_⟩
      rw [Manifest.content_zero _ _ _ _ e hf hz]
      exact eval_readObject_blank R dev id w hfree hd e hf hz
  · -- The file of a row goes before what the manifest says.
    rcases (hw.rows id d hd).2 with ⟨b, hb⟩
    rcases hb.decodes with ⟨env, henv⟩
    rw [w.store.objectId_of_dirtyObject id d hd] at henv
    refine ⟨w.store.cacheEntries, ?_⟩
    rw [w.content_dirty raw _ _ d hd, hb.file, Option.getD_some,
      ← pad_decode _ b id d.generation env henv]
    exact eval_readObject_row R dev id w d b env hd hb.file hb.sha henv

/-- The rounds of a read over a stocked store. -/
theorem eval_readLoop_stocked (dev : BlockDevice) (hsize : 0 < dev.map.objectSize)
    (objects : Nat → Bytes) (hlen : ∀ id, (objects id).length = dev.map.objectSize)
    (rounds cursor left : Nat) (out : Bytes) (w : World ρ) (hw : Durable raw dev.map w)
    (hs : Stocked w) (hfree : w.locked = false)
    (hobjects : w.content raw dev.map.objectSize = objects) (hrounds : left ≤ rounds)
    (hin : cursor + left ≤ dev.map.deviceSize) :
    ((dev.readLoop rounds cursor left out).eval (deviceRun R) w).1
      = .ok (out ++ span (arrayOf dev.map.objectSize objects) cursor left, cursor + left) := by
  refine eval_readLoop_invariant R dev hsize _
    (fun _ _ w => Durable raw dev.map w ∧ Stocked w ∧ w.locked = false ∧
      w.content raw dev.map.objectSize = objects)
    (fun cursor left w hinv hin => ?_) rounds cursor left out w ⟨hw, hs, hfree, hobjects⟩
    hrounds hin
  rcases hinv with ⟨hw, hs, hfree, hobjects⟩
  have hdiv := Nat.div_add_mod cursor dev.map.objectSize
  rw [Nat.mul_comm] at hdiv
  rcases eval_readObject_stocked R dev w hw hs hfree hsize
    (cursor / dev.map.objectSize) (by omega) with ⟨t, hobject⟩
  rw [hobjects] at hobject
  exact ⟨_, _, hobject, fun take _ hobj => ⟨stretch_arrayOf _ objects cursor take (hlen _) hobj,
    hw.rowsOnly t, hs.rowsOnly t, hfree, hobjects⟩⟩

/-- A range of a stocked store is read, whatever the backend. -/
theorem eval_readAt_stocked (dev : BlockDevice) (hsize : 0 < dev.map.objectSize) (w : World ρ)
    (hw : Durable raw dev.map w) (hs : Stocked w) (hfree : w.locked = false) (offset len : Nat)
    (hin : offset + len ≤ dev.map.deviceSize) :
    ((dev.readAt offset len).eval (deviceRun R) w).1
      = .ok (span (w.array raw dev.map.objectSize) offset len) := by
  rw [eval_readAt R dev offset len w hin, eval_readLoop_stocked R dev hsize
    (w.content raw dev.map.objectSize) (fun id => w.length_content raw _ id) len offset len [] w
    hw hs hfree rfl (Nat.le_refl _) hin]
  rfl

/-- What storing an object as dirty leaves, when it succeeds. -/
theorem eval_writeDirtyObject (dev : BlockDevice) (w w1 : World ρ) (hw : Durable raw dev.map w)
    (id offset len : Nat) (object : Bytes) (u : Unit)
    (hid : id * dev.map.objectSize < dev.map.deviceSize)
    (h : (dev.writeDirtyObject id object offset len).eval (deviceRun R) w = (.ok u, w1)) :
    w1.locked = w.locked ∧ w.manifest.generation + 1 < 2 ^ 64 ∧
      Dirtied id (w.manifest.generation + 1)
        (dev.encodeDirty id (w.manifest.generation + 1) object) w w1 := by
  have hcons : Consistent raw w := hw.consistent
  have hpost := wp_deviceRun R _ _ _ w (wp_writeDirtyObject careful_quiet dev id offset len object
    w hcons hid)
  rw [h] at hpost
  exact ⟨hpost.locked, hpost.whole rfl⟩

/-- The rounds of a write over a stocked store, if they succeed. -/
theorem eval_writeLoop_stocked (dev : BlockDevice) (hsize : 0 < dev.map.objectSize)
    (rounds : Nat) :
    ∀ (cursor : Nat) (bytes : Bytes) (w w1 : World ρ) (u : Unit), Durable raw dev.map w →
      Stocked w → w.locked = false →
      (dev.writeLoop rounds cursor bytes).eval (deviceRun R) w = (.ok u, w1) →
      Durable raw dev.map w1 ∧ Stocked w1 ∧ w1.locked = false ∧ w1.manifest = w.manifest ∧
        (w1 = w ∨ w.manifest.generation + 1 < 2 ^ 64) := by
  induction rounds with
  | zero =>
      intro cursor bytes w w1 u hw hs hfree h
      cases bytes with
      | nil =>
          rw [← (Prod.mk.inj h).2]
          exact ⟨hw, hs, hfree, rfl, Or.inl rfl⟩
      | cons b bs => cases (Prod.mk.inj h).1
  | succ rounds ih =>
      intro cursor bytes w w1 u hw hs hfree h
      cases bytes with
      | nil =>
          rw [← (Prod.mk.inj h).2]
          exact ⟨hw, hs, hfree, rfl, Or.inl rfl⟩
      | cons b bs =>
          unfold BlockDevice.writeLoop at h
          rcases hloc : dev.map.locate cursor with msg | ⟨id, o⟩
          · rw [hloc, Prog.eval_bind_error _ _ _ w w msg rfl] at h
            cases (Prod.mk.inj h).1
          · rcases locate_ok dev.map cursor id o hloc with ⟨hcur, ho, hlt⟩
            have hid : id * dev.map.objectSize < dev.map.deviceSize := by omega
            rw [hloc, Prog.eval_bind_ok _ _ _ w w _ rfl] at h
            simp only [] at h
            generalize htake : min (bs.length + 1) (dev.map.objectSize - o) = take at h
            -- A whole object is not read before it is written.
            have hobject : ∃ object t, (dev.writeDirtyObject id
                (BlockDevice.overwrite object o ((b :: bs).take take)) o take >>= fun _ =>
                  dev.writeLoop rounds (cursor + take) ((b :: bs).drop take)).eval (deviceRun R)
                (w.withRows t) = (.ok u, w1) := by
              by_cases hfull : o = 0 ∧ take = dev.map.objectSize
              · rw [if_pos hfull] at h
                exact ⟨List.replicate dev.map.objectSize 0, w.store.cacheEntries, h⟩
              · rw [if_neg hfull] at h
                rcases eval_readObject_stocked R dev w hw hs hfree hsize id hid with ⟨t, ht⟩
                rw [Prog.eval_bind_ok _ _ _ _ _ _ ht] at h
                exact ⟨_, t, h⟩
            rcases hobject with ⟨object, t, hobject⟩
            rcases hstep : (dev.writeDirtyObject id (BlockDevice.overwrite object o
              ((b :: bs).take take)) o take).eval (deviceRun R) (w.withRows t) with ⟨r, w2⟩
            cases r with
            | error msg =>
                rw [Prog.eval_bind_error _ _ _ _ _ _ hstep] at hobject
                cases (Prod.mk.inj hobject).1
            | ok u' =>
                rw [Prog.eval_bind_ok _ _ _ _ _ _ hstep] at hobject
                rcases eval_writeDirtyObject R dev _ w2 (hw.rowsOnly t) id o take _ u' hid hstep with
                  ⟨hlock, hgen, hdirty⟩
                rcases ih _ _ w2 w1 u ((hw.rowsOnly t).dirtied dev hsize id _ hid hgen hdirty)
                  ((hs.rowsOnly t).dirtied hdirty) (hlock.trans hfree) hobject with
                  ⟨hw1, hs1, hfree1, hm1, _⟩
                exact ⟨hw1, hs1, hfree1, hm1.trans hdirty.manifest, Or.inr hgen⟩

/-- A write over a stocked store that succeeds. -/
theorem eval_writeAt_stocked (dev : BlockDevice) (hsize : 0 < dev.map.objectSize)
    (offset : Nat) (bytes : Bytes) (w w1 : World ρ) (u : Unit) (hw : Durable raw dev.map w)
    (hs : Stocked w) (hfree : w.locked = false)
    (h : (dev.writeAt offset bytes).eval (deviceRun R) w = (.ok u, w1)) :
    Durable raw dev.map w1 ∧ Stocked w1 ∧ w1.locked = false ∧ w1.manifest = w.manifest ∧
      (w1 = w ∨ w.manifest.generation + 1 < 2 ^ 64) := by
  unfold BlockDevice.writeAt at h
  rcases hstop : checkedAdd offset bytes.length with msg | stop
  · rw [hstop, Prog.eval_bind_error _ _ _ w w msg rfl] at h
    cases (Prod.mk.inj h).1
  · rw [hstop, Prog.eval_bind_ok _ _ _ w w stop rfl] at h
    by_cases hin : stop ≤ dev.map.deviceSize
    · rw [decide_eq_true hin, Prog.eval_bind_ok _ _ _ w w () rfl] at h
      exact eval_writeLoop_stocked R dev hsize _ _ _ w w1 u hw hs hfree h
    · rw [decide_eq_false hin, Prog.eval_bind_error _ _ _ w w _ rfl] at h
      cases (Prod.mk.inj h).1

/-- One byte is written over a blank store, and dirties its object alone. -/
theorem eval_writeAt_byte (dev : BlockDevice) (hsize : 0 < dev.map.objectSize) (w : World ρ)
    (hw : Durable raw dev.map w) (hs : Stocked w) (hfree : w.locked = false)
    (hroom : w.store.dirtyCount < dev.maxDirtyObjects) (hgen : w.manifest.generation + 1 < 2 ^ 64)
    (p : Nat) (b : UInt8) (hin : p < dev.map.deviceSize) :
    ∃ t w1 encoded, (dev.writeAt p [b]).eval (deviceRun R) w = (.ok (), w1) ∧
      Dirtied (p / dev.map.objectSize) (w.manifest.generation + 1) encoded (w.withRows t) w1 := by
  have hlt := dev.map.deviceSize_lt
  have hmod := Nat.mod_lt p hsize
  have hdiv := Nat.div_add_mod p dev.map.objectSize
  rw [Nat.mul_comm] at hdiv
  have hid : p / dev.map.objectSize * dev.map.objectSize < dev.map.deviceSize := by omega
  have htake : min (([] : Bytes).length + 1) (dev.map.objectSize - p % dev.map.objectSize) = 1 := by
    change min 1 _ = 1
    omega
  -- Whether or not the object is read first, it is stored as dirty.
  have hdirty : ∀ object t, ∃ w1 encoded, (dev.writeDirtyObject (p / dev.map.objectSize) object
      (p % dev.map.objectSize) 1).eval (deviceRun R) (w.withRows t) = (.ok (), w1) ∧
      Dirtied (p / dev.map.objectSize) (w.manifest.generation + 1) encoded (w.withRows t) w1 := by
    intro object t
    have hcons : Consistent raw (w.withRows t) := (hw.rowsOnly t).consistent
    have hpost := wp_deviceRun R _ _ _ (w.withRows t) (wp_writeDirtyObject careful_quiet dev
      (p / dev.map.objectSize) (p % dev.map.objectSize) 1 object _ hcons hid)
    rcases hstep : (dev.writeDirtyObject (p / dev.map.objectSize) object
      (p % dev.map.objectSize) 1).eval (deviceRun R) (w.withRows t) with ⟨r, w1⟩
    rw [hstep] at hpost
    cases r with
    | error msg => exact absurd hgen (hpost.answers msg rfl (fun _ _ _ h => h) hfree hroom)
    | ok u => exact ⟨w1, _, hstep, (hpost.whole rfl).2⟩
  unfold BlockDevice.writeAt
  rw [checkedAdd, if_pos (by change p + 1 < _; omega), Prog.eval_bind_ok _ _ _ w w _ rfl,
    decide_eq_true (by change p + 1 ≤ _; omega), Prog.eval_bind_ok _ _ _ w w () rfl]
  change ∃ t w1 encoded, (dev.writeLoop (0 + 1) p (b :: [])).eval (deviceRun R) w = _ ∧ _
  unfold BlockDevice.writeLoop
  rw [locate_inside dev.map p hsize hin, Prog.eval_bind_ok _ _ _ w w _ rfl]
  simp only [htake]
  by_cases hfull : p % dev.map.objectSize = 0 ∧ 1 = dev.map.objectSize
  · rw [if_pos hfull]
    rcases hdirty (BlockDevice.overwrite (List.replicate dev.map.objectSize 0)
      (p % dev.map.objectSize) ([b].take 1)) w.store.cacheEntries with ⟨w1, encoded, hrun, hd⟩
    refine ⟨w.store.cacheEntries, w1, encoded, ?_, hd⟩
    exact Prog.eval_bind_ok _ _ _ _ _ _ hrun
  · rw [if_neg hfull]
    rcases eval_readObject_stocked R dev w hw hs hfree hsize _ hid with ⟨t, ht⟩
    rcases hdirty (BlockDevice.overwrite (w.content raw dev.map.objectSize (p / dev.map.objectSize))
      (p % dev.map.objectSize) ([b].take 1)) t with ⟨w1, encoded, hrun, hd⟩
    refine ⟨t, w1, encoded, ?_, hd⟩
    rw [Prog.eval_bind_ok _ _ _ _ _ _ ht]
    exact Prog.eval_bind_ok _ _ _ _ _ _ hrun

/-- Writes over a stocked store that all succeed. -/
theorem writeAll_stocked (dev : BlockDevice) (hsize : 0 < dev.map.objectSize)
    (writes : List (Nat × Bytes)) :
    ∀ (w w1 : World ρ), Durable raw dev.map w → Stocked w → w.locked = false →
      writeAll R dev writes w = .ok w1 →
      Durable raw dev.map w1 ∧ w1.locked = false ∧ w1.manifest = w.manifest ∧
        (w1 = w ∨ w.manifest.generation + 1 < 2 ^ 64) := by
  induction writes with
  | nil =>
      intro w w1 hw hs hfree h
      rw [← Except.ok.inj h]
      exact ⟨hw, hfree, rfl, Or.inl rfl⟩
  | cons p rest ih =>
      intro w w1 hw hs hfree h
      rcases p with ⟨offset, bytes⟩
      rw [writeAll] at h
      rcases hrun : (dev.writeAt offset bytes).eval (deviceRun R) w with ⟨r, w'⟩
      rw [hrun] at h
      cases r with
      | error msg => cases h
      | ok u =>
          rcases eval_writeAt_stocked R dev hsize offset bytes w w' u hw hs hfree hrun with
            ⟨hw', hs', hfree', hm', hgen⟩
          rcases ih w' w1 hw' hs' hfree' h with ⟨hw1, hfree1, hm1, hgen1⟩
          refine ⟨hw1, hfree1, hm1.trans hm', ?_⟩
          rw [hm'] at hgen1
          rcases hgen1 with hsame | hgen1
          · rw [hsame]
            exact hgen
          · exact Or.inr hgen1

/-- What was written over a stocked store can be flushed, to any backend that
    takes it. -/
theorem flushes_stocked (dev : BlockDevice)
    (hwilling : Willing (Env.ofRun (S := remoteSig) R) dev) (hsize : 0 < dev.map.objectSize)
    (writes : List (Nat × Bytes)) (w w1 : World ρ) (hw : Durable raw dev.map w)
    (hs : Stocked w) (hfree : w.locked = false) (hrows : w.store.dirtyRows = [])
    (h : writeAll R dev writes w = .ok w1) : (dev.flush.eval (deviceRun R) w1).1 = .ok () := by
  rcases writeAll_stocked R dev hsize writes w w1 hw hs hfree h with ⟨hw1, hfree1, hm1, hgen⟩
  rcases hgen with hsame | hgen
  · rw [hsame, idle_of_dirtyRows R dev w hrows]
  · exact hw1.flushes R dev hwilling hsize hfree1 (by rw [hm1]; exact hgen)

end Eval

end Crates

end TgDrive
