import TgDrive.Cli.Stocked
import TgDrive.Core.Concurrent
import Mathlib.Data.Finset.Card
import Mathlib.Data.Finset.Image

/-!
# The Limit on Dirty Objects

Which writes a device accepts when nothing is wrong with it. The only check
left is the one against the limit: before it stores an object, a write counts
the dirty objects, and it gives up if the limit is reached. The object at hand
is not looked at, so a full device refuses to write even an object that is
dirty already.

A write stores its objects in order and counts before each of them. So it is
accepted when the objects that are dirty, together with those it touches
before its last one, are fewer than the limit. A write that is refused is not
undone: the objects up to the one that found the limit reached are stored.

## Main definitions

* `LocalStore.dirtyIds`: The ids of the dirty objects.
* `objectsOf`: The objects that a range touches.
* `Stocktaking`: What a write to a working device leaves.

## Theorems

* `card_dirtyIds`: They are as many as the count says.
* `eval_writeDirtyObject_full`: A full device stores nothing.
* `eval_writeLoop_limit`: The rounds of a write, up to the limit.
* `write_accepted_iff`: Which writes are accepted, and what they leave.
-/

namespace TgDrive

open Data Effect

namespace LocalStore

/-- The ids of the dirty objects. -/
def dirtyIds (s : LocalStore) : Finset Nat :=
  (s.dirtyObjects.rows.map DirtyObject.objectId).toFinset

theorem mem_dirtyIds (s : LocalStore) (id : Nat) :
    id ∈ s.dirtyIds ↔ s.dirtyObject id ≠ none := by
  rw [dirtyIds, List.mem_toFinset, List.mem_map, dirtyObject, ne_eq, Table.get?_eq_none_iff]
  constructor
  · rintro ⟨d, hd, hid⟩ hnone
    exact hnone d hd hid
  · intro h
    by_contra hnone
    exact h fun d hd hid => hnone ⟨d, hd, hid⟩

/-- There are as many as the database counts. -/
theorem card_dirtyIds (s : LocalStore) : s.dirtyIds.card = s.dirtyCount := by
  rw [dirtyIds, List.toFinset_card_of_nodup s.dirtyObjects.nodup, List.length_map, dirtyCount]

/-- No row is there exactly if no object is dirty. -/
theorem dirtyIds_eq_empty (s : LocalStore) : s.dirtyIds = ∅ ↔ s.dirtyRows = [] := by
  rw [dirtyRows_eq_nil, Finset.eq_empty_iff_forall_notMem]
  refine forall_congr' fun id => ?_
  rw [mem_dirtyIds, not_not]

end LocalStore

/-- The objects that a range touches. -/
def objectsOf (objectSize cursor len : Nat) : Finset Nat :=
  (Finset.range len).image (fun i => (cursor + i) / objectSize)

theorem objectsOf_zero (objectSize cursor : Nat) : objectsOf objectSize cursor 0 = ∅ := rfl

theorem mem_objectsOf (objectSize cursor len id : Nat) :
    id ∈ objectsOf objectSize cursor len ↔ ∃ i, i < len ∧ (cursor + i) / objectSize = id := by
  simp only [objectsOf, Finset.mem_image, Finset.mem_range]

/-- Two adjacent ranges touch what both touch. -/
theorem objectsOf_add (objectSize cursor m n : Nat) :
    objectsOf objectSize cursor (m + n)
      = objectsOf objectSize cursor m ∪ objectsOf objectSize (cursor + m) n := by
  ext id
  rw [Finset.mem_union, mem_objectsOf, mem_objectsOf, mem_objectsOf]
  constructor
  · rintro ⟨i, hi, hid⟩
    by_cases hm : i < m
    · exact Or.inl ⟨i, hm, hid⟩
    · refine Or.inr ⟨i - m, by omega, ?_⟩
      rw [← hid]
      congr 1
      omega
  · rintro (⟨i, hi, hid⟩ | ⟨i, hi, hid⟩)
    · exact ⟨i, by omega, hid⟩
    · refine ⟨m + i, by omega, ?_⟩
      rw [← hid]
      congr 1
      omega

/-- A range inside one object touches that object. -/
theorem objectsOf_within (objectSize id o len : Nat) (hlen : 0 < len)
    (hfit : o + len ≤ objectSize) : objectsOf objectSize (id * objectSize + o) len = {id} := by
  have hdiv : ∀ i, i < len → (id * objectSize + o + i) / objectSize = id := by
    intro i hi
    rw [Nat.add_assoc, Nat.add_comm, Nat.mul_comm, Nat.add_mul_div_left _ _ (by omega),
      Nat.div_eq_of_lt (by omega), Nat.zero_add]
  ext i
  rw [mem_objectsOf, Finset.mem_singleton]
  constructor
  · rintro ⟨k, hk, rfl⟩
    exact hdiv k hk
  · rintro rfl
    exact ⟨0, hlen, hdiv 0 hlen⟩

section Crates

variable {ρ : Type} [Crates] {raw : ρ → Int → Option Bytes}

theorem dirtyIds_dirtied {id gen : Nat} {encoded : Bytes} {w w' : World ρ}
    (h : Dirtied id gen encoded w w') :
    w'.store.dirtyIds = insert id w.store.dirtyIds := by
  ext i
  rw [Finset.mem_insert, LocalStore.mem_dirtyIds, LocalStore.mem_dirtyIds, h.rows]
  by_cases hi : i = id
  · simp only [hi, if_true, ne_eq, reduceCtorEq, not_false_eq_true, true_or]
  · simp only [hi, if_false, false_or]

omit [Crates] in
theorem dirtyIds_fill {B : Backend ρ} {w w' : World ρ} (h : CacheFill B raw w w') :
    w'.store.dirtyIds = w.store.dirtyIds := by
  rw [LocalStore.dirtyIds, LocalStore.dirtyIds, h.rows]

/-- What a device refuses with when it holds as many dirty objects as it may. -/
def limitReached : String := "dirty object backpressure limit reached"

/-- A write of `n` bytes that were stored: they are in the array, and the
    objects they touch are dirty. -/
structure Stocktaking (raw : ρ → Int → Option Bytes) (dev : BlockDevice) (w : World ρ)
    (a : Nat → UInt8) (cursor : Nat) (bytes : Bytes) (w' : World ρ) : Prop where
  durable : Durable raw dev.map w'
  free : w'.locked = false
  manifest : w'.manifest = w.manifest
  shows : Shows raw dev.map.objectSize w' (splice a cursor bytes)
  dirty : w'.store.dirtyIds
    = w.store.dirtyIds ∪ objectsOf dev.map.objectSize cursor bytes.length

/-- There is room for a write: the dirty objects, with those it touches before
    its last one, are fewer than the limit. -/
def BlockDevice.Room (dev : BlockDevice) (w : World ρ) (cursor len : Nat) : Prop :=
  (w.store.dirtyIds ∪ (objectsOf dev.map.objectSize cursor len).erase
    ((cursor + len - 1) / dev.map.objectSize)).card < dev.maxDirtyObjects

/-- How a write to a working device ends: it is stored, or it finds the limit
    reached at the edge of an object, and what it stored before stays. -/
inductive Limited (raw : ρ → Int → Option Bytes) (dev : BlockDevice) (w : World ρ)
    (a : Nat → UInt8) (cursor : Nat) (bytes : Bytes) : Except String Unit × World ρ → Prop
  | stored (w' : World ρ) (hroom : bytes ≠ [] → dev.Room w cursor bytes.length)
      (h : Stocktaking raw dev w a cursor bytes w') :
      Limited raw dev w a cursor bytes (.ok (), w')
  | refused (w' : World ρ) (n : Nat) (hn : n < bytes.length)
      (hroom : ¬dev.Room w cursor bytes.length)
      (hfull : ¬w'.store.dirtyIds.card < dev.maxDirtyObjects)
      (hedge : n = 0 ∨ dev.map.objectSize ∣ cursor + n)
      (h : Stocktaking raw dev w a cursor (bytes.take n) w') :
      Limited raw dev w a cursor bytes (.error limitReached, w')

/-- Nothing was written yet. -/
theorem Stocktaking.nothing (dev : BlockDevice) (w : World ρ) (a : Nat → UInt8) (cursor : Nat)
    (hw : Durable raw dev.map w) (hfree : w.locked = false)
    (ha : Shows raw dev.map.objectSize w a) : Stocktaking raw dev w a cursor [] w where
  durable := hw
  free := hfree
  manifest := rfl
  shows := by
    rw [splice_nil]
    exact ha
  dirty := by
    rw [List.length_nil, objectsOf_zero, Finset.union_empty]

/-- Bytes written after others. -/
theorem Stocktaking.append (dev : BlockDevice) (w w2 w' : World ρ) (a : Nat → UInt8)
    (cursor : Nat) (chunk rest : Bytes) (h : Stocktaking raw dev w a cursor chunk w2)
    (h' : Stocktaking raw dev w2 (splice a cursor chunk) (cursor + chunk.length) rest w') :
    Stocktaking raw dev w a cursor (chunk ++ rest) w' where
  durable := h'.durable
  free := h'.free
  manifest := h'.manifest.trans h.manifest
  shows := by
    rw [← splice_append]
    exact h'.shows
  dirty := by
    rw [h'.dirty, h.dirty, List.length_append, objectsOf_add, Finset.union_assoc]

omit [Crates] in
/-- There is room for a write if there is for the object in hand, and then for
    the rest. -/
theorem room_append (dev : BlockDevice) (w w2 : World ρ) (id o cursor : Nat)
    (chunk rest : Bytes) (hcur : cursor = id * dev.map.objectSize + o) (hlen : 0 < chunk.length)
    (hfit : o + chunk.length ≤ dev.map.objectSize)
    (hedge : rest ≠ [] → o + chunk.length = dev.map.objectSize)
    (hids : w2.store.dirtyIds = insert id w.store.dirtyIds) :
    dev.Room w cursor (chunk ++ rest).length ↔ w.store.dirtyIds.card < dev.maxDirtyObjects ∧
      (rest ≠ [] → dev.Room w2 (cursor + chunk.length) rest.length) := by
  have hfirst : objectsOf dev.map.objectSize cursor chunk.length = {id} := by
    rw [hcur]
    exact objectsOf_within _ id o _ hlen hfit
  unfold BlockDevice.Room
  by_cases hnil : rest = []
  · -- The object in hand is the last.
    have hlast : (cursor + chunk.length - 1) / dev.map.objectSize = id := by
      have hmem : (cursor + chunk.length - 1) / dev.map.objectSize
          ∈ objectsOf dev.map.objectSize cursor chunk.length := by
        refine (mem_objectsOf _ _ _ _).mpr ⟨chunk.length - 1, by omega, ?_⟩
        congr 1
        omega
      rwa [hfirst, Finset.mem_singleton] at hmem
    rw [hnil, List.append_nil, hfirst, hlast, Finset.erase_singleton, Finset.union_empty]
    exact ⟨fun h => ⟨h, fun hne => absurd rfl hne⟩, fun h => h.1⟩
  · have hpos := List.length_pos_iff.mpr hnil
    have hend := hedge hnil
    have hlater : id + 1 ≤ (cursor + chunk.length + rest.length - 1) / dev.map.objectSize := by
      rw [Nat.le_div_iff_mul_le (by omega), Nat.succ_mul]
      omega
    rw [List.length_append, objectsOf_add, hfirst, ← Nat.add_assoc, hids]
    generalize (cursor + chunk.length + rest.length - 1) / dev.map.objectSize = last at hlater
    have herase : w.store.dirtyIds ∪ ({id} ∪ objectsOf dev.map.objectSize
          (cursor + chunk.length) rest.length).erase last
        = insert id w.store.dirtyIds ∪ (objectsOf dev.map.objectSize
          (cursor + chunk.length) rest.length).erase last := by
      ext i
      simp only [Finset.mem_union, Finset.mem_erase, Finset.mem_singleton, Finset.mem_insert]
      by_cases hi : i = id
      · rw [hi]
        simp only [true_or, and_true, iff_true]
        exact Or.inr (by omega)
      · simp only [hi, false_or]
    rw [herase]
    refine ⟨fun h => ⟨?_, fun _ => h⟩, fun h => h.2 hnil⟩
    refine Nat.lt_of_le_of_lt (Finset.card_le_card ?_) h
    exact (Finset.subset_insert id _).trans Finset.subset_union_left

section Eval

variable (R : (c : Call) → ρ → Except String c.Resp × ρ)

/-- A full device stores nothing. -/
theorem eval_writeDirtyObject_full (dev : BlockDevice) (w : World ρ) (id offset len : Nat)
    (object : Bytes) (hfull : ¬w.store.dirtyIds.card < dev.maxDirtyObjects) :
    (dev.writeDirtyObject id object offset len).eval (deviceRun R) w
      = (.error limitReached, w) := by
  rw [LocalStore.card_dirtyIds] at hfull
  unfold BlockDevice.writeDirtyObject
  rw [Prog.eval_bind_ok _ _ _ w w w.store.dirtyCount rfl, decide_eq_false hfull]
  rfl

/-- Storing an object while there is room, after the last generation. -/
theorem eval_writeDirtyObject_last (dev : BlockDevice) (w : World ρ) (id offset len : Nat)
    (object : Bytes) (hfree : w.locked = false)
    (hroom : w.store.dirtyIds.card < dev.maxDirtyObjects) (msg : String)
    (hgen : checkedAdd w.manifest.generation 1 = .error msg) :
    (dev.writeDirtyObject id object offset len).eval (deviceRun R) w = (.error msg, w) := by
  rw [LocalStore.card_dirtyIds] at hroom
  have hpeek : (disk .peekManifest).eval (deviceRun R) w = (.ok w.manifest, w) := by
    refine eval_disk_ok R .peekManifest w w.manifest ?_
    rw [LocalOp.answer, hfree, if_neg Bool.false_ne_true]
  unfold BlockDevice.writeDirtyObject
  rw [Prog.eval_bind_ok _ _ _ w w w.store.dirtyCount rfl, decide_eq_true hroom,
    Prog.eval_bind_ok _ _ _ w w () rfl, Prog.eval_bind_ok _ _ _ _ _ _ hpeek, hgen]
  rfl

/-- Storing an object while there is room. -/
theorem eval_writeDirtyObject_room (dev : BlockDevice) (w : World ρ) (hfree : w.locked = false)
    (id offset len : Nat) (object : Bytes)
    (hroom : w.store.dirtyIds.card < dev.maxDirtyObjects)
    (hgen : w.manifest.generation + 1 < 2 ^ 64) :
    ∃ w1, (dev.writeDirtyObject id object offset len).eval (deviceRun R) w = (.ok (), w1) ∧
      w1.locked = false ∧ Dirtied id (w.manifest.generation + 1)
        (dev.encodeDirty id (w.manifest.generation + 1) object) w w1 := by
  rw [LocalStore.card_dirtyIds] at hroom
  have hpeek : (disk .peekManifest).eval (deviceRun R) w = (.ok w.manifest, w) := by
    refine eval_disk_ok R .peekManifest w w.manifest ?_
    rw [LocalOp.answer, hfree, if_neg Bool.false_ne_true]
  have hnext : checkedAdd w.manifest.generation 1 = .ok (w.manifest.generation + 1) := by
    rw [checkedAdd, if_pos hgen]
  have hstored := applyAll_storeDirty w id (w.manifest.generation + 1)
    (dev.encodeDirty id (w.manifest.generation + 1) object) offset len
  unfold BlockDevice.writeDirtyObject
  rw [Prog.eval_bind_ok _ _ _ w w w.store.dirtyCount rfl, decide_eq_true hroom,
    Prog.eval_bind_ok _ _ _ w w () rfl, Prog.eval_bind_ok _ _ _ _ _ _ hpeek, hnext,
    Prog.eval_bind_ok _ _ _ w w _ rfl]
  exact ⟨_, eval_disk_ok R (.storeDirty id (w.manifest.generation + 1) _ offset len) w () rfl,
    hstored.locked.trans hfree, hstored⟩

/-- A round of a write finds the object in hand, and has it with the bytes of
    the round in it. What the read of the object keeps is kept. -/
theorem eval_writeLoop_round (dev : BlockDevice) (hsize : 0 < dev.map.objectSize)
    (rounds cursor : Nat) (b : UInt8) (bs : Bytes) (w : World ρ) (a : Nat → UInt8)
    (hin : cursor + (bs.length + 1) ≤ dev.map.deviceSize) (id o take : Nat)
    (hid : id = cursor / dev.map.objectSize) (ho : o = cursor % dev.map.objectSize)
    (htake : take = min (bs.length + 1) (dev.map.objectSize - o)) (Q : World ρ → Prop) (hw : Q w)
    (hread : ∃ w1, (dev.readObject id).eval (deviceRun R) w
      = (.ok (span a (id * dev.map.objectSize) dev.map.objectSize), w1) ∧ Q w1) :
    ∃ object w1, Q w1 ∧
      BlockDevice.overwrite object o ((b :: bs).take take) =
        span (splice a (id * dev.map.objectSize + o) ((b :: bs).take take))
          (id * dev.map.objectSize) dev.map.objectSize ∧
      (dev.writeLoop (rounds + 1) cursor (b :: bs)).eval (deviceRun R) w =
        (dev.writeDirtyObject id (BlockDevice.overwrite object o ((b :: bs).take take)) o take >>=
          fun _ => dev.writeLoop rounds (cursor + take) ((b :: bs).drop take)).eval (deviceRun R)
          w1 := by
  have hmod := Nat.mod_lt cursor hsize
  rw [BlockDevice.writeLoop, locate_inside dev.map cursor hsize (by omega), ← hid, ← ho,
    Prog.eval_bind_ok _ _ _ w w (id, o) rfl]
  rw [← ho] at hmod
  simp only [← htake]
  have hlen : ((b :: bs).take take).length = take := by
    rw [List.length_take, List.length_cons]
    omega
  have hfit : o + ((b :: bs).take take).length ≤ dev.map.objectSize := by omega
  by_cases hfull : o = 0 ∧ take = dev.map.objectSize
  · rw [if_pos hfull]
    -- The whole object is covered, so it is not read.
    refine ⟨List.replicate dev.map.objectSize 0, w, hw, ?_, rfl⟩
    rw [span_splice_within _ _ _ o _ hfit, hfull.1, BlockDevice.overwrite,
      List.take_zero, List.take_zero, List.drop_of_length_le, List.drop_of_length_le]
    · rw [length_span, hlen]
      omega
    · rw [List.length_replicate, hlen]
      omega
  · rw [if_neg hfull]
    rcases hread with ⟨w1, heval, hw1⟩
    rw [Prog.eval_bind_ok _ _ _ _ _ _ heval]
    refine ⟨_, w1, hw1, ?_, rfl⟩
    rw [span_splice_within _ _ _ o _ hfit]
    rfl

variable (hR : Returns (Env.ofRun (S := remoteSig) R) raw)

include hR

/-- The chunk in hand, stored. -/
theorem Stocktaking.chunk (dev : BlockDevice) (hsize : 0 < dev.map.objectSize) (w w1 w2 : World ρ)
    (a : Nat → UInt8) (id o : Nat) (chunk object : Bytes) (hw : Durable raw dev.map w)
    (ha : Shows raw dev.map.objectSize w a) (hlen : 0 < chunk.length)
    (hfit : o + chunk.length ≤ dev.map.objectSize)
    (hid : id * dev.map.objectSize < dev.map.deviceSize)
    (hgen : w.manifest.generation + 1 < 2 ^ 64)
    (hfill : CacheFill (Env.ofRun (S := remoteSig) R) raw w w1) (hfree : w2.locked = false)
    (hobject : BlockDevice.overwrite object o chunk =
      span (splice a (id * dev.map.objectSize + o) chunk) (id * dev.map.objectSize)
        dev.map.objectSize)
    (hdirty : Dirtied id (w1.manifest.generation + 1)
      (dev.encodeDirty id (w1.manifest.generation + 1) (BlockDevice.overwrite object o chunk))
      w1 w2) :
    Stocktaking raw dev w a (id * dev.map.objectSize + o) chunk w2 := by
  have hw1 := hw.fill hR hfill
  have hgen1 : w1.manifest.generation + 1 < 2 ^ 64 := by
    rw [hfill.manifest]
    exact hgen
  refine ⟨hw1.dirtied dev hsize id _ hid hgen1 hdirty, hfree,
    hdirty.manifest.trans hfill.manifest, ?_, ?_⟩
  · refine shows_overwritten _ id o w1 a object chunk w2
      (CacheFill.shows hR _ w w1 hfill hw.consistent a ha) hfit hobject fun i => ?_
    rw [hdirty.content hw1.consistent, objectOf_encodeDirty]
  · rw [dirtyIds_dirtied hdirty, dirtyIds_fill hfill, objectsOf_within _ id o _ hlen hfit,
      Finset.insert_eq, Finset.union_comm]

/-- One round of a write: the object in hand is stored, or the limit is
    reached and nothing of the rest is. -/
theorem eval_writeRound_limit (dev : BlockDevice) (hsize : 0 < dev.map.objectSize)
    (rounds id o cursor : Nat) (chunk rest : Bytes) (w : World ρ) (a : Nat → UInt8)
    (hw : Durable raw dev.map w) (hgen : w.manifest.generation + 1 < 2 ^ 64)
    (ha : Shows raw dev.map.objectSize w a) (hid : id * dev.map.objectSize < dev.map.deviceSize)
    (hcur : cursor = id * dev.map.objectSize + o) (hlen : 0 < chunk.length)
    (hfit : o + chunk.length ≤ dev.map.objectSize)
    (hedge : rest ≠ [] → o + chunk.length = dev.map.objectSize)
    (hrest : ∀ w2, Durable raw dev.map w2 → w2.locked = false →
      w2.manifest.generation + 1 < 2 ^ 64 →
      Shows raw dev.map.objectSize w2 (splice a cursor chunk) →
      Limited raw dev w2 (splice a cursor chunk) (cursor + chunk.length) rest
        ((dev.writeLoop rounds (cursor + chunk.length) rest).eval (deviceRun R) w2))
    (object : Bytes) (w1 : World ρ) (hfree1 : w1.locked = false)
    (hfill : CacheFill (Env.ofRun (S := remoteSig) R) raw w w1)
    (hobject : BlockDevice.overwrite object o chunk =
      span (splice a (id * dev.map.objectSize + o) chunk) (id * dev.map.objectSize)
        dev.map.objectSize) :
    Limited raw dev w a cursor (chunk ++ rest)
      ((dev.writeDirtyObject id (BlockDevice.overwrite object o chunk) o chunk.length >>= fun _ =>
        dev.writeLoop rounds (cursor + chunk.length) rest).eval (deviceRun R) w1) := by
  have hw1 := hw.fill hR hfill
  have hids1 := dirtyIds_fill hfill
  by_cases hroom : w1.store.dirtyIds.card < dev.maxDirtyObjects
  · rcases eval_writeDirtyObject_room R dev w1 hfree1 id o chunk.length
      (BlockDevice.overwrite object o chunk) hroom (by rw [hfill.manifest]; exact hgen) with
      ⟨w2, heval, hfree2, hdirty⟩
    have hst := Stocktaking.chunk R hR dev hsize w w1 w2 a id o chunk object hw ha hlen hfit hid
      hgen hfill hfree2 hobject hdirty
    rw [← hcur] at hst
    rw [Prog.eval_bind_ok _ _ _ _ _ _ heval]
    have hiff := room_append dev w w2 id o cursor chunk rest hcur hlen hfit hedge
      (by rw [dirtyIds_dirtied hdirty, hids1])
    have hlater := hrest w2 hst.durable hst.free (by rw [hst.manifest]; exact hgen) hst.shows
    generalize (dev.writeLoop rounds (cursor + chunk.length) rest).eval (deviceRun R) w2 = res
      at hlater
    cases hlater with
    | stored w' hrest' h =>
        refine .stored w' (fun _ => hiff.mpr ⟨by rwa [← hids1], hrest'⟩) ?_
        exact hst.append dev w w2 w' a cursor chunk rest h
    | refused w' n hn hnoroom hfull hedge' h =>
        refine .refused w' (chunk.length + n) ?_ (fun hr => ?_) hfull (Or.inr ?_) ?_
        · rw [List.length_append]
          omega
        · exact hnoroom ((hiff.mp hr).2 (List.length_pos_iff.mp (by omega)))
        · rcases hedge' with hzero | hdvd
          · refine ⟨id + 1, ?_⟩
            have hend := hedge (List.length_pos_iff.mp (by omega))
            rw [Nat.mul_comm, Nat.succ_mul]
            omega
          · rwa [Nat.add_assoc] at hdvd
        · rw [List.take_append, List.take_of_length_le (by omega), Nat.add_sub_cancel_left]
          exact hst.append dev w w2 w' a cursor chunk _ h
  · rw [Prog.eval_bind_error _ _ _ _ _ _ (eval_writeDirtyObject_full R dev w1 id o chunk.length
      (BlockDevice.overwrite object o chunk) hroom)]
    refine .refused w1 0 ?_ (fun hr => hroom ?_) hroom (Or.inl rfl) ?_
    · rw [List.length_append]
      omega
    · rw [hids1]
      exact Nat.lt_of_le_of_lt (Finset.card_le_card Finset.subset_union_left) hr
    · rw [List.take_zero]
      have hst := Stocktaking.nothing dev w1 a cursor hw1 hfree1
        (CacheFill.shows hR _ w w1 hfill hw.consistent a ha)
      exact { hst with
        manifest := hfill.manifest
        dirty := by
          rw [hst.dirty, hids1] }

variable (hserves : Serves (Env.ofRun (S := remoteSig) R) raw)

include hserves

/-- An object of a working device is read. -/
theorem eval_readObject_serves (dev : BlockDevice) (hsize : 0 < dev.map.objectSize) (w : World ρ)
    (hw : Durable raw dev.map w) (hfree : w.locked = false) (id : Nat)
    (hid : id * dev.map.objectSize < dev.map.deviceSize) :
    ∃ w1, (dev.readObject id).eval (deviceRun R) w
        = (.ok (w.content raw dev.map.objectSize id), w1) ∧
      w1.locked = false ∧ CacheFill (Env.ofRun (S := remoteSig) R) raw w w1 := by
  have hpost := wp_deviceRun R _ _ _ w (wp_readObject hR dev id w hw.consistent)
  generalize (dev.readObject id).eval (deviceRun R) w = res at hpost ⊢
  rcases res with ⟨r, w1⟩
  rcases r with msg | b
  · exact absurd (hw.readable hsize id hid)
      (hpost.answers msg rfl ⟨fun _ _ _ hf => hf, hserves⟩ hfree)
  · rw [← hpost.answer b rfl]
    exact ⟨w1, rfl, hpost.locked.trans hfree, hpost.fill⟩

/-- The rounds of a write to a working device. -/
theorem eval_writeLoop_limit (dev : BlockDevice) (hsize : 0 < dev.map.objectSize) (rounds : Nat) :
    ∀ (cursor : Nat) (bytes : Bytes) (w : World ρ) (a : Nat → UInt8), bytes.length ≤ rounds →
      cursor + bytes.length ≤ dev.map.deviceSize → Durable raw dev.map w → w.locked = false →
      w.manifest.generation + 1 < 2 ^ 64 → Shows raw dev.map.objectSize w a →
      Limited raw dev w a cursor bytes
        ((dev.writeLoop rounds cursor bytes).eval (deviceRun R) w) := by
  induction rounds with
  | zero =>
      intro cursor bytes w a hrounds hin hw hfree hgen ha
      rw [List.length_eq_zero_iff.mp (Nat.le_zero.mp hrounds)]
      exact .stored w (fun hne => absurd rfl hne) (.nothing dev w a cursor hw hfree ha)
  | succ rounds ih =>
      intro cursor bytes w a hrounds hin hw hfree hgen ha
      cases bytes with
      | nil => exact .stored w (fun hne => absurd rfl hne) (.nothing dev w a cursor hw hfree ha)
      | cons b bs =>
          rw [List.length_cons] at hrounds hin
          generalize hid : cursor / dev.map.objectSize = id
          generalize ho : cursor % dev.map.objectSize = o
          generalize htake : min (bs.length + 1) (dev.map.objectSize - o) = take
          have hmod := Nat.mod_lt cursor hsize
          have hdiv := Nat.div_add_mod cursor dev.map.objectSize
          rw [hid, ho, Nat.mul_comm] at hdiv
          have hread := eval_readObject_serves R hR hserves dev hsize w hw hfree id (by omega)
          rw [ha id] at hread
          rcases eval_writeLoop_round R dev hsize rounds cursor b bs w a hin id o take hid.symm
            ho.symm htake.symm
            (fun w1 => w1.locked = false ∧ CacheFill (Env.ofRun (S := remoteSig) R) raw w w1)
            ⟨hfree, CacheFill.refl w⟩ hread with ⟨object, w1, ⟨hfree1, hfill⟩, hobject, heval⟩
          have hlen : ((b :: bs).take take).length = take := by
            rw [List.length_take, List.length_cons]
            omega
          have hdrop : ((b :: bs).drop take).length = bs.length + 1 - take := by
            rw [List.length_drop, List.length_cons]
          have hround := eval_writeRound_limit R hR dev hsize rounds id o cursor
            ((b :: bs).take take) ((b :: bs).drop take) w a hw hgen ha (by omega) hdiv.symm
            (by omega) (by omega) (fun hne => by
              have hpos := List.length_pos_iff.mpr hne
              omega)
            (fun w2 hw2 hfree2 hgen2 ha2 => ih _ _ w2 _ (by omega) (by omega) hw2 hfree2 hgen2 ha2)
            object w1 hfree1 hfill hobject
          rw [hlen, List.take_append_drop] at hround
          rw [heval]
          exact hround

/-- A write inside a working device, with room or without. -/
theorem eval_writeAt_limit (dev : BlockDevice) (hsize : 0 < dev.map.objectSize) (w : World ρ)
    (a : Nat → UInt8) (offset : Nat) (bytes : Bytes)
    (hin : offset + bytes.length ≤ dev.map.deviceSize) (hw : Durable raw dev.map w)
    (hfree : w.locked = false) (hgen : w.manifest.generation + 1 < 2 ^ 64)
    (ha : Shows raw dev.map.objectSize w a) :
    Limited raw dev w a offset bytes ((dev.writeAt offset bytes).eval (deviceRun R) w) := by
  have hlt := dev.map.deviceSize_lt
  unfold BlockDevice.writeAt
  rw [checkedAdd, if_pos (by omega), Prog.eval_bind_ok _ _ _ w w (offset + bytes.length) rfl,
    decide_eq_true hin, Prog.eval_bind_ok _ _ _ w w () rfl]
  exact eval_writeLoop_limit R hR hserves dev hsize _ offset bytes w a (Nat.le_refl _) hin hw
    hfree hgen ha

end Eval

/-- A write that is limited goes through if there is room for it. -/
theorem Limited.ok_iff (dev : BlockDevice) (w : World ρ) (a : Nat → UInt8) (cursor : Nat)
    (bytes : Bytes) (hne : bytes ≠ []) (res : Except String Unit × World ρ)
    (h : Limited raw dev w a cursor bytes res) :
    res.1 = .ok () ↔ dev.Room w cursor bytes.length := by
  cases h with
  | stored w' hroom _ => exact ⟨fun _ => hroom hne, fun _ => rfl⟩
  | refused w' n _ hnoroom _ _ _ =>
      refine ⟨fun hok => ?_, fun hroom => absurd hroom hnoroom⟩
      simp only [reduceCtorEq] at hok

/-- Runs of a device that starts unlocked leave it unlocked. -/
theorem Run.unlocked {B : Backend ρ} {P : Policy ρ} (hB : Returns B raw) (hE : Echoes B)
    (hP : Careful P) (dev : BlockDevice) (hsize : 0 < dev.map.objectSize) (w0 w : World ρ)
    (h0 : Durable raw dev.map w0) (hfree : w0.locked = false) (h : Run B P dev w0 w) :
    w.locked = false := by
  induction h with
  | start => exact hfree
  | next w w' req r hrun hreq ih =>
      have hw := (Run.durable hB hE hP dev hsize w0 w h0 hrun).consistent
      exact (Request.unlocked hB hP dev req w w' r hreq hw).trans ih
  | restart w w' w'' req o _ _ hopen _ =>
      unfold World.reopen at hopen
      split at hopen
      · rw [← Except.ok.inj hopen]
      all_goals cases hopen

/-- After any run of a device, on disks and a backend that do what they are
    told from then on, a write that is not empty goes through if and only if
    there is room for it. Otherwise it stores the objects up to the one that
    found the limit reached, and nothing of the others. -/
theorem write_accepted_iff {B : Backend ρ} {P : Policy ρ} (hB : Returns B raw) (hE : Echoes B)
    (hP : Careful P) (dev : BlockDevice) (hsize : 0 < dev.map.objectSize) (w0 w : World ρ)
    (h0 : Durable raw dev.map w0) (hfree : w0.locked = false) (hrun : Run B P dev w0 w)
    (R : (c : Call) → ρ → Except String c.Resp × ρ)
    (hR : Returns (Env.ofRun (S := remoteSig) R) raw)
    (hserves : Serves (Env.ofRun (S := remoteSig) R) raw) (offset : Nat) (bytes : Bytes)
    (hne : bytes ≠ []) (hin : offset + bytes.length ≤ dev.map.deviceSize)
    (hgen : w.manifest.generation + 1 < 2 ^ 64) :
    (((dev.writeAt offset bytes).eval (deviceRun R) w).1 = .ok () ↔
      dev.Room w offset bytes.length) ∧
    Limited raw dev w (w.array raw dev.map.objectSize) offset bytes
      ((dev.writeAt offset bytes).eval (deviceRun R) w) := by
  have hw := Run.durable hB hE hP dev hsize w0 w h0 hrun
  have hlimited := eval_writeAt_limit R hR hserves dev hsize w _ offset bytes hin hw
    (Run.unlocked hB hE hP dev hsize w0 w h0 hfree hrun) hgen (shows_array raw _ w)
  exact ⟨Limited.ok_iff dev w _ offset bytes hne _ hlimited, hlimited⟩

end Crates

section Small

attribute [local instance] concreteCrates

/-- The small device, with room for one dirty object. -/
def smallTight : BlockDevice := { smallDevice with maxDirtyObjects := 1 }

/-- The same after its first object was written. -/
def smallFull : World MemoryBackend :=
  ((smallTight.writeAt 0 [1, 2, 3, 4]).eval (deviceRun MemoryBackend.run) smallBlank).2

/-- A full device does not take the object back that it has already. -/
theorem write_accepted_small :
    (((smallTight.writeAt 0 [9]).eval (deviceRun MemoryBackend.run) smallFull).1 = .ok () ↔
      smallTight.Room smallFull 0 1) ∧
    Limited MemoryBackend.messages smallTight smallFull
      (smallFull.array MemoryBackend.messages 4) 0 [9]
      ((smallTight.writeAt 0 [9]).eval (deviceRun MemoryBackend.run) smallFull) :=
  write_accepted_iff MemoryBackend.returns MemoryBackend.echoes careful_sparing smallTight
    (by decide) smallBlank smallFull (durable_opened _ _ _ (sound_empty smallMap ⟨7⟩ _)) rfl
    (.next _ _ (.write 0 [1, 2, 3, 4]) _ .start (exec_deviceRun MemoryBackend.run _ _))
    MemoryBackend.run MemoryBackend.returns MemoryBackend.serves 0 [9] (by decide) (by decide)
    (by decide +kernel)

end Small

end TgDrive
