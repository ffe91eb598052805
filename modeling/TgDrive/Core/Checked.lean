import TgDrive.Core.Operations
import TgDrive.Core.Panic

/-!
# Reads and Writes with Their Panics

`read_at` and `write_at` once more, with everything in them that can panic:
the sums and differences of the loops, the division of `locate`, the slices of
objects and of the input. The rounds are kept in a list. What comes out is the
same program as the one without, so what holds of one holds of the other.

Inside the device no round panics. Each takes at least one byte of one object
of the device, and the rounds together are the range that was asked for.

## Main definitions

* `checked`, `unchecked`: Programs that may panic.
* `BlockMap.locateChecked`, `BlockDevice.readAtChecked`,
  `BlockDevice.writeAtChecked`: The methods with their panics.
* `Round`, `Covers`: The rounds of a loop, and the range they make up.

## Theorems

* `readAt_eq`, `writeAt_eq`: The methods with their panics left out.
* `readAt_safe`, `writeAt_safe`: Inside the device nothing panics.
-/

namespace TgDrive

open Data Effect

/-- Go on unless there was a panic. -/
def checked {α β : Type} (x : Except Panic α) (f : α → Prog deviceSig (Except Panic β)) :
    Prog deviceSig (Except Panic β) :=
  match x with
  | .ok a => f a
  | .error p => pure (.error p)

/-- A panic as a failure among others. -/
def unchecked {α : Type} (x : Except Panic α) : Prog deviceSig α :=
  match x with
  | .ok a => pure a
  | .error p => .fail p.message

@[simp] theorem checked_ok {α β : Type} (a : α) (f : α → Prog deviceSig (Except Panic β)) :
    checked (.ok a) f = f a := rfl

@[simp] theorem checked_error {α β : Type} (p : Panic) (f : α → Prog deviceSig (Except Panic β)) :
    checked (.error p) f = pure (.error p) := rfl

@[simp] theorem unchecked_ok {α : Type} (a : α) :
    (unchecked (.ok a) : Prog deviceSig α) = pure a := rfl

@[simp] theorem unchecked_error {α : Type} (p : Panic) :
    (unchecked (.error p) : Prog deviceSig α) = .fail p.message := rfl

/-- One round of a loop: the object, the offset inside it and the bytes that
    are taken. -/
structure Round where
  objectId : Nat
  objectOffset : Nat
  take : Nat
  deriving DecidableEq

/-- Rounds that make up a range of a device, each inside one of its objects. -/
def Covers (map : BlockMap) : Nat → List Round → Nat → Prop
  | cursor, [], stop => cursor = stop
  | cursor, r :: rest, stop =>
      r.objectId < map.objectCount ∧ r.objectId * map.objectSize + r.objectOffset = cursor ∧
        0 < r.take ∧ r.objectOffset + r.take ≤ map.objectSize ∧
        Covers map (cursor + r.take) rest stop

/-- `BlockMap::locate`. -/
def BlockMap.locateChecked (map : BlockMap) (offset : Nat) : Prog deviceSig (Except Panic (Nat × Nat)) := do
  Prog.ensure (offset < map.deviceSize) "offset out of bounds"
  checked (divUsize offset map.objectSize) fun objectId =>
    checked (modUsize offset map.objectSize) fun objectOffset =>
      pure (.ok (objectId, objectOffset))

/-- `object[objectOffset..stop].copy_from_slice(part)`. -/
def copyFromSlice (object : Bytes) (objectOffset stop : Nat) (part : Bytes) : Except Panic Bytes := do
  let target ← checkedSlice object objectOffset stop
  if target.length = part.length then
    .ok (object.take objectOffset ++ part ++ object.drop stop)
  else .error .conversion

section Crates

variable [Crates]

namespace BlockDevice

/-- The rounds of a read. -/
def readLoopChecked (dev : BlockDevice) :
    Nat → Nat → Nat → Bytes → List Round →
      Prog deviceSig (Except Panic (Bytes × Nat × List Round))
  | _, cursor, 0, out, seen => pure (.ok (out, cursor, seen))
  | 0, _, _ + 1, _, _ => pure (.error .unending)
  | rounds + 1, cursor, left + 1, out, seen => do
      let place ← dev.map.locateChecked cursor
      checked place fun (objectId, objectOffset) =>
        checked (subUsize dev.map.objectSize objectOffset) fun room => do
          let take := min (left + 1) room
          let object ← dev.readObject objectId
          checked (addUsize objectOffset take) fun stop =>
            checked (checkedSlice object objectOffset stop) fun part =>
              checked (subUsize (left + 1) take) fun remaining =>
                checked (addUsize cursor take) fun next =>
                  dev.readLoopChecked rounds next remaining (out ++ part)
                    (seen ++ [⟨objectId, objectOffset, take⟩])

/-- `read_at`, with its rounds. -/
def readAtChecked (dev : BlockDevice) (offset len : Nat) : Prog deviceSig (Except Panic (Bytes × List Round)) :=
  checked (addUsize offset len) fun stop => do
    Prog.ensure (stop ≤ dev.map.deviceSize) "read out of bounds"
    let result ← dev.readLoopChecked len offset len [] []
    checked result fun (out, cursor, seen) =>
      if cursor < dev.map.deviceSize then do
        let next ← (dev.map.locateChecked cursor).attempt
        match next with
        | .error _ => pure (.ok (out, seen))
        | .ok (.error p) => pure (.error p)
        | .ok (.ok (nextObjectId, 0)) => do
            let _ ← (prefetchObjects nextObjectId dev.readAheadObjects).attempt
            pure (.ok (out, seen))
        | .ok (.ok _) => pure (.ok (out, seen))
      else pure (.ok (out, seen))

/-- `write_dirty_object`. -/
def writeDirtyObjectChecked (dev : BlockDevice) (objectId : Nat) (object : Bytes)
    (offset len : Nat) : Prog deviceSig (Except Panic Unit) := do
  let dirtyCount ← disk .dirtyCount
  Prog.ensure (dirtyCount < dev.maxDirtyObjects) "dirty object backpressure limit reached"
  let manifest ← disk .peekManifest
  checked (addUsize manifest.generation 1) fun generation => do
    let envelope : ObjectEnvelope := {
      objectId := objectId
      generation := generation
      objectSize := dev.map.objectSize
      flags := 0
      payload := padObject object dev.map.objectSize }
    disk (.storeDirty objectId generation envelope.encode offset len)
    pure (.ok ())

/-- The object that a round of a write starts from. -/
def writeBase (dev : BlockDevice) (objectId objectOffset take : Nat) : Prog deviceSig Bytes :=
  if objectOffset = 0 ∧ take = dev.map.objectSize then
    pure (List.replicate dev.map.objectSize 0)
  else dev.readObject objectId

/-- The rounds of a write. -/
def writeLoopChecked (dev : BlockDevice) (bytes : Bytes) :
    Nat → Nat → Nat → Nat → List Round → Prog deviceSig (Except Panic (List Round))
  | _, _, 0, _, seen => pure (.ok seen)
  | 0, _, _ + 1, _, _ => pure (.error .unending)
  | rounds + 1, cursor, left + 1, inputOffset, seen => do
      let place ← dev.map.locateChecked cursor
      checked place fun (objectId, objectOffset) =>
        checked (subUsize dev.map.objectSize objectOffset) fun room => do
          let take := min (left + 1) room
          let object ← dev.writeBase objectId objectOffset take
          checked (addUsize objectOffset take) fun stop =>
            checked (addUsize inputOffset take) fun inputStop =>
              checked (checkedSlice bytes inputOffset inputStop) fun part =>
                checked (copyFromSlice object objectOffset stop part) fun object => do
                  let stored ← dev.writeDirtyObjectChecked objectId object objectOffset take
                  checked stored fun _ =>
                    checked (subUsize (left + 1) take) fun remaining =>
                      checked (addUsize cursor take) fun next =>
                        dev.writeLoopChecked bytes rounds next remaining inputStop
                          (seen ++ [⟨objectId, objectOffset, take⟩])

/-- `write_at`, with its rounds. -/
def writeAtChecked (dev : BlockDevice) (offset : Nat) (bytes : Bytes) : Prog deviceSig (Except Panic (List Round)) :=
  checked (addUsize offset bytes.length) fun stop => do
    Prog.ensure (stop ≤ dev.map.deviceSize) "write out of bounds"
    dev.writeLoopChecked bytes bytes.length offset bytes.length 0 []

end BlockDevice

omit [Crates] in
theorem locateChecked_inside (map : BlockMap) (offset : Nat) (hpos : 0 < map.objectSize)
    (h : offset < map.deviceSize) :
    map.locateChecked offset = pure (.ok (offset / map.objectSize, offset % map.objectSize)) := by
  rw [BlockMap.locateChecked, divUsize_fits _ _ hpos, modUsize_fits _ _ hpos, decide_eq_true h]
  rfl

omit [Crates] in
/-- The two ways to locate an offset agree, whatever follows. -/
theorem locate_eq {α : Type} (map : BlockMap) (offset : Nat)
    (f : Nat × Nat → Prog deviceSig α) :
    Prog.ofExcept (map.locate offset) >>= f =
      map.locateChecked offset >>= fun place => unchecked place >>= f := by
  unfold BlockMap.locate BlockMap.locateChecked
  by_cases hout : map.deviceSize ≤ offset
  · rw [if_pos hout, decide_eq_false (Nat.not_lt_of_le hout)]
    rfl
  · rw [if_neg hout, decide_eq_true (Nat.lt_of_not_le hout)]
    by_cases hzero : map.objectSize = 0
    · rw [if_pos hzero, divUsize, if_pos hzero]
      rfl
    · rw [if_neg hzero, divUsize_fits _ _ (Nat.pos_of_ne_zero hzero),
        modUsize_fits _ _ (Nat.pos_of_ne_zero hzero)]
      rfl

omit [Crates] in
/-- The slice of an object that a round reads. -/
theorem slice_take (b : Bytes) (i n : Nat) : slice b i (i + n) = (b.drop i).take n := by
  rw [slice, Nat.add_sub_cancel_left]

omit [Crates] in
theorem any_readClass : DeviceOp.ReadClass fun _ => True :=
  ⟨trivial, fun _ _ _ => trivial, fun _ _ _ => trivial, fun _ => trivial⟩

omit [Crates] in
/-- An offset inside an object is below its size. -/
theorem locateChecked_offset (map : BlockMap) (offset : Nat) :
    (map.locateChecked offset).Meets (S := deviceSig) (fun _ _ => True) (fun _ => True)
      (fun place => ∀ p, place = .ok p → p.2 < map.objectSize) := by
  unfold BlockMap.locateChecked
  refine meets_bind _ _ (meets_ensure _ _) fun _ _ => ?_
  by_cases hzero : map.objectSize = 0
  · rw [divUsize, if_pos hzero]
    intro p hp
    cases hp
  · rw [divUsize_fits _ _ (Nat.pos_of_ne_zero hzero), modUsize_fits _ _ (Nat.pos_of_ne_zero hzero)]
    intro p hp
    rw [← Except.ok.inj hp]
    exact Nat.mod_lt _ (Nat.pos_of_ne_zero hzero)

/-- The rounds of a read, with their panics left out. -/
theorem readLoop_eq (dev : BlockDevice) : ∀ (rounds cursor left : Nat) (out : Bytes)
    (seen : List Round), left ≤ rounds → cursor + left < 2 ^ 64 →
      dev.readLoop rounds cursor left out =
        dev.readLoopChecked rounds cursor left out seen >>= fun r =>
          unchecked (r.map fun x => (x.1, x.2.1)) := by
  intro rounds
  induction rounds with
  | zero =>
      intro cursor left out seen hleft _
      rw [Nat.le_zero.mp hleft]
      rfl
  | succ rounds ih =>
      intro cursor left out seen hleft hfits
      cases left with
      | zero => rfl
      | succ left =>
          unfold BlockDevice.readLoop BlockDevice.readLoopChecked
          rw [locate_eq, bind_assoc]
          refine bind_congr_meets _ _ _ (R := fun place => ∀ p, place = .ok p →
            p.2 < dev.map.objectSize) (locateChecked_offset dev.map cursor) fun place hplace => ?_
          cases place with
          | error p => rfl
          | ok p =>
              rcases p with ⟨id, o⟩
              have ho : o < dev.map.objectSize := hplace _ rfl
              have hsize := dev.map.objectSize_lt
              simp only [unchecked_ok, Prog.pure_bind', checked_ok,
                subUsize_fits _ _ (Nat.le_of_lt ho)]
              rw [bind_assoc]
              refine bind_congr_meets _ _ _ (readObject_meets any_readClass dev id trivial)
                fun object hobject => ?_
              rw [addUsize_fits _ _ (by omega), checked_ok,
                checkedSlice_inside _ _ _ (by omega) (by omega), checked_ok,
                subUsize_fits _ _ (by omega), checked_ok, addUsize_fits _ _ (by omega), checked_ok,
                slice_take]
              exact ih _ _ _ _ (by omega) (by omega)

/-- Reading, with its panics left out. -/
theorem readAt_eq (dev : BlockDevice) (hpos : 0 < dev.map.objectSize) (offset len : Nat) :
    dev.readAt offset len =
      dev.readAtChecked offset len >>= fun r => unchecked (r.map fun x => x.1) := by
  unfold BlockDevice.readAt BlockDevice.readAtChecked
  by_cases hfits : offset + len < 2 ^ 64
  · rw [checkedAdd, if_pos hfits, addUsize_fits _ _ hfits, checked_ok, bind_assoc]
    change Prog.ensure _ _ >>= _ = Prog.ensure _ _ >>= _
    refine congrArg _ (funext fun _ => ?_)
    rw [readLoop_eq dev len offset len [] [] (Nat.le_refl _) hfits, bind_assoc, bind_assoc]
    refine congrArg _ (funext fun r => ?_)
    cases r with
    | error p => rfl
    | ok x =>
        rcases x with ⟨out, cursor, seen⟩
        simp only [Except.map, unchecked_ok, Prog.pure_bind', checked_ok]
        by_cases hmore : cursor < dev.map.deviceSize
        · rw [if_pos hmore, if_pos hmore, locate_inside _ _ hpos hmore,
            locateChecked_inside _ _ hpos hmore]
          generalize cursor % dev.map.objectSize = objectOffset
          cases objectOffset with
          | zero =>
              change (BlockDevice.prefetchObjects _ _).attempt >>= _ =
                ((BlockDevice.prefetchObjects _ _).attempt >>= _) >>= _
              rw [bind_assoc]
              rfl
          | succ o => rfl
        · rw [if_neg hmore, if_neg hmore]
          rfl
  · rw [checkedAdd, if_neg hfits, addUsize, if_neg hfits]
    rfl

omit [Crates] in
theorem copyFromSlice_inside (object part : Bytes) (i j : Nat) (hij : i ≤ j)
    (hj : j ≤ object.length) (hpart : part.length = j - i) :
    copyFromSlice object i j part = .ok (object.take i ++ part ++ object.drop j) := by
  rw [copyFromSlice, checkedSlice_inside _ _ _ hij hj, ok_bind, length_slice _ _ _ hj,
    if_pos hpart.symm]

/-- Storing an object as dirty, with its panics left out. -/
theorem writeDirtyObject_eq (dev : BlockDevice) (id : Nat) (object : Bytes) (offset len : Nat) :
    dev.writeDirtyObject id object offset len =
      dev.writeDirtyObjectChecked id object offset len >>= unchecked := by
  unfold BlockDevice.writeDirtyObject BlockDevice.writeDirtyObjectChecked
  rw [bind_assoc]
  refine congrArg _ (funext fun _ => ?_)
  rw [bind_assoc]
  refine congrArg _ (funext fun _ => ?_)
  rw [bind_assoc]
  refine congrArg _ (funext fun m => ?_)
  by_cases hfits : m.generation + 1 < 2 ^ 64
  · rw [checkedAdd, if_pos hfits, addUsize_fits _ _ hfits, checked_ok, bind_assoc]
    exact (bind_pure_self _).symm
  · rw [checkedAdd, if_neg hfits, addUsize, if_neg hfits]
    rfl

/-- What a round of a write starts from has the size of an object. -/
theorem writeBase_meets {A : (e : DeviceOp) → Except String e.Resp → Prop}
    {K : DeviceOp → Prop} (h : DeviceOp.ReadClass K) (dev : BlockDevice) (id o n : Nat)
    (hid : K (.disk (.readDirty id))) :
    (dev.writeBase id o n).Meets (S := deviceSig) A K
      (fun object => object.length = dev.map.objectSize) := by
  unfold BlockDevice.writeBase
  by_cases hfull : o = 0 ∧ n = dev.map.objectSize
  · rw [if_pos hfull]
    exact List.length_replicate
  · rw [if_neg hfull]
    exact readObject_meets h dev id hid

/-- One round of a write. -/
theorem writeLoop_cons (dev : BlockDevice) (rounds cursor : Nat) (b : UInt8) (bs : Bytes) :
    dev.writeLoop (rounds + 1) cursor (b :: bs) =
      Prog.ofExcept (dev.map.locate cursor) >>= fun p =>
        dev.writeBase p.1 p.2 (min (bs.length + 1) (dev.map.objectSize - p.2)) >>= fun object =>
          dev.writeDirtyObject p.1 (BlockDevice.overwrite object p.2
            ((b :: bs).take (min (bs.length + 1) (dev.map.objectSize - p.2)))) p.2
            (min (bs.length + 1) (dev.map.objectSize - p.2)) >>= fun _ =>
          dev.writeLoop rounds (cursor + min (bs.length + 1) (dev.map.objectSize - p.2))
            ((b :: bs).drop (min (bs.length + 1) (dev.map.objectSize - p.2))) := by
  rw [BlockDevice.writeLoop]
  refine congrArg _ (funext fun p => ?_)
  rcases p with ⟨id, o⟩
  simp only [BlockDevice.writeBase]
  by_cases hfull : o = 0 ∧ min (bs.length + 1) (dev.map.objectSize - o) = dev.map.objectSize
  · rw [if_pos hfull, if_pos hfull]
  · rw [if_neg hfull, if_neg hfull]

/-- The rounds of a write, with their panics left out. -/
theorem writeLoop_eq (dev : BlockDevice) (bytes : Bytes) : ∀ (rounds cursor left inputOffset : Nat)
    (seen : List Round), left ≤ rounds → cursor + left < 2 ^ 64 →
      inputOffset + left = bytes.length → bytes.length < 2 ^ 64 →
      dev.writeLoop rounds cursor (bytes.drop inputOffset) =
        dev.writeLoopChecked bytes rounds cursor left inputOffset seen >>= fun r =>
          unchecked (r.map fun _ => ()) := by
  intro rounds
  induction rounds with
  | zero =>
      intro cursor left inputOffset seen hleft _ hlen _
      have hnil : bytes.drop inputOffset = [] := List.drop_eq_nil_of_le (by omega)
      rw [Nat.le_zero.mp hleft, hnil]
      rfl
  | succ rounds ih =>
      intro cursor left inputOffset seen hleft hfits hlen hbytes
      cases left with
      | zero =>
          have hnil : bytes.drop inputOffset = [] := List.drop_eq_nil_of_le (by omega)
          rw [hnil]
          rfl
      | succ left =>
          have hrest : (bytes.drop inputOffset).length = left + 1 := by
            rw [List.length_drop]
            omega
          cases hdrop : bytes.drop inputOffset with
          | nil =>
              rw [hdrop] at hrest
              cases hrest
          | cons b bs =>
              rw [hdrop, List.length_cons] at hrest
              rw [writeLoop_cons, locate_eq]
              unfold BlockDevice.writeLoopChecked
              rw [bind_assoc]
              refine bind_congr_meets _ _ _ (R := fun place => ∀ p, place = .ok p →
                p.2 < dev.map.objectSize) (locateChecked_offset dev.map cursor)
                fun place hplace => ?_
              cases place with
              | error p => rfl
              | ok p =>
                  rcases p with ⟨id, o⟩
                  have ho : o < dev.map.objectSize := hplace _ rfl
                  have hsize := dev.map.objectSize_lt
                  simp only [unchecked_ok, Prog.pure_bind', checked_ok,
                    subUsize_fits _ _ (Nat.le_of_lt ho)]
                  rw [hrest, bind_assoc]
                  refine bind_congr_meets _ _ _ (writeBase_meets any_readClass dev id o _ trivial)
                    fun object hobject => ?_
                  have hpart : slice bytes inputOffset
                      (inputOffset + min (left + 1) (dev.map.objectSize - o)) =
                        (b :: bs).take (min (left + 1) (dev.map.objectSize - o)) := by
                    rw [slice_take, hdrop]
                  have hlength : ((b :: bs).take (min (left + 1) (dev.map.objectSize - o))).length =
                      min (left + 1) (dev.map.objectSize - o) := by
                    rw [List.length_take, List.length_cons, hrest]
                    omega
                  -- The cursor and the input are in range, so no operation of the round panics.
                  rw [addUsize_fits _ _ (by omega), checked_ok, addUsize_fits _ _ (by omega),
                    checked_ok, checkedSlice_inside _ _ _ (by omega) (by omega), checked_ok, hpart,
                    copyFromSlice_inside _ _ _ _ (by omega) (by omega) (by omega), checked_ok,
                    bind_assoc, writeDirtyObject_eq, bind_assoc, BlockDevice.overwrite, hlength]
                  refine congrArg _ (funext fun stored => ?_)
                  cases stored with
                  | error p => rfl
                  | ok u =>
                      rw [checked_ok, subUsize_fits _ _ (by omega), checked_ok,
                        addUsize_fits _ _ (by omega), checked_ok]
                      rw [unchecked_ok, Prog.pure_bind', ← hdrop, List.drop_drop]
                      exact ih _ _ _ _ (by omega) (by omega) (by omega) hbytes

/-- Writing, with its panics left out. -/
theorem writeAt_eq (dev : BlockDevice) (offset : Nat) (bytes : Bytes) :
    dev.writeAt offset bytes =
      dev.writeAtChecked offset bytes >>= fun r => unchecked (r.map fun _ => ()) := by
  unfold BlockDevice.writeAt BlockDevice.writeAtChecked
  by_cases hfits : offset + bytes.length < 2 ^ 64
  · rw [checkedAdd, if_pos hfits, addUsize_fits _ _ hfits, checked_ok, bind_assoc]
    change Prog.ensure _ _ >>= _ = Prog.ensure _ _ >>= _
    refine congrArg _ (funext fun _ => ?_)
    have h := writeLoop_eq dev bytes bytes.length offset bytes.length 0 [] (Nat.le_refl _) hfits
      (Nat.zero_add _) (by omega)
    rw [List.drop_zero] at h
    exact h
  · rw [checkedAdd, if_neg hfits, addUsize, if_neg hfits]
    rfl

/-- No panic, and a result that meets a condition. -/
def NoPanic {α : Type} (P : α → Prop) : Except Panic α → Prop
  | .ok a => P a
  | .error _ => False

omit [Crates] in
/-- A program without panics, and what follows it. -/
theorem meets_checked {α β : Type} {A : (e : DeviceOp) → Except String e.Resp → Prop}
    {K : DeviceOp → Prop} {R : α → Prop} {Q : Except Panic β → Prop}
    (p : Prog deviceSig (Except Panic α)) (f : α → Prog deviceSig (Except Panic β))
    (hp : p.Meets (S := deviceSig) A K (NoPanic R))
    (hf : ∀ a, R a → (f a).Meets (S := deviceSig) A K Q) :
    (p >>= fun r => checked r f).Meets (S := deviceSig) A K Q := by
  refine meets_bind _ _ hp fun r hr => ?_
  cases r with
  | ok a => exact hf a hr
  | error x => exact hr.elim

/-- What may be asked of the store: the objects of the device, and ranges
    inside one of them, under numbers that fit a signed integer. -/
def DeviceOp.InRange (map : BlockMap) : DeviceOp → Prop
  | .disk (.readDirty id) => id < map.objectCount
  | .disk (.storeDirty id generation _ offset len) =>
      id < map.objectCount ∧ generation < 2 ^ 63 ∧ 0 < len ∧ offset + len ≤ map.objectSize
  | _ => True

/-- The manifest is of a generation below a bound. -/
def DeviceOp.Younger (bound : Nat) : (e : DeviceOp) → Except String e.Resp → Prop
  | .disk .peekManifest, r => ∀ m : Manifest, r = .ok m → m.generation < bound
  | _, _ => True

omit [Crates] in
theorem inRange_readClass (map : BlockMap) : DeviceOp.ReadClass (DeviceOp.InRange map) :=
  ⟨trivial, fun _ _ _ => trivial, fun _ _ _ => trivial, fun _ => trivial⟩

omit [Crates] in
theorem locateChecked_meets {A : (e : DeviceOp) → Except String e.Resp → Prop}
    {K : DeviceOp → Prop} (map : BlockMap) (offset : Nat) (hpos : 0 < map.objectSize)
    (h : offset < map.deviceSize) :
    (map.locateChecked offset).Meets (S := deviceSig) A K (NoPanic fun p =>
      p.1 < map.objectCount ∧ p.2 < map.objectSize ∧ p.1 * map.objectSize + p.2 = offset) := by
  rw [locateChecked_inside map offset hpos h]
  have hplace : offset / map.objectSize * map.objectSize + offset % map.objectSize = offset := by
    rw [Nat.mul_comm]
    exact Nat.div_add_mod _ _
  have hid : offset / map.objectSize < map.objectCount :=
    lt_objectCount map (offset / map.objectSize) (by omega) hpos
  exact ⟨hid, Nat.mod_lt _ hpos, hplace⟩

omit [Crates] in
/-- One round in front of others. -/
theorem covers_round (map : BlockMap) (cursor left id o : Nat) (new : List Round)
    (hid : id < map.objectCount) (hplace : id * map.objectSize + o = cursor)
    (ho : o < map.objectSize)
    (hnew : Covers map (cursor + min (left + 1) (map.objectSize - o)) new
      (cursor + min (left + 1) (map.objectSize - o) +
        (left + 1 - min (left + 1) (map.objectSize - o)))) :
    Covers map cursor (⟨id, o, min (left + 1) (map.objectSize - o)⟩ :: new)
      (cursor + (left + 1)) := by
  have hstop : cursor + min (left + 1) (map.objectSize - o) +
      (left + 1 - min (left + 1) (map.objectSize - o)) = cursor + (left + 1) := by omega
  rw [hstop] at hnew
  refine ⟨hid, hplace, ?_, ?_, hnew⟩
  · simp only []
    omega
  · simp only []
    omega

/-- The rounds of a read inside the device. -/
theorem readLoop_safe {A : (e : DeviceOp) → Except String e.Resp → Prop} (dev : BlockDevice)
    (hpos : 0 < dev.map.objectSize) : ∀ (rounds cursor left : Nat) (out : Bytes)
    (seen : List Round), left ≤ rounds → cursor + left ≤ dev.map.deviceSize →
      (dev.readLoopChecked rounds cursor left out seen).Meets (S := deviceSig) A
        (DeviceOp.InRange dev.map) (NoPanic fun x => x.1.length = out.length + left ∧
          x.2.1 = cursor + left ∧
          ∃ new, x.2.2 = seen ++ new ∧ Covers dev.map cursor new (cursor + left)) := by
  have hdevice := dev.map.deviceSize_lt
  have hsize := dev.map.objectSize_lt
  intro rounds
  induction rounds with
  | zero =>
      intro cursor left out seen hleft _
      rw [Nat.le_zero.mp hleft]
      exact ⟨rfl, rfl, [], (List.append_nil _).symm, rfl⟩
  | succ rounds ih =>
      intro cursor left out seen hleft hend
      cases left with
      | zero => exact ⟨rfl, rfl, [], (List.append_nil _).symm, rfl⟩
      | succ left =>
          unfold BlockDevice.readLoopChecked
          refine meets_checked _ _ (locateChecked_meets dev.map cursor hpos (by omega))
            fun p hp => ?_
          rcases p with ⟨id, o⟩
          obtain ⟨hid, ho, hplace⟩ := hp
          simp only [] at hid ho hplace
          simp only [subUsize_fits _ _ (Nat.le_of_lt ho), checked_ok]
          refine meets_bind _ _ (readObject_meets (inRange_readClass dev.map) dev id hid)
            fun object hobject => ?_
          rw [addUsize_fits _ _ (by omega), checked_ok,
            checkedSlice_inside _ _ _ (by omega) (by omega), checked_ok,
            subUsize_fits _ _ (by omega), checked_ok, addUsize_fits _ _ (by omega), checked_ok]
          refine meets_mono _ (ih _ _ _ _ (by omega) (by omega)) fun r hr => ?_
          cases r with
          | error x => exact hr
          | ok x =>
              obtain ⟨hlen, hcursor, new, hnew, hcovers⟩ := hr
              refine ⟨?_, ?_, ⟨id, o, min (left + 1) (dev.map.objectSize - o)⟩ :: new, ?_,
                covers_round dev.map cursor left id o new hid hplace ho hcovers⟩
              · rw [hlen, List.length_append, length_slice _ _ _ (by omega)]
                omega
              · rw [hcursor]
                omega
              · rw [hnew, List.append_assoc]
                rfl

omit [Crates] in
theorem inRange_prefetchClass (map : BlockMap) : DeviceOp.PrefetchClass (DeviceOp.InRange map) :=
  ⟨trivial, trivial, trivial, trivial, fun _ _ _ => trivial, fun _ _ _ => trivial,
    fun _ => trivial⟩

/-- A read inside the device does not panic, visits objects of the device
    only, and its rounds are the range that was asked for. -/
theorem readAt_safe {A : (e : DeviceOp) → Except String e.Resp → Prop} (dev : BlockDevice)
    (hpos : 0 < dev.map.objectSize) (offset len : Nat) (hend : offset + len ≤ dev.map.deviceSize) :
    (dev.readAtChecked offset len).Meets (S := deviceSig) A (DeviceOp.InRange dev.map)
      (NoPanic fun x => x.1.length = len ∧ Covers dev.map offset x.2 (offset + len)) := by
  have hdevice := dev.map.deviceSize_lt
  unfold BlockDevice.readAtChecked
  rw [addUsize_fits _ _ (by omega), checked_ok]
  refine meets_bind _ _ (meets_ensure _ _) fun _ _ => ?_
  refine meets_checked _ _ (readLoop_safe dev hpos len offset len [] [] (Nat.le_refl _) hend)
    fun x hx => ?_
  rcases x with ⟨out, cursor, seen⟩
  obtain ⟨hlen, _, new, hnew, hcovers⟩ := hx
  simp only [List.length_nil, Nat.zero_add, List.nil_append] at hlen hnew
  have hdone : NoPanic (fun x : Bytes × List Round => x.1.length = len ∧
      Covers dev.map offset x.2 (offset + len)) (.ok (out, seen)) := by
    refine ⟨hlen, ?_⟩
    rw [hnew]
    exact hcovers
  simp only []
  by_cases hmore : cursor < dev.map.deviceSize
  · rw [if_pos hmore, locateChecked_inside _ _ hpos hmore]
    generalize cursor % dev.map.objectSize = objectOffset
    cases objectOffset with
    | zero =>
        -- The place has been looked up; what is left is the read ahead, whose failure is dropped.
        change Prog.Meets (S := deviceSig) A (DeviceOp.InRange dev.map)
          (NoPanic fun x : Bytes × List Round => x.1.length = len ∧
            Covers dev.map offset x.2 (offset + len))
          ((BlockDevice.prefetchObjects (cursor / dev.map.objectSize)
            dev.readAheadObjects).attempt >>= fun _ => pure (Except.ok (out, seen)))
        exact meets_bind _ _ (meets_of_only _ (only_attempt _
          (prefetchObjects_only (inRange_prefetchClass dev.map) _ _))) fun _ _ => hdone
    | succ o => exact hdone
  · rw [if_neg hmore]
    exact hdone

/-- Storing an object as dirty, under a manifest that can be counted up. -/
theorem writeDirtyObject_safe (dev : BlockDevice) (id : Nat) (object : Bytes) (offset len : Nat)
    (hid : id < dev.map.objectCount) (hlen : 0 < len) (hend : offset + len ≤ dev.map.objectSize) :
    (dev.writeDirtyObjectChecked id object offset len).Meets (S := deviceSig)
      (DeviceOp.Younger (2 ^ 63 - 1)) (DeviceOp.InRange dev.map) (NoPanic fun _ => True) := by
  unfold BlockDevice.writeDirtyObjectChecked
  refine meets_bind _ _ (meets_perform (S := deviceSig) (DeviceOp.disk .dirtyCount) trivial
    fun _ _ => trivial) fun _ _ => ?_
  refine meets_bind _ _ (meets_ensure _ _) fun _ _ => ?_
  refine meets_bind _ _ (meets_perform (S := deviceSig) (DeviceOp.disk .peekManifest) trivial
    (P := fun m : Manifest => m.generation < 2 ^ 63 - 1) fun m hm => hm m rfl) fun m hm => ?_
  have hnext : m.generation + 1 < 2 ^ 63 := by omega
  rw [addUsize_fits _ _ (by omega), checked_ok]
  refine meets_bind _ _ (meets_perform (S := deviceSig)
    (DeviceOp.disk (.storeDirty id (m.generation + 1) _ offset len)) ⟨hid, hnext, hlen, hend⟩
    fun _ _ => trivial) fun _ _ => ?_
  exact trivial

/-- The rounds of a write inside the device. -/
theorem writeLoop_safe (dev : BlockDevice) (hpos : 0 < dev.map.objectSize) (bytes : Bytes)
    (hbytes : bytes.length < 2 ^ 64) : ∀ (rounds cursor left inputOffset : Nat)
    (seen : List Round), left ≤ rounds → cursor + left ≤ dev.map.deviceSize →
      inputOffset + left = bytes.length →
      (dev.writeLoopChecked bytes rounds cursor left inputOffset seen).Meets (S := deviceSig)
        (DeviceOp.Younger (2 ^ 63 - 1)) (DeviceOp.InRange dev.map)
        (NoPanic fun x => ∃ new, x = seen ++ new ∧ Covers dev.map cursor new (cursor + left)) := by
  have hdevice := dev.map.deviceSize_lt
  have hsize := dev.map.objectSize_lt
  intro rounds
  induction rounds with
  | zero =>
      intro cursor left inputOffset seen hleft _ _
      rw [Nat.le_zero.mp hleft]
      exact ⟨[], (List.append_nil _).symm, rfl⟩
  | succ rounds ih =>
      intro cursor left inputOffset seen hleft hend hlen
      cases left with
      | zero => exact ⟨[], (List.append_nil _).symm, rfl⟩
      | succ left =>
          unfold BlockDevice.writeLoopChecked
          refine meets_checked _ _ (locateChecked_meets dev.map cursor hpos (by omega))
            fun p hp => ?_
          rcases p with ⟨id, o⟩
          obtain ⟨hid, ho, hplace⟩ := hp
          simp only [] at hid ho hplace
          simp only [subUsize_fits _ _ (Nat.le_of_lt ho), checked_ok]
          refine meets_bind _ _ (writeBase_meets (inRange_readClass dev.map) dev id o _ hid)
            fun object hobject => ?_
          have hpart : (slice bytes inputOffset
              (inputOffset + min (left + 1) (dev.map.objectSize - o))).length =
                min (left + 1) (dev.map.objectSize - o) := by
            rw [length_slice _ _ _ (by omega)]
            omega
          rw [addUsize_fits _ _ (by omega), checked_ok, addUsize_fits _ _ (by omega), checked_ok,
            checkedSlice_inside _ _ _ (by omega) (by omega), checked_ok,
            copyFromSlice_inside _ _ _ _ (by omega) (by omega) (by omega), checked_ok]
          refine meets_checked _ _ (writeDirtyObject_safe dev id _ o _ hid (by omega) (by omega))
            fun _ _ => ?_
          rw [subUsize_fits _ _ (by omega), checked_ok, addUsize_fits _ _ (by omega), checked_ok]
          refine meets_mono _ (ih _ _ _ _ (by omega) (by omega) (by omega)) fun r hr => ?_
          cases r with
          | error x => exact hr
          | ok x =>
              obtain ⟨new, hnew, hcovers⟩ := hr
              refine ⟨⟨id, o, min (left + 1) (dev.map.objectSize - o)⟩ :: new, ?_,
                covers_round dev.map cursor left id o new hid hplace ho hcovers⟩
              rw [hnew, List.append_assoc]
              rfl

/-- A write inside the device does not panic, stores objects of the device
    only, and its rounds are the range that was asked for. -/
theorem writeAt_safe (dev : BlockDevice) (hpos : 0 < dev.map.objectSize) (offset : Nat)
    (bytes : Bytes) (hend : offset + bytes.length ≤ dev.map.deviceSize) :
    (dev.writeAtChecked offset bytes).Meets (S := deviceSig)
      (DeviceOp.Younger (2 ^ 63 - 1)) (DeviceOp.InRange dev.map)
      (NoPanic fun x => Covers dev.map offset x (offset + bytes.length)) := by
  have hdevice := dev.map.deviceSize_lt
  unfold BlockDevice.writeAtChecked
  rw [addUsize_fits _ _ (by omega), checked_ok]
  refine meets_bind _ _ (meets_ensure _ _) fun _ _ => ?_
  refine meets_mono _ (writeLoop_safe dev hpos bytes (by omega) bytes.length offset bytes.length 0
    [] (Nat.le_refl _) hend (Nat.zero_add _)) fun r hr => ?_
  cases r with
  | error x => exact hr
  | ok x =>
      obtain ⟨new, hnew, hcovers⟩ := hr
      rw [List.nil_append] at hnew
      rw [hnew]
      exact hcovers

end Crates

end TgDrive
