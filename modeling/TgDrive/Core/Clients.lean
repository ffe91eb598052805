import TgDrive.Core.Concurrent
import TgDrive.Core.Generations
import TgDrive.Effect.Simulates

/-!
# What Clients See of Each Other

Any number of clients that read and write one device at the same time, in any
interleaving of the operations on its store, its manifest and its backend, any
of which may fail. Between two operations of a read another client may have
stored the object it is about to look up, or filled the cache with it.

All of this is as if the device were an array of which one object at a time is
read or stored, each in one step. A read of an object takes effect when it asks
for the row of the object. If there is none, what it goes on to find does not
change any more: no client changes the manifest, a write stores under the next
generation and so under another file, and what other reads put into the cache
are copies of the same object. A write of an object takes effect when it stores
it. Everything else is silent.

Clients are programs of their own here, so what one asks for may depend on what
it has read, and on what others have told it by other ways than the device. A
request that touches several objects, or a part of one, is several steps, and
other clients come in between.

## Main definitions

* `ObjectEnv`: An array, one object at a time.
* `ClientOp`: What a client asks a device for.
* `BlockDevice.methods`, `BlockDevice.strides`: The requests on the device, and
  on the array.
* `Beside`: A device that clients are at work on, and the array it is.

## Theorems

* `Beside.aside`, `Beside.dirtied`, `Beside.torn`: What keeps them together.
* `seenAs_readObject`, `seenAs_writeDirtyObject`: One object.
* `unseen_prefetchObjects`: A prefetch is silent.
* `seenAs_methods`: The requests.
* `seenAs_client`: A client.
-/

namespace TgDrive

open Data Effect

/-- The operations on an array of objects. `give` is the point where a read
    that has its object may still fail. -/
inductive ObjectOp : Type
  | get (objectId : Nat)
  | give
  | put (objectId : Nat) (object : Bytes)

abbrev ObjectOp.Resp : ObjectOp → Type
  | .get _ => Bytes
  | .give => Unit
  | .put _ _ => Unit

abbrev objectSig : Signature := { Op := ObjectOp, Resp := ObjectOp.Resp }

/-- An array of which one object at a time is read or stored. Any operation may
    fail, and a store that fails may have been made. -/
def ObjectEnv (objectSize : Nat) : Env objectSig (Nat → UInt8) where
  step
    | .get id, a, r, a' => (∀ o, r = .ok o → o = span a (id * objectSize) objectSize) ∧ a' = a
    | .give, a, _, a' => a' = a
    | .put id object, a, r, a' =>
        a' = splice a (id * objectSize) (padObject object objectSize) ∨
          (∃ msg, r = .error msg) ∧ a' = a
  crash _ _ _ := False

/-- What clients ask a device for while they are several. -/
inductive ClientOp : Type
  | readAt (offset len : Nat)
  | writeAt (offset : Nat) (bytes : Bytes)

abbrev ClientOp.Resp : ClientOp → Type
  | .readAt _ _ => Bytes
  | .writeAt _ _ => Unit

abbrev clientSig : Signature := { Op := ClientOp, Resp := ClientOp.Resp }

namespace BlockDevice

variable (dev : BlockDevice)

def getObject (objectId : Nat) : Prog objectSig Bytes := do
  let object ← Prog.perform (S := objectSig) (.get objectId)
  Prog.perform (S := objectSig) .give
  pure object

/-- The rounds of a read on an array of objects. -/
def readStrides : Nat → Nat → Nat → Bytes → Prog objectSig Bytes
  | _, _, 0, out => pure out
  | 0, _, _ + 1, _ => .fail "out of rounds"
  | rounds + 1, cursor, left + 1, out => do
      let (objectId, objectOffset) ← Prog.ofExcept (dev.map.locate cursor)
      let take := min (left + 1) (dev.map.objectSize - objectOffset)
      let object ← getObject objectId
      readStrides rounds (cursor + take) (left + 1 - take)
        (out ++ (object.drop objectOffset).take take)

/-- The rounds of a write on an array of objects. -/
def writeStrides : Nat → Nat → Bytes → Prog objectSig Unit
  | _, _, [] => pure ()
  | 0, _, _ :: _ => .fail "out of rounds"
  | rounds + 1, cursor, b :: bs => do
      let (objectId, objectOffset) ← Prog.ofExcept (dev.map.locate cursor)
      let take := min (bs.length + 1) (dev.map.objectSize - objectOffset)
      let object ← if objectOffset = 0 ∧ take = dev.map.objectSize then
          pure (List.replicate dev.map.objectSize 0)
        else getObject objectId
      Prog.perform (S := objectSig)
        (.put objectId (overwrite object objectOffset ((b :: bs).take take)))
      writeStrides rounds (cursor + take) ((b :: bs).drop take)

/-- A request on an array of objects: the objects it touches, one after the
    other. -/
def strides : (e : ClientOp) → Prog objectSig e.Resp
  | .readAt offset len => do
      let stop ← Prog.ofExcept (checkedAdd offset len)
      Prog.ensure (stop ≤ dev.map.deviceSize) "read out of bounds"
      dev.readStrides len offset len []
  | .writeAt offset bytes => do
      let stop ← Prog.ofExcept (checkedAdd offset bytes.length)
      Prog.ensure (stop ≤ dev.map.deviceSize) "write out of bounds"
      dev.writeStrides bytes.length offset bytes

/-- A request on the device. -/
def methods [Crates] : (e : ClientOp) → Prog deviceSig e.Resp
  | .readAt offset len => dev.readAt offset len
  | .writeAt offset bytes => dev.writeAt offset bytes

end BlockDevice

theorem mayFail_get (objectSize id : Nat) :
    MayFail (ObjectEnv objectSize) (Prog.perform (S := objectSig) (.get id)) :=
  MayFail.perform (T := objectSig) (.get id) fun _ _ => ⟨fun _ h => (by cases h), rfl⟩

theorem mayFail_put (objectSize id : Nat) (object : Bytes) :
    MayFail (ObjectEnv objectSize) (Prog.perform (S := objectSig) (.put id object)) :=
  MayFail.perform (T := objectSig) (.put id object) fun _ msg => Or.inr ⟨⟨msg, rfl⟩, rfl⟩

/-- A read that has its object may fail before it gives it. -/
theorem mayFail_give (objectSize : Nat) (object : Bytes) :
    MayFail (ObjectEnv objectSize)
      (Prog.perform (S := objectSig) .give >>= fun _ => pure object) :=
  (MayFail.perform (T := objectSig) .give fun _ _ => rfl).bind _ _

/-- It gives it without an effect. -/
theorem settles_give (objectSize : Nat) (object : Bytes) :
    Settles (ObjectEnv objectSize)
      (Prog.perform (S := objectSig) .give >>= fun _ => pure object) (.pure object) := fun a =>
  .next (T := objectSig) .give _ a a a (.ok ()) _ rfl (.stay _ a)

section Crates

variable {ρ α : Type} [Crates] {B : Backend ρ} {P : Policy ρ} {raw : ρ → Int → Option Bytes}

/-- What clients have made of a device by some point, and the array it is then.
    Rows may have come, each of the generation after the manifest's, and the
    cache holds no other bytes for the entries of objects that were clean. -/
structure Beside (raw : ρ → Int → Option Bytes) (map : BlockMap) (w0 w : World ρ)
    (a : Nat → UInt8) : Prop where
  durable : Durable raw map w
  shows : Shows raw map.objectSize w a
  manifest : w.manifest = w0.manifest
  state : w.store.manifestState = w0.store.manifestState
  remote : ∀ i b, raw w0.remote i = some b → raw w.remote i = some b
  rows : ∀ id d, w.store.dirtyObject id = some d →
    w0.store.dirtyObject id = some d ∨ d.generation = w0.manifest.generation + 1
  keeps : ∀ id, w.store.dirtyObject id = none → w0.store.dirtyObject id = none
  copies : ∀ id e r b b', w0.store.dirtyObject id = none → w0.manifest.find id = some e →
    e.zero = false → e.remote = some r → raw w0.remote r.messageId = some b →
    w.store.files (LocalStore.cachePath id e.generation) = some b' → b' = b

/-- A copy of the object that the entry of a clean object refers to. -/
def CopyOf (raw : ρ → Int → Option Bytes) (w0 : World ρ) (p : CachePath) (b : Bytes) : Prop :=
  ∃ e r, w0.store.dirtyObject p.objectId = none ∧ w0.manifest.find p.objectId = some e ∧
    e.zero = false ∧ e.generation = p.generation ∧ e.remote = some r ∧
    raw w0.remote r.messageId = some b

namespace Beside

variable {map : BlockMap} {w0 w w' : World ρ} {a : Nat → UInt8}

/-- Before the first operation. -/
theorem start (hw : Durable raw map w0) (ha : Shows raw map.objectSize w0 a) :
    Beside raw map w0 w0 a where
  durable := hw
  shows := ha
  manifest := rfl
  state := rfl
  remote := fun _ _ h => h
  rows := fun _ _ h => Or.inl h
  keeps := fun _ h => h
  copies := by
    intro id e r b b' hd hf hz hr hraw hb'
    rcases hw.consistent.clean id e hd hf hz with ⟨r', b0, hr', hraw', hcopy⟩
    rw [hr, Option.some.injEq] at hr'
    rw [← hr', hraw, Option.some.injEq] at hraw'
    rw [hraw', hcopy b' hb']

/-- The file of a row is none that a copy is put into. -/
theorem apart (h : Beside raw map w0 w a)
    (hwithin : w0.manifest.Within w0.manifest.generation) (id : Nat) (d : DirtyObject)
    (hd : w.store.dirtyObject id = some d) (b : Bytes) : ¬CopyOf raw w0 d.cachePath b := by
  rintro ⟨e, r, hnone, hf, _, hg, _, _⟩
  rw [h.durable.consistent.path id d hd] at hnone hf hg
  rcases h.rows id d hd with hold | hnew
  · rw [show w0.store.dirtyObject id = none from hnone] at hold
    cases hold
  · have hle := hwithin id e hf
    have hgen : e.generation = d.generation := hg
    omega

/-- What is found without a row was there from the start. -/
theorem clean (h : Beside raw map w0 w a) (hw0 : Durable raw map w0) (id : Nat)
    (hd : w.store.dirtyObject id = none) :
    w.content raw map.objectSize id = w0.content raw map.objectSize id := by
  have hd0 := h.keeps id hd
  rw [w.content_clean raw _ _ hd, w0.content_clean raw _ _ hd0, h.manifest]
  rcases hf : w0.manifest.find id with _ | e
  · rw [Manifest.content_none _ _ _ _ hf, Manifest.content_none _ _ _ _ hf]
  · by_cases hz : e.zero = true
    · rw [Manifest.content_zero _ _ _ _ e hf hz, Manifest.content_zero _ _ _ _ e hf hz]
    · simp only [Bool.not_eq_true] at hz
      rcases hw0.consistent.clean id e hd0 hf hz with ⟨r, b, hr, hraw, _⟩
      rw [Manifest.content_remote _ _ _ _ e r hf hz hr,
        Manifest.content_remote _ _ _ _ e r hf hz hr, hraw, h.remote _ _ hraw]

/-- What leaves the rows and the manifest alone, loses nothing of the backend
    and changes files to copies only. -/
theorem aside (h : Beside raw map w0 w a)
    (hwithin : w0.manifest.Within w0.manifest.generation)
    (hmanifest : w'.manifest = w.manifest)
    (hrows : w'.store.dirtyObjects = w.store.dirtyObjects)
    (hstate : w'.store.manifestState = w.store.manifestState)
    (hremote : ∀ i b, raw w.remote i = some b → raw w'.remote i = some b)
    (hfiles : ∀ p, w'.store.files p = w.store.files p ∨
      ∃ b, CopyOf raw w0 p b ∧ w'.store.files p = some b) : Beside raw map w0 w' a := by
  have hrow : ∀ id, w'.store.dirtyObject id = w.store.dirtyObject id := fun id => by
    rw [LocalStore.dirtyObject, LocalStore.dirtyObject, hrows]
  have hfile : ∀ id d, w.store.dirtyObject id = some d →
      w'.store.files d.cachePath = w.store.files d.cachePath := by
    intro id d hd
    rcases hfiles d.cachePath with hsame | ⟨b, hcopy, _⟩
    · exact hsame
    · exact absurd hcopy (h.apart hwithin id d hd b)
  have hcopies : ∀ id e r b b', w0.store.dirtyObject id = none → w0.manifest.find id = some e →
      e.zero = false → e.remote = some r → raw w0.remote r.messageId = some b →
      w'.store.files (LocalStore.cachePath id e.generation) = some b' → b' = b := by
    intro id e r b b' hd hf hz hr hraw hb'
    rcases hfiles (LocalStore.cachePath id e.generation) with hsame | ⟨b1, hcopy, hb1⟩
    · rw [hsame] at hb'
      exact h.copies id e r b b' hd hf hz hr hraw hb'
    · rcases hcopy with ⟨e1, r1, _, hf1, _, _, hr1, hraw1⟩
      have hee : some e = some e1 := hf.symm.trans hf1
      rw [← Option.some.inj hee, hr, Option.some.injEq] at hr1
      rw [← hr1, hraw, Option.some.injEq] at hraw1
      rw [hb1, Option.some.injEq] at hb'
      rw [hraw1, hb']
  refine {
    durable := {
      consistent := { path := fun id d hd => ?_, clean := fun id e hd hf hz => ?_ }
      rows := fun id d hd => ?_
      live := fun id e hd hf hz => ?_
      ids := by rw [hmanifest]; exact h.durable.ids
      stored := ?_ }
    shows := fun id => ?_
    manifest := hmanifest.trans h.manifest
    state := hstate.trans h.state
    remote := fun i b hb => hremote i b (h.remote i b hb)
    rows := fun id d hd => h.rows id d (by rw [← hrow]; exact hd)
    keeps := fun id hd => h.keeps id (by rw [← hrow]; exact hd)
    copies := hcopies }
  · rw [hrow] at hd
    exact h.durable.consistent.path id d hd
  · rw [hrow] at hd
    rw [hmanifest] at hf
    rcases h.durable.consistent.clean id e hd hf hz with ⟨r, b, hr, hraw, hcopy⟩
    refine ⟨r, b, hr, hremote _ _ hraw, fun b' hb' => ?_⟩
    rcases hfiles (LocalStore.cachePath id e.generation) with hsame | ⟨b1, hcopy1, hb1⟩
    · rw [hsame] at hb'
      exact hcopy b' hb'
    · rcases hcopy1 with ⟨e1, r1, _, hf1, _, _, hr1, hraw1⟩
      rw [h.manifest] at hf
      have hee : some e = some e1 := hf.symm.trans hf1
      rw [← Option.some.inj hee, hr, Option.some.injEq] at hr1
      have hraw2 := h.remote _ _ hraw1
      rw [← hr1, hraw, Option.some.injEq] at hraw2
      rw [hb1, Option.some.injEq] at hb'
      rw [← hb', hraw2]
  · rw [hrow] at hd
    rcases h.durable.rows id d hd with ⟨hin, b, hb⟩
    refine ⟨hin, b, { hb with file := ?_ }⟩
    rw [hfile id d hd]
    exact hb.file
  · rw [hrow] at hd
    rw [hmanifest] at hf
    exact (h.durable.live id e hd hf hz).mono _ _ e hremote
  · rcases h.durable.stored with ⟨m, hm, hids, hsame⟩
    refine ⟨m, (LocalStore.loadManifest_congr _ _ hstate).trans hm, hids, fun id hd => ?_⟩
    rw [hmanifest]
    exact hsame id (by rw [← hrow]; exact hd)
  · -- The content is that of the row's file, or of what the entry refers to.
    rw [← h.shows id]
    rcases hd : w.store.dirtyObject id with _ | d
    · have hd' := (hrow id).trans hd
      rw [w'.content_clean raw _ _ hd', w.content_clean raw _ _ hd, hmanifest]
      rcases hf : w.manifest.find id with _ | e
      · rw [Manifest.content_none _ _ _ _ hf, Manifest.content_none _ _ _ _ hf]
      · by_cases hz : e.zero = true
        · rw [Manifest.content_zero _ _ _ _ e hf hz, Manifest.content_zero _ _ _ _ e hf hz]
        · simp only [Bool.not_eq_true] at hz
          rcases h.durable.consistent.clean id e hd hf hz with ⟨r, b, hr, hraw, _⟩
          rw [Manifest.content_remote _ _ _ _ e r hf hz hr,
            Manifest.content_remote _ _ _ _ e r hf hz hr, hraw, hremote _ _ hraw]
    · rw [w'.content_dirty raw _ _ d ((hrow id).trans hd), w.content_dirty raw _ _ d hd,
        hfile id d hd]

/-- An operation that touches the rows of the cache, the lock or the backend. -/
theorem quiet (h : Beside raw map w0 w a)
    (hwithin : w0.manifest.Within w0.manifest.generation)
    (hmanifest : w'.manifest = w.manifest)
    (hrows : w'.store.dirtyObjects = w.store.dirtyObjects)
    (hstate : w'.store.manifestState = w.store.manifestState)
    (hremote : ∀ i b, raw w.remote i = some b → raw w'.remote i = some b)
    (hfiles : w'.store.files = w.store.files) : Beside raw map w0 w' a :=
  h.aside hwithin hmanifest hrows hstate hremote fun p => Or.inl (congrFun hfiles p)

/-- A copy that is put into the cache, however far that gets. -/
theorem copied (h : Beside raw map w0 w a)
    (hwithin : w0.manifest.Within w0.manifest.generation) (id gen : Nat) (b : Bytes)
    (hcopy : CopyOf raw w0 (LocalStore.cachePath id gen) b) (k : Nat) :
    Beside raw map w0 (cutOff ((LocalOp.writeCache id gen b).effects w) k w) a := by
  refine cutOff_preserves (fun w' => Beside raw map w0 w' a) _ (fun f hf w' hw' => ?_) k w h
  simp only [LocalOp.effects, LocalStore.writeCache, List.map_cons, List.map_nil,
    List.mem_cons, List.not_mem_nil, or_false] at hf
  rcases hf with rfl | rfl
  · refine hw'.aside hwithin rfl rfl rfl (fun _ _ hb => hb) fun p => ?_
    rw [onStore, LocalStore.files_writeFile]
    by_cases hp : p = LocalStore.cachePath id gen
    · rw [if_pos hp, hp]
      exact Or.inr ⟨b, hcopy, rfl⟩
    · rw [if_neg hp]
      exact Or.inl rfl
  · exact hw'.quiet hwithin rfl rfl rfl (fun _ _ hb => hb) rfl

/-- An object that a client stored. -/
theorem dirtied {dev : BlockDevice} (h : Beside raw dev.map w0 w a)
    (hwithin : w0.manifest.Within w0.manifest.generation) (hsize : 0 < dev.map.objectSize)
    (id : Nat) (object : Bytes) (hid : id * dev.map.objectSize < dev.map.deviceSize)
    (hgen : w0.manifest.generation + 1 < 2 ^ 64)
    (hd : Dirtied id (w0.manifest.generation + 1)
      (dev.encodeDirty id (w0.manifest.generation + 1) object) w w') :
    Beside raw dev.map w0 w'
      (splice a (id * dev.map.objectSize) (padObject object dev.map.objectSize)) := by
  have hlen := length_padObject object dev.map.objectSize
  have hm : w0.manifest.generation = w.manifest.generation := by rw [h.manifest]
  refine {
    durable := ?_
    shows := fun i => ?_
    manifest := hd.manifest.trans h.manifest
    state := hd.state.trans h.state
    remote := fun i b hb => by rw [hd.remote]; exact h.remote i b hb
    rows := fun i d hrow => ?_
    keeps := fun i hnone => ?_
    copies := fun i e r b b' hnone hf hz hr hraw hb' => ?_ }
  · rw [hm] at hd hgen
    exact h.durable.dirtied dev hsize id object hid hgen hd
  · rw [hd.content h.durable.consistent, objectOf_encodeDirty]
    by_cases hi : i = id
    · rw [if_pos hi, hi]
      have hself := span_splice_self a (id * dev.map.objectSize)
        (padObject object dev.map.objectSize)
      rw [hlen] at hself
      exact hself.symm
    · rw [if_neg hi, h.shows i]
      exact (agree_splice_other dev.map.objectSize id i a 0 _ (by omega) hi).symm
  · rw [hd.rows] at hrow
    by_cases hi : i = id
    · rw [if_pos hi, Option.some.injEq] at hrow
      rw [← hrow]
      exact Or.inr rfl
    · rw [if_neg hi] at hrow
      exact h.rows i d hrow
  · rw [hd.rows] at hnone
    by_cases hi : i = id
    · rw [if_pos hi] at hnone
      cases hnone
    · rw [if_neg hi] at hnone
      exact h.keeps i hnone
  · rw [hd.files, if_neg] at hb'
    · exact h.copies i e r b b' hnone hf hz hr hraw hb'
    · intro hp
      have hle := hwithin i e hf
      have heq : e.generation = w0.manifest.generation + 1 := congrArg CachePath.generation hp
      omega

/-- An object whose file was written, and whose row was not. -/
theorem torn {dev : BlockDevice} (h : Beside raw dev.map w0 w a)
    (hwithin : w0.manifest.Within w0.manifest.generation) (hsize : 0 < dev.map.objectSize)
    (hB : Returns B raw) (id : Nat) (object : Bytes)
    (hgen : w0.manifest.generation + 1 < 2 ^ 64)
    (hs : Spare w id (w0.manifest.generation + 1)
      (dev.encodeDirty id (w0.manifest.generation + 1) object))
    (ht : Torn id (w0.manifest.generation + 1)
      (dev.encodeDirty id (w0.manifest.generation + 1) object) w w') :
    Beside raw dev.map w0 w' a where
  durable := by
    have hm : w0.manifest.generation = w.manifest.generation := by rw [h.manifest]
    rw [hm] at hs ht hgen
    exact h.durable.writeStep hB dev hsize (.torn w w' id object hgen hs ht)
  shows := fun i => (ht.content hs h.durable.consistent _ i).trans (h.shows i)
  manifest := ht.manifest.trans h.manifest
  state := ht.state.trans h.state
  remote := fun i b hb => by rw [ht.remote]; exact h.remote i b hb
  rows := fun i d hrow => h.rows i d (by rw [← ht.rows]; exact hrow)
  keeps := fun i hnone => h.keeps i (by rw [← ht.rows]; exact hnone)
  copies := by
    intro i e r b b' hnone hf hz hr hraw hb'
    rw [ht.files, if_neg] at hb'
    · exact h.copies i e r b b' hnone hf hz hr hraw hb'
    · intro hp
      have hle := hwithin i e hf
      have heq : e.generation = w0.manifest.generation + 1 := congrArg CachePath.generation hp
      omega

/-- Storing an object, however far it gets: it is stored, or nothing is. -/
theorem cut {dev : BlockDevice} (h : Beside raw dev.map w0 w a)
    (hwithin : w0.manifest.Within w0.manifest.generation) (hsize : 0 < dev.map.objectSize)
    (hB : Returns B raw) (hP : Careful P) (id offset len : Nat) (object : Bytes)
    (hid : id * dev.map.objectSize < dev.map.deviceSize)
    (hgen : w0.manifest.generation + 1 < 2 ^ 64) (k : Nat)
    (hk : P.fault (.storeDirty id (w0.manifest.generation + 1)
        (dev.encodeDirty id (w0.manifest.generation + 1) object) offset len) w k ∨
      P.crash (.storeDirty id (w0.manifest.generation + 1)
        (dev.encodeDirty id (w0.manifest.generation + 1) object) offset len) w k) :
    Beside raw dev.map w0 (cutOff ((LocalOp.storeDirty id (w0.manifest.generation + 1)
        (dev.encodeDirty id (w0.manifest.generation + 1) object) offset len).effects w) k w) a ∨
      Beside raw dev.map w0 (cutOff ((LocalOp.storeDirty id (w0.manifest.generation + 1)
          (dev.encodeDirty id (w0.manifest.generation + 1) object) offset len).effects w) k w)
        (splice a (id * dev.map.objectSize) (padObject object dev.map.objectSize)) := by
  rcases cutOff_storeDirty w id (w0.manifest.generation + 1)
    (dev.encodeDirty id (w0.manifest.generation + 1) object) offset len k with
    ⟨_, hsame⟩ | ⟨hk12, htorn⟩ | ⟨_, hdirty⟩
  · rw [hsame]
    exact Or.inl h
  · exact Or.inl (h.torn hwithin hsize hB id object hgen
      (hP id _ _ offset len w k hk12 hk) htorn)
  · exact Or.inr (h.dirtied hwithin hsize id object hid hgen hdirty)

end Beside

section Rules

variable {dev : BlockDevice} {w0 : World ρ} {Q : α → Prop}

/-- A program of a client at whose side nothing happens. -/
abbrev Unseen (B : Backend ρ) (P : Policy ρ) (raw : ρ → Int → Option Bytes) (dev : BlockDevice)
    (w0 : World ρ) (Q : α → Prop) (p : Prog deviceSig α) : Prop :=
  Silent (DeviceEnv B P) (Beside raw dev.map w0) (Beside raw dev.map w0) Q p

/-- A program of a client beside the one on the array, with the same result. -/
abbrev SeenAs (B : Backend ρ) (P : Policy ρ) (raw : ρ → Int → Option Bytes) (dev : BlockDevice)
    (w0 : World ρ) (p : Prog deviceSig α) (q : Prog objectSig α) : Prop :=
  Simulates (DeviceEnv B P) (ObjectEnv dev.map.objectSize) (Beside raw dev.map w0)
    (Beside raw dev.map w0) (fun a b => b = a) p q

/-- The rule for an operation on the disk or in memory. -/
theorem unseen_disk (l : LocalOp) (Q : l.Resp → Prop)
    (hcut : ∀ w a, Beside raw dev.map w0 w a → ∀ k,
      Beside raw dev.map w0 (cutOff (l.effects w) k w) a)
    (h : ∀ w a, Beside raw dev.map w0 w a → ∀ x, l.answer w = .ok x → Q x) :
    Unseen B P raw dev w0 Q (disk l) := by
  refine Silent.perform (S := deviceSig) (DeviceOp.disk l) Q fun w a hw =>
    ⟨fun r w' hstep => ?_, fun w' hcrash => ?_⟩
  · rcases hstep with hrun | ⟨k, msg, _, _, hr, hw'⟩
    · rcases r with msg | x
      · rw [(LocalOp.run_error l w w' msg hrun).2]
        exact ⟨hw, fun x hx => (by cases hx)⟩
      · rcases LocalOp.run_ok l w w' x hrun with ⟨hans, hw'⟩
        rw [hw', ← cutOff_length _ _ (Nat.le_refl _)]
        refine ⟨hcut w a hw _, fun y hy => ?_⟩
        rw [← Except.ok.inj hy]
        exact h w a hw x hans
    · rw [hw', hr]
      exact ⟨hcut w a hw k, fun x hx => (by cases hx)⟩
  · rcases hcrash with ⟨k, _, hw'⟩
    rw [hw']
    exact hcut w a hw k

/-- The rule for an operation without effects. -/
theorem unseen_query (l : LocalOp) (Q : l.Resp → Prop) (hnone : ∀ w : World ρ, l.effects w = [])
    (h : ∀ w a, Beside raw dev.map w0 w a → ∀ x, l.answer w = .ok x → Q x) :
    Unseen B P raw dev w0 Q (disk l) := by
  refine unseen_disk l Q (fun w a hw k => ?_) h
  rw [hnone w, cutOff_nil]
  exact hw

/-- The rule for a look into the cache. -/
theorem unseen_readCache (hwithin : w0.manifest.Within w0.manifest.generation) (id gen : Nat)
    (sha : Text) (Q : Option Bytes → Prop) (h : ∀ w a, Beside raw dev.map w0 w a →
      Q (w.store.files (LocalStore.cachePath id gen))) :
    Unseen B P raw dev w0 Q (disk (.readCache id gen sha)) := by
  refine unseen_disk (.readCache id gen sha) Q (fun w a hw k => ?_) fun w a hw x hx => ?_
  · rcases cutOff_readCache w id gen sha k with ⟨t, ht⟩
    rw [ht]
    exact hw.quiet hwithin rfl rfl rfl (fun _ _ hb => hb) rfl
  · rw [answer_readCache w id gen sha x hx]
    exact h w a hw

/-- The rule for a copy that is put into the cache. -/
theorem unseen_writeCache (hwithin : w0.manifest.Within w0.manifest.generation) (id gen : Nat)
    (b : Bytes) (hcopy : CopyOf raw w0 (LocalStore.cachePath id gen) b) :
    Unseen B P raw dev w0 (fun _ => True) (disk (.writeCache id gen b)) :=
  unseen_disk (.writeCache id gen b) _ (fun _ _ hw k => hw.copied hwithin id gen b hcopy k)
    fun _ _ _ _ _ => trivial

/-- The rule for a call to the backend. -/
theorem unseen_call (hB : Returns B raw) (hwithin : w0.manifest.Within w0.manifest.generation)
    (c : Call) (Q : c.Resp → Prop) (h : ∀ w a, Beside raw dev.map w0 w a → ∀ x s',
      B.step c w.remote (.ok x) s' → Q x) : Unseen B P raw dev w0 Q (call c) := by
  refine Silent.perform (S := deviceSig) (DeviceOp.call c) Q fun w a hw =>
    ⟨fun r w' hstep => ?_, fun w' hcrash => ?_⟩
  · rcases hstep with ⟨s', hs, rfl⟩
    refine ⟨hw.quiet hwithin rfl rfl rfl (hB.keeps c _ r s' hs) rfl, fun x hx => ?_⟩
    rw [hx] at hs
    exact h w a hw x s' hs
  · rcases hcrash with ⟨s', hs, rfl⟩
    exact hw.quiet hwithin rfl rfl rfl (hB.crashKeeps c _ s' hs) rfl

/-- The rule for decoding: what comes of it is what the bytes carry. -/
theorem unseen_decode (encoded : Bytes) (id gen : Nat) :
    Unseen B P raw dev w0 (fun env => padObject env.payload dev.map.objectSize
      = objectOf dev.map.objectSize encoded) (decodeEnvelope encoded id gen) := by
  unfold decodeEnvelope
  rcases hdec : ObjectEnvelope.decode encoded id gen with failure | env
  · exact trivial
  · exact pad_decode dev.map.objectSize encoded id gen env hdec

end Rules

section Methods

variable {dev : BlockDevice} {w0 : World ρ}

/-- Nobody changes the manifest. -/
theorem unseen_peekManifest :
    Unseen B P raw dev w0 (fun m => m = w0.manifest) (disk .peekManifest) :=
  unseen_query .peekManifest _ (fun _ => rfl) fun w _ hw m hm =>
    (answer_peekManifest w m hm).1.trans hw.manifest

/-- What a read of an object does once it has found no row: what it comes to
    is what the object was at the start. -/
theorem unseen_entry (hB : Returns B raw) (hw0 : Durable raw dev.map w0)
    (hwithin : w0.manifest.Within w0.manifest.generation) (id : Nat)
    (hd : w0.store.dirtyObject id = none) :
    Unseen B P raw dev w0 (fun object => object = w0.content raw dev.map.objectSize id)
      (disk .peekManifest >>= fun manifest =>
        Prog.ofOption (manifest.find id) s!"object {id} out of manifest range" >>= fun entry =>
          if entry.zero then pure (List.replicate dev.map.objectSize 0)
          else
            Prog.ofOption entry.remote s!"object {id} has no remote ref" >>= fun remote =>
            Prog.ofOption entry.sha256 s!"object {id} has no checksum" >>= fun sha =>
            disk (.readCache id entry.generation sha) >>= fun found => match found with
            | some cached =>
                decodeEnvelope cached id entry.generation >>= fun envelope =>
                  pure (padObject envelope.payload dev.map.objectSize)
            | none =>
                call (.fetchObject remote) >>= fun encoded =>
                Prog.ensure (sha256Hex encoded = sha)
                  s!"remote checksum mismatch for object {id}" >>= fun _ =>
                disk (.writeCache id entry.generation encoded) >>= fun _ =>
                decodeEnvelope encoded id entry.generation >>= fun envelope =>
                  pure (padObject envelope.payload dev.map.objectSize)) := by
  refine Silent.bind _ _ unseen_peekManifest fun m hm => ?_
  rw [hm]
  refine Silent.bind _ _ (Silent.ofOption _ _) fun e hf => ?_
  rw [w0.content_clean raw _ _ hd]
  by_cases hz : e.zero = true
  · rw [if_pos hz]
    exact (Manifest.content_zero _ _ _ _ e hf hz).symm
  · rw [if_neg hz]
    simp only [Bool.not_eq_true] at hz
    refine Silent.bind _ _ (Silent.ofOption _ _) fun remote hr => ?_
    refine Silent.bind _ _ (Silent.ofOption _ _) fun sha _ => ?_
    rcases hw0.consistent.clean id e hd hf hz with ⟨r, b, hr', hraw, _⟩
    rw [hr, Option.some.injEq] at hr'
    rw [← hr'] at hraw
    rw [Manifest.content_remote _ _ _ _ e remote hf hz hr, hraw, Option.getD_some]
    -- The file, if there is one, is a copy, whoever has put it there.
    refine Silent.bind _ _ (unseen_readCache hwithin id e.generation sha
      (fun found => ∀ b', found = some b' → b' = b)
      fun w a hw b' hb' => hw.copies id e remote b b' hd hf hz hr hraw hb') fun found hfound => ?_
    rcases found with _ | cached
    · refine Silent.bind _ _ (unseen_call hB hwithin (.fetchObject remote)
        (fun encoded => encoded = b) fun w a hw encoded s' hfetch => ?_) fun encoded hencoded => ?_
      · have hgot := hB.fetched remote encoded _ s' hfetch
        rw [hw.remote _ _ hraw] at hgot
        exact (Option.some.inj hgot).symm
      · rw [hencoded]
        refine Silent.bind _ _ (Silent.ensure _ _) fun _ _ => ?_
        refine Silent.bind _ _ (unseen_writeCache hwithin id e.generation b
          ⟨e, remote, hd, hf, hz, rfl, hr, hraw⟩) fun _ _ => ?_
        exact Silent.bind _ _ (unseen_decode b id e.generation) fun env henv => henv
    · rw [hfound cached rfl]
      exact Silent.bind _ _ (unseen_decode b id e.generation) fun env henv => henv

/-- A read of an object takes effect when it asks for the row. -/
theorem seenAs_readObject (hB : Returns B raw) (hw0 : Durable raw dev.map w0)
    (hwithin : w0.manifest.Within w0.manifest.generation) (id : Nat) :
    SeenAs B P raw dev w0 (dev.readObject id) (BlockDevice.getObject id) := by
  unfold BlockDevice.readObject BlockDevice.getObject
  refine Simulates.act_bind (S := deviceSig) (T := objectSig) (DeviceOp.disk (.readDirty id))
    (ObjectOp.get id) _ _ fun w a hw => ⟨fun r w' hstep => ?_, fun w' hcrash => ?_⟩
  · -- Nothing changes when the row is asked for.
    have hsame : w' = w := by
      rcases hstep with hrun | ⟨k, _, _, _, _, hw'⟩
      · rcases r with msg | x
        · exact (LocalOp.run_error (.readDirty id) w w' msg hrun).2
        · exact (LocalOp.run_ok (.readDirty id) w w' x hrun).2
      · rw [hw']
        exact cutOff_nil k w
    rw [hsame]
    rcases r with msg | found
    · exact ⟨.error msg, a, ⟨fun o ho => (by cases ho), rfl⟩, hw, rfl⟩
    · refine ⟨.ok (span a (id * dev.map.objectSize) dev.map.objectSize), a,
        ⟨fun o ho => (Except.ok.inj ho).symm, rfl⟩, hw, ?_⟩
      have hans : (LocalOp.readDirty id).answer w = .ok found := by
        rcases hstep with hrun | ⟨_, _, _, _, hr, _⟩
        · exact (LocalOp.run_ok (.readDirty id) w w' found hrun).1
        · cases hr
      rw [← hw.shows id]
      -- What is left is silent, and comes to the object as it is now.
      refine Silent.simulates _ _ (?_ : Unseen B P raw dev w0
        (fun object => object = w.content raw dev.map.objectSize id) _) (mayFail_give _ _)
        fun object hobject => ⟨_, settles_give _ _, hobject.symm⟩
      rcases answer_readDirty w id found hans with ⟨rfl, hd⟩ | ⟨d, b, rfl, hd, hb⟩
      · rw [hw.clean hw0 id hd]
        exact unseen_entry hB hw0 hwithin id (hw.keeps id hd)
      · refine Silent.bind _ _ (Silent.ensure _ _) fun _ _ => ?_
        refine Silent.bind _ _ (unseen_decode b id d.generation) fun env henv => ?_
        rw [w.content_dirty raw _ _ d hd, hb, Option.getD_some]
        exact henv
  · rcases hcrash with ⟨k, _, hw'⟩
    rw [hw', show (LocalOp.readDirty id).effects w = [] from rfl, cutOff_nil]
    exact Or.inl hw

/-- The lock around the manifest is of no account to clients that go on. -/
theorem unseen_lock (hwithin : w0.manifest.Within w0.manifest.generation) (l : LocalOp)
    (b : Bool) (hl : ∀ w : World ρ, l.effects w = [fun w => { w with locked := b }]) :
    Unseen B P raw dev w0 (fun _ => True) (disk l) := by
  refine unseen_disk l _ (fun w a hw k => ?_) fun _ _ _ _ _ => trivial
  refine cutOff_preserves (fun w' => Beside raw dev.map w0 w' a) _ (fun f hf w' hw' => ?_) k w hw
  rw [hl w, List.mem_singleton] at hf
  rw [hf]
  exact hw'.quiet hwithin rfl rfl rfl (fun _ _ hb => hb) rfl

/-- What a prefetch collects are entries of objects that were clean from the
    start. -/
theorem unseen_collectPrefetch (hwithin : w0.manifest.Within w0.manifest.generation)
    (dirtyIds ids : List Nat)
    (hids : ∀ id, id ∉ dirtyIds → w0.store.dirtyObject id = none) :
    Unseen B P raw dev w0 (fun entries => ∀ p ∈ entries, PrefetchEntry.Wanted w0 p)
      (BlockDevice.collectPrefetch dirtyIds w0.manifest ids) := by
  have hnil : ∀ p ∈ ([] : List PrefetchEntry), PrefetchEntry.Wanted w0 p :=
    fun p hp => absurd hp List.not_mem_nil
  induction ids with
  | nil => exact hnil
  | cons id rest ih =>
      unfold BlockDevice.collectPrefetch
      by_cases hdirty : id ∈ dirtyIds
      · rw [if_pos hdirty]
        exact ih
      · rw [if_neg hdirty]
        rcases hf : w0.manifest.find id with _ | e
        · exact hnil
        · rcases hz : e.zero with _ | _
          · rcases hr : e.remote with _ | remote
            · simp only [hz, hr, Bool.false_eq_true, if_false]
              exact ih
            · rcases hs : e.sha256 with _ | sha
              · simp only [hz, hr, hs, Bool.false_eq_true, if_false]
                exact ih
              · simp only [hz, hr, hs, Bool.false_eq_true, if_false]
                refine Silent.bind _ _ (unseen_readCache hwithin id e.generation sha
                  (fun _ => True) fun _ _ _ => trivial) fun found _ => ?_
                rcases found with _ | cached
                · refine Silent.bind _ _ ih fun entries hentries p hp => ?_
                  rcases List.mem_cons.mp hp with rfl | hp
                  · exact ⟨e, hids id hdirty, hf, hz, rfl, hr⟩
                  · exact hentries p hp
                · exact ih
          · simp only [hz, if_true]
            exact ih

/-- What a prefetch puts into the cache are copies. -/
theorem unseen_storePrefetched (hwithin : w0.manifest.Within w0.manifest.generation)
    (p : PrefetchEntry) (encoded : Option Bytes) (hp : PrefetchEntry.Wanted w0 p)
    (hraw : ∀ b, encoded = some b → raw w0.remote p.remote.messageId = some b) :
    Unseen B P raw dev w0 (fun _ => True) (BlockDevice.storePrefetched p encoded) := by
  rcases hp with ⟨e, hd, hf, hz, hg, hr⟩
  unfold BlockDevice.storePrefetched
  rcases encoded with _ | b
  · exact trivial
  · by_cases hsha : sha256Hex b ≠ p.sha256
    · simp only [hsha, ne_eq, not_false_eq_true, if_true]
      exact trivial
    · simp only [hsha, if_false]
      rcases ObjectEnvelope.decode b p.objectId p.generation with failure | env
      · exact trivial
      · exact unseen_writeCache hwithin p.objectId p.generation b
          ⟨e, p.remote, hd, hf, hz, hg, hr, hraw b rfl⟩

/-- A prefetch is silent. -/
theorem unseen_prefetchObjects (hB : Returns B raw) (hw0 : Durable raw dev.map w0)
    (hwithin : w0.manifest.Within w0.manifest.generation) (start count : Nat) :
    Unseen B P raw dev w0 (fun _ => True) (BlockDevice.prefetchObjects start count) := by
  unfold BlockDevice.prefetchObjects
  refine Silent.bind _ _ (unseen_query .dirtyObjects
    (fun rows => ∀ id, id ∉ rows.map DirtyObject.objectId → w0.store.dirtyObject id = none)
    (fun _ => rfl) fun w a hw rows hrows id hid => ?_) fun rows hids => ?_
  · refine hw.keeps id ?_
    rcases hd : w.store.dirtyObject id with _ | d
    · rfl
    · have hkey := w.store.objectId_of_dirtyObject id d hd
      have hmem : d ∈ rows := by
        rw [← Except.ok.inj hrows, LocalStore.mem_dirtyRows, hkey, hd]
      exact absurd (List.mem_map.mpr ⟨d, hmem, hkey⟩) hid
  · refine Silent.bind _ _ (unseen_lock hwithin .lockManifest true fun _ => rfl) fun _ _ => ?_
    refine Silent.bind _ _ (unseen_query .getManifest (fun m => m = w0.manifest) (fun _ => rfl)
      fun w a hw m hm => (Except.ok.inj hm).symm.trans hw.manifest) fun m hm => ?_
    rw [hm]
    refine Silent.bind _ _ (Silent.attempt _
      (unseen_collectPrefetch hwithin _ _ hids)) fun collected hcollected => ?_
    refine Silent.bind _ _ (unseen_lock hwithin .unlockManifest false fun _ => rfl)
      fun _ _ => ?_
    refine Silent.bind _ _ (Silent.ofExcept _) fun entries hentries => ?_
    have hwanted := hcollected entries hentries
    by_cases hempty : entries.isEmpty
    · simp only [hempty, if_true]
      exact trivial
    · simp only [hempty, if_false, Bool.false_eq_true]
      -- Each message that came is what its reference stood for at the start.
      refine Silent.bind _ _ (unseen_call hB hwithin
        (.getMessagesById (entries.map fun e => e.remote.messageId))
        (fun messages => ∀ p ∈ entries.zip messages, ∀ b, p.2 = some b →
          raw w0.remote p.1.remote.messageId = some b)
        fun w a hw messages s' hgot p hp b hb => ?_) fun messages hmessages => ?_
      · have hpair : (p.1.remote.messageId, p.2) ∈
            (entries.map (fun e => e.remote.messageId)).zip messages := by
          rw [List.zip_map_left]
          exact List.mem_map.mpr ⟨p, hp, rfl⟩
        have hnow := hB.got _ _ _ _ hgot _ hpair b hb
        rcases hwanted p.1 (List.of_mem_zip hp).1 with ⟨e, hd, hf, hz, _, hr⟩
        rcases hw0.consistent.clean p.1.objectId e hd hf hz with ⟨r, b0, hr', hraw, _⟩
        rw [hr, Option.some.injEq] at hr'
        rw [← hr'] at hraw
        rw [hw.remote _ _ hraw, Option.some.injEq] at hnow
        rw [hraw, hnow]
      · exact Silent.foldlM _ _ _ (fun _ _ p hp => unseen_storePrefetched hwithin p.1 p.2
          (hwanted p.1 (List.of_mem_zip hp).1) (hmessages p hp)) () trivial

/-- A write of an object takes effect when it stores it. -/
theorem seenAs_writeDirtyObject (hB : Returns B raw) (hP : Careful P)
    (hsize : 0 < dev.map.objectSize) (hwithin : w0.manifest.Within w0.manifest.generation)
    (id offset len : Nat) (object : Bytes)
    (hid : id * dev.map.objectSize < dev.map.deviceSize) :
    SeenAs B P raw dev w0 (dev.writeDirtyObject id object offset len)
      (Prog.perform (S := objectSig) (.put id object)) := by
  have hfail := mayFail_put dev.map.objectSize id object
  unfold BlockDevice.writeDirtyObject
  refine Silent.simulates_bind _ _ _ (unseen_query .dirtyCount (fun _ => True) (fun _ => rfl)
    fun _ _ _ _ _ => trivial) hfail fun count _ => ?_
  refine Silent.simulates_bind _ _ _ (Silent.ensure _ _) hfail fun _ _ => ?_
  refine Silent.simulates_bind _ _ _ unseen_peekManifest hfail fun m hm => ?_
  refine Silent.simulates_bind _ _ _ (Silent.ofExcept _) hfail fun gen hgen => ?_
  rcases checkedAdd_eq_ok _ _ _ hgen with ⟨rfl, hlt⟩
  rw [hm] at hlt ⊢
  refine Simulates.act (S := deviceSig) (T := objectSig) (DeviceOp.disk _) (ObjectOp.put id object)
    _ fun w a hw => ⟨fun r w' hstep => ?_, fun w' hcrash => ?_⟩
  · rcases hstep with hrun | ⟨k, msg, _, hfault, hr, hw'⟩
    · rcases r with msg | u
      · cases (LocalOp.run_error (.storeDirty id (w0.manifest.generation + 1)
          (dev.encodeDirty id (w0.manifest.generation + 1) object) offset len) w w' msg hrun).1
      · rw [(LocalOp.run_ok (.storeDirty id (w0.manifest.generation + 1)
          (dev.encodeDirty id (w0.manifest.generation + 1) object) offset len) w w' u hrun).2]
        exact ⟨.ok (), _, Or.inl rfl, hw.dirtied hwithin hsize id object hid hlt
          (applyAll_storeDirty w id _ _ offset len), rfl⟩
    · rw [hr, hw']
      rcases hw.cut hwithin hsize hB hP id offset len object hid hlt k (Or.inl hfault) with
        hnone | hstored
      · exact ⟨.error msg, a, Or.inr ⟨⟨msg, rfl⟩, rfl⟩, hnone, rfl⟩
      · exact ⟨.error msg, _, Or.inl rfl, hstored, rfl⟩
  · rcases hcrash with ⟨k, hdies, hw'⟩
    rw [hw']
    rcases hw.cut hwithin hsize hB hP id offset len object hid hlt k (Or.inr hdies) with
      hnone | hstored
    · exact Or.inl hnone
    · exact Or.inr ⟨.ok (), _, Or.inl rfl, hstored⟩

/-- The rounds of a read. -/
theorem simulates_readLoop (hB : Returns B raw) (hw0 : Durable raw dev.map w0)
    (hwithin : w0.manifest.Within w0.manifest.generation) (rounds : Nat) :
    ∀ (cursor left : Nat) (out : Bytes), Simulates (DeviceEnv B P)
      (ObjectEnv dev.map.objectSize) (Beside raw dev.map w0) (Beside raw dev.map w0)
      (fun p b => b = p.1) (dev.readLoop rounds cursor left out)
      (dev.readStrides rounds cursor left out) := by
  induction rounds with
  | zero =>
      intro cursor left out
      cases left with
      | zero => exact Simulates.pure _ _ rfl
      | succ left => exact Settles.refl _ _
  | succ rounds ih =>
      intro cursor left out
      cases left with
      | zero => exact Simulates.pure _ _ rfl
      | succ left =>
          unfold BlockDevice.readLoop BlockDevice.readStrides
          refine Simulates.bind _ _ _ _ (Simulates.ofExcept _) fun p q hq => ?_
          rw [hq.1]
          refine Simulates.bind _ _ _ _ (seenAs_readObject hB hw0 hwithin p.1)
            fun object b hb => ?_
          rw [hb]
          exact ih _ _ _

/-- The rounds of a write. -/
theorem seenAs_writeLoop (hB : Returns B raw) (hP : Careful P) (hsize : 0 < dev.map.objectSize)
    (hw0 : Durable raw dev.map w0) (hwithin : w0.manifest.Within w0.manifest.generation)
    (rounds : Nat) : ∀ (cursor : Nat) (bytes : Bytes),
      SeenAs B P raw dev w0 (dev.writeLoop rounds cursor bytes)
        (dev.writeStrides rounds cursor bytes) := by
  induction rounds with
  | zero =>
      intro cursor bytes
      cases bytes with
      | nil => exact Simulates.pure _ _ rfl
      | cons b bs => exact Settles.refl _ _
  | succ rounds ih =>
      intro cursor bytes
      cases bytes with
      | nil => exact Simulates.pure _ _ rfl
      | cons b bs =>
          unfold BlockDevice.writeLoop BlockDevice.writeStrides
          refine Simulates.bind _ _ _ _ (Simulates.ofExcept _) fun p q hq => ?_
          rcases hq with ⟨hsame, hloc⟩
          rw [hsame]
          rcases p with ⟨id, o⟩
          have hid : id * dev.map.objectSize < dev.map.deviceSize := by
            rcases locate_ok dev.map cursor id o hloc with ⟨hin, hcursor, _⟩
            omega
          dsimp only
          generalize min (bs.length + 1) (dev.map.objectSize - o) = take
          have hrest : ∀ object, SeenAs B P raw dev w0
              (dev.writeDirtyObject id (BlockDevice.overwrite object o ((b :: bs).take take)) o
                take >>= fun _ => dev.writeLoop rounds (cursor + take) ((b :: bs).drop take))
              (Prog.perform (S := objectSig)
                (.put id (BlockDevice.overwrite object o ((b :: bs).take take))) >>= fun _ =>
                  dev.writeStrides rounds (cursor + take) ((b :: bs).drop take)) :=
            fun object => Simulates.bind _ _ _ _
              (seenAs_writeDirtyObject hB hP hsize hwithin id _ _ _ hid) fun _ _ _ => ih _ _
          by_cases hfull : o = 0 ∧ take = dev.map.objectSize
          · rw [if_pos hfull, if_pos hfull]
            exact hrest _
          · rw [if_neg hfull, if_neg hfull]
            refine Simulates.bind _ _ _ _ (seenAs_readObject hB hw0 hwithin id)
              fun object b' hb' => ?_
            rw [hb']
            exact hrest object

/-- The requests of a client, beside those on the array. -/
theorem seenAs_methods (hB : Returns B raw) (hP : Careful P) (hsize : 0 < dev.map.objectSize)
    (hw0 : Durable raw dev.map w0) (hwithin : w0.manifest.Within w0.manifest.generation)
    (e : ClientOp) : SeenAs B P raw dev w0 (dev.methods e) (dev.strides e) := by
  cases e with
  | readAt offset len =>
      simp only [BlockDevice.methods, BlockDevice.strides, BlockDevice.readAt]
      refine Simulates.bind _ _ _ _ (Simulates.ofExcept _) fun stop stop' hstop => ?_
      rw [hstop.1]
      refine Simulates.bind _ _ _ _ (Simulates.ensure _ _) fun _ _ _ => ?_
      rw [← Prog.bind_pure (dev.readStrides len offset len [])]
      refine Simulates.bind _ _ _ _ (simulates_readLoop hB hw0 hwithin len offset len [])
        fun p b hb => ?_
      rcases p with ⟨out, cursor⟩
      have hend : Simulates (DeviceEnv B P) (ObjectEnv dev.map.objectSize)
          (Beside raw dev.map w0) (Beside raw dev.map w0) (fun (a : Bytes) b => b = a)
          (pure out) (pure b) := Simulates.pure out b hb
      -- What the prefetch comes to is not looked at.
      simp only []
      by_cases hmore : cursor < dev.map.deviceSize
      · rw [if_pos hmore]
        rcases dev.map.locate cursor with _ | ⟨next, o⟩
        · exact hend
        · cases o with
          | zero =>
              exact Silent.simulates_attempt_bind _ _ _
                (unseen_prefetchObjects hB hw0 hwithin next dev.readAheadObjects)
                fun _ _ => hend
          | succ o => exact hend
      · rw [if_neg hmore]
        exact hend
  | writeAt offset bytes =>
      simp only [BlockDevice.methods, BlockDevice.strides, BlockDevice.writeAt]
      refine Simulates.bind _ _ _ _ (Simulates.ofExcept _) fun stop stop' hstop => ?_
      rw [hstop.1]
      refine Simulates.bind _ _ _ _ (Simulates.ensure _ _) fun _ _ _ => ?_
      exact seenAs_writeLoop hB hP hsize hw0 hwithin bytes.length offset bytes

/-- A client on the device, beside the same client on the array. What it shares
    with other clients apart from the device is the same on both sides. -/
theorem seenAs_client {V : Signature} {υ : Type} {G : Env V υ} (hB : Returns B raw)
    (hP : Careful P) (hsize : 0 < dev.map.objectSize) (hw0 : Durable raw dev.map w0)
    (hwithin : w0.manifest.Within w0.manifest.generation) (client : Prog (clientSig.sum V) α) :
    Simulates ((DeviceEnv B P).sum G) ((ObjectEnv dev.map.objectSize).sum G)
      (Next (Beside raw dev.map w0)) (fun w a => Beside raw dev.map w0 w.1 a.1)
      (fun a b => b = a) (client.link (S := clientSig.sum V) (implLeft dev.methods))
      (client.link (S := clientSig.sum V) (implLeft dev.strides)) :=
  Simulates.link_left (U := clientSig) (fun _ => True) dev.methods dev.strides
    (fun e _ => seenAs_methods hB hP hsize hw0 hwithin e) (fun _ _ h => h) client
    (only_all (fun _ _ _ => trivial) client)

end Methods

end Crates

end TgDrive
