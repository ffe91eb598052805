import TgDrive.Core.ReadSpec

/-!
# What Writing Does

A write goes through its objects one at a time: it reads what the object was,
puts the new bytes over it and stores the result as dirty. Storing is several
effects, the file first and the row later, so an interrupted write leaves the
objects before the one in hand new, those after it old, and the one in hand in
one of three conditions: nothing happened to it, its row is there, or its file
is overwritten and its row is not.

The last is `Torn`, and whether it does harm depends on whether anything still
stands on the file. `Spare` says that nothing does, and a policy is `Careful`
when it interrupts a write between file and row only then. Under a careful
policy every object is old or new after an interruption, which is `Mixed`.

## Main definitions

* `BlockDevice.encodeDirty`: The envelope a write stores.
* `Dirtied`: The world after an object was stored as dirty.
* `Torn`: The world after its file was written and its row was not.
* `Spare`: Nothing stands on the file a write is about to overwrite.
* `Careful`: A policy that tears only spare files.
* `WriteStep`: A step on the way of a write.

## Theorems

* `Dirtied.consistent`, `Torn.consistent`: Consistency is kept.
* `Dirtied.content`: The new content of the object, and of the others.
* `wp_writeDirtyObject`: Storing one object.
* `wp_writeRound`: Storing one object of a range, and writing the rest.
* `wp_writeLoop`: Writing the objects of a range.
* `wp_writeAt`: A write puts its bytes over the array, or part of them.
-/

namespace TgDrive

open Data Effect

variable {ρ α : Type} [Crates] {B : Backend ρ} {P : Policy ρ} {raw : ρ → Int → Option Bytes}

/-- The envelope a write of an object stores. -/
def BlockDevice.encodeDirty (dev : BlockDevice) (objectId generation : Nat) (object : Bytes) :
    Bytes :=
  ObjectEnvelope.encode {
    objectId := objectId
    generation := generation
    objectSize := dev.map.objectSize
    flags := 0
    payload := padObject object dev.map.objectSize }

/-- The row of a dirty object. -/
def dirtyRow (id gen : Nat) (encoded : Bytes) : DirtyObject :=
  { objectId := id
    generation := gen
    cachePath := LocalStore.cachePath id gen
    sha256 := sha256Hex encoded }

/-- The world after an object was stored as dirty. -/
structure Dirtied (id gen : Nat) (encoded : Bytes) (w w' : World ρ) : Prop where
  manifest : w'.manifest = w.manifest
  remote : w'.remote = w.remote
  locked : w'.locked = w.locked
  state : w'.store.manifestState = w.store.manifestState
  rows : ∀ i, w'.store.dirtyObject i =
    if i = id then some (dirtyRow id gen encoded) else w.store.dirtyObject i
  files : ∀ p, w'.store.files p =
    if p = LocalStore.cachePath id gen then some encoded else w.store.files p
  count : w'.store.dirtyCount ≤ w.store.dirtyCount + 1

/-- The world after the file of an object was written, and its row was not. -/
structure Torn (id gen : Nat) (encoded : Bytes) (w w' : World ρ) : Prop where
  manifest : w'.manifest = w.manifest
  remote : w'.remote = w.remote
  locked : w'.locked = w.locked
  state : w'.store.manifestState = w.store.manifestState
  rows : ∀ i, w'.store.dirtyObject i = w.store.dirtyObject i
  files : ∀ p, w'.store.files p =
    if p = LocalStore.cachePath id gen then some encoded else w.store.files p

/-- Nothing stands on the file a write is about to overwrite, unless it is
    overwritten by what it holds. -/
structure Spare (w : World ρ) (id gen : Nat) (encoded : Bytes) : Prop where
  dirty : ∀ d, w.store.dirtyObject id = some d → d.generation = gen →
    w.store.files (LocalStore.cachePath id gen) = some encoded
  clean : ∀ e, w.store.dirtyObject id = none → w.manifest.find id = some e → e.zero = false →
    e.generation ≠ gen

/-- A policy that interrupts a write between its file and its row only when
    the file was spare. -/
def Careful (P : Policy ρ) : Prop :=
  ∀ id gen encoded offset len w k, (k = 1 ∨ k = 2) →
    (P.fault (.storeDirty id gen encoded offset len) w k ∨
      P.crash (.storeDirty id gen encoded offset len) w k) → Spare w id gen encoded

theorem length_effects_storeDirty (w : World ρ) (id gen : Nat) (encoded : Bytes)
    (offset len : Nat) :
    ((LocalOp.storeDirty id gen encoded offset len).effects w).length = 5 := rfl

/-- The states an interrupted store of a dirty object can leave. -/
theorem cutOff_storeDirty (w : World ρ) (id gen : Nat) (encoded : Bytes) (offset len k : Nat) :
    (k = 0 ∧ cutOff ((LocalOp.storeDirty id gen encoded offset len).effects w) k w = w) ∨
    ((k = 1 ∨ k = 2) ∧ Torn id gen encoded w
      (cutOff ((LocalOp.storeDirty id gen encoded offset len).effects w) k w)) ∨
    (3 ≤ k ∧ Dirtied id gen encoded w
      (cutOff ((LocalOp.storeDirty id gen encoded offset len).effects w) k w)) := by
  have hfile : ∀ p, (LocalStore.writeFile (LocalStore.cachePath id gen) encoded w.store).files p =
      if p = LocalStore.cachePath id gen then some encoded else w.store.files p :=
    LocalStore.files_writeFile _ _ _
  match k with
  | 0 => exact Or.inl ⟨rfl, rfl⟩
  | 1 =>
      refine Or.inr (Or.inl ⟨Or.inl rfl, ?_⟩)
      exact {
        manifest := rfl
        remote := rfl
        locked := rfl
        state := rfl
        rows := fun _ => rfl
        files := hfile }
  | 2 =>
      refine Or.inr (Or.inl ⟨Or.inr rfl, ?_⟩)
      exact {
        manifest := rfl
        remote := rfl
        locked := rfl
        state := rfl
        rows := fun _ => rfl
        files := hfile }
  | k + 3 =>
      refine Or.inr (Or.inr ⟨by omega, ?_⟩)
      -- The WAL rows that may follow change nothing the device reads.
      have hrow : Dirtied id gen encoded w
          (cutOff ((LocalOp.storeDirty id gen encoded offset len).effects w) 3 w) :=
        { manifest := rfl
          remote := rfl
          locked := rfl
          state := rfl
          rows := fun i => LocalStore.dirtyObject_upsertDirty _ _ i
          files := hfile
          count := by
            change (w.store.dirtyObjects.rows.filter _ ++ [_]).length ≤ _
            rw [List.length_append, List.length_singleton]
            exact Nat.succ_le_succ (List.length_filter_le _ _) }
      match k with
      | 0 => exact hrow
      | 1 => exact { hrow with }
      | k + 2 =>
          have hall : cutOff ((LocalOp.storeDirty id gen encoded offset len).effects w) (k + 5) w
              = cutOff ((LocalOp.storeDirty id gen encoded offset len).effects w) 5 w := by
            have hlen := length_effects_storeDirty w id gen encoded offset len
            rw [cutOff_length _ 5 (by omega), cutOff_length _ (k + 5) (by omega)]
          rw [hall]
          exact { hrow with }

/-- Storing a dirty object leaves the lock alone, however far it gets. -/
theorem cutOff_storeDirty_locked (w : World ρ) (id gen : Nat) (encoded : Bytes)
    (offset len k : Nat) :
    (cutOff ((LocalOp.storeDirty id gen encoded offset len).effects w) k w).locked = w.locked := by
  rcases cutOff_storeDirty w id gen encoded offset len k with ⟨_, h⟩ | ⟨_, h⟩ | ⟨_, h⟩
  · rw [h]
  · exact h.locked
  · exact h.locked

/-- The world after all effects of storing a dirty object. -/
theorem applyAll_storeDirty (w : World ρ) (id gen : Nat) (encoded : Bytes) (offset len : Nat) :
    Dirtied id gen encoded w
      (applyAll ((LocalOp.storeDirty id gen encoded offset len).effects w) w) := by
  rcases cutOff_storeDirty w id gen encoded offset len 5 with ⟨h, _⟩ | ⟨h, _⟩ | ⟨_, h⟩
  · omega
  · omega
  · rwa [cutOff_length _ 5 (by rw [length_effects_storeDirty])] at h

section Consistency

variable {w w' : World ρ} {id gen : Nat} {encoded : Bytes}

omit [Crates] in
theorem cachePath_ne (i g : Nat) (hi : i ≠ id) :
    LocalStore.cachePath i g ≠ LocalStore.cachePath id gen := by
  intro h
  exact hi (congrArg CachePath.objectId h)

theorem Dirtied.consistent (h : Dirtied id gen encoded w w') (hw : Consistent raw w) :
    Consistent raw w' where
  path := by
    intro i d hd
    rw [h.rows] at hd
    by_cases hi : i = id
    · rw [if_pos hi, Option.some.injEq] at hd
      rw [← hd, hi]
      rfl
    · rw [if_neg hi] at hd
      exact hw.path i d hd
  clean := by
    intro i e hd hf hz
    rw [h.rows] at hd
    by_cases hi : i = id
    · rw [if_pos hi] at hd
      cases hd
    · rw [if_neg hi] at hd
      rw [h.manifest] at hf
      rcases hw.clean i e hd hf hz with ⟨r, b, hr, hraw, hcopy⟩
      refine ⟨r, b, hr, by rw [h.remote]; exact hraw, fun b' hb' => ?_⟩
      rw [h.files, if_neg (cachePath_ne i _ hi)] at hb'
      exact hcopy b' hb'

/-- Storing an object gives it the new content and leaves the others theirs. -/
theorem Dirtied.content (h : Dirtied id gen encoded w w') (hw : Consistent raw w)
    (objectSize i : Nat) : w'.content raw objectSize i =
      if i = id then objectOf objectSize encoded else w.content raw objectSize i := by
  have hrow := h.rows i
  by_cases hi : i = id
  · rw [if_pos hi] at hrow ⊢
    rw [w'.content_dirty raw _ _ _ hrow, dirtyRow, h.files, if_pos rfl, Option.getD_some]
  · rw [if_neg hi] at hrow ⊢
    rcases hd : w.store.dirtyObject i with _ | d
    · rw [w'.content_clean raw _ _ (hrow.trans hd), w.content_clean raw _ _ hd, h.manifest,
        h.remote]
    · rw [w'.content_dirty raw _ _ d (hrow.trans hd), w.content_dirty raw _ _ d hd, h.files,
        hw.path i d hd, if_neg (cachePath_ne i _ hi)]

omit [Crates] in
theorem Torn.consistent (h : Torn id gen encoded w w') (hs : Spare w id gen encoded)
    (hw : Consistent raw w) : Consistent raw w' where
  path := by
    intro i d hd
    rw [h.rows] at hd
    exact hw.path i d hd
  clean := by
    intro i e hd hf hz
    rw [h.rows] at hd
    rw [h.manifest] at hf
    rcases hw.clean i e hd hf hz with ⟨r, b, hr, hraw, hcopy⟩
    refine ⟨r, b, hr, by rw [h.remote]; exact hraw, fun b' hb' => ?_⟩
    rw [h.files] at hb'
    by_cases hp : LocalStore.cachePath i e.generation = LocalStore.cachePath id gen
    · -- The file is that of a clean entry, so it was not spare.
      have hi : i = id := congrArg CachePath.objectId hp
      rw [hi] at hd hf
      exact absurd (congrArg CachePath.generation hp) (hs.clean e hd hf hz)
    · rw [if_neg hp] at hb'
      exact hcopy b' hb'

omit [Crates] in
/-- A torn write of a spare file changes no content. -/
theorem Torn.content (h : Torn id gen encoded w w') (hs : Spare w id gen encoded)
    (hw : Consistent raw w) (objectSize i : Nat) :
    w'.content raw objectSize i = w.content raw objectSize i := by
  have hrow := h.rows i
  rcases hd : w.store.dirtyObject i with _ | d
  · rw [w'.content_clean raw _ _ (hrow.trans hd), w.content_clean raw _ _ hd, h.manifest,
      h.remote]
  · rw [w'.content_dirty raw _ _ d (hrow.trans hd), w.content_dirty raw _ _ d hd, h.files,
      hw.path i d hd]
    by_cases hp : LocalStore.cachePath i d.generation = LocalStore.cachePath id gen
    · have hi : i = id := congrArg CachePath.objectId hp
      have hg : d.generation = gen := congrArg CachePath.generation hp
      rw [hi] at hd
      rw [if_pos hp, hp, hs.dirty d hd hg]
    · rw [if_neg hp]

end Consistency

/-- A step on the way of a write: the cache is filled, an object is stored as
    dirty under the next generation, or its file is torn while spare. -/
inductive WriteStep (B : Backend ρ) (raw : ρ → Int → Option Bytes) (dev : BlockDevice) :
    World ρ → World ρ → Prop
  | fill (w w' : World ρ) (h : CacheFill B raw w w') : WriteStep B raw dev w w'
  | dirtied (w w' : World ρ) (id : Nat) (object : Bytes)
      (hid : id * dev.map.objectSize < dev.map.deviceSize)
      (hgen : w.manifest.generation + 1 < 2 ^ 64)
      (h : Dirtied id (w.manifest.generation + 1)
        (dev.encodeDirty id (w.manifest.generation + 1) object) w w') :
      WriteStep B raw dev w w'
  | torn (w w' : World ρ) (id : Nat) (object : Bytes)
      (hgen : w.manifest.generation + 1 < 2 ^ 64)
      (hs : Spare w id (w.manifest.generation + 1)
        (dev.encodeDirty id (w.manifest.generation + 1) object))
      (h : Torn id (w.manifest.generation + 1)
        (dev.encodeDirty id (w.manifest.generation + 1) object) w w') :
      WriteStep B raw dev w w'

/-- The steps of a write. -/
abbrev Wrote (B : Backend ρ) (raw : ρ → Int → Option Bytes) (dev : BlockDevice) :
    World ρ → World ρ → Prop := Relation.ReflTransGen (WriteStep B raw dev)

/-- The outcome of storing one object. -/
structure ObjectWritten (B : Backend ρ) (P : Policy ρ) (raw : ρ → Int → Option Bytes)
    (dev : BlockDevice) (id : Nat) (object : Bytes) (w : World ρ) (r : Except String Unit)
    (w' : World ρ) : Prop where
  steps : Wrote B raw dev w w'
  locked : w'.locked = w.locked
  whole : r = .ok () → w.manifest.generation + 1 < 2 ^ 64 ∧
    Dirtied id (w.manifest.generation + 1)
      (dev.encodeDirty id (w.manifest.generation + 1) object) w w'
  either : (∀ i, w'.content raw dev.map.objectSize i = w.content raw dev.map.objectSize i) ∨
    ∀ i, w'.content raw dev.map.objectSize i =
      if i = id then padObject object dev.map.objectSize
      else w.content raw dev.map.objectSize i
  answers : ∀ msg, r = .error msg → (∀ l w k, ¬P.fault l w k) → w.locked = false →
    w.store.dirtyCount < dev.maxDirtyObjects → ¬w.manifest.generation + 1 < 2 ^ 64

/-- An encoded dirty object carries the object that was put in. -/
theorem objectOf_encodeDirty (dev : BlockDevice) (id gen : Nat) (object : Bytes) :
    objectOf dev.map.objectSize (dev.encodeDirty id gen object)
      = padObject object dev.map.objectSize := by
  rw [objectOf, BlockDevice.encodeDirty, drop_encode, padObject_self _ _ (length_padObject _ _)]

/-- What an interrupted store of an object leaves, under a careful policy. -/
theorem storeDirty_cut (hP : Careful P) (dev : BlockDevice) (id offset len : Nat)
    (object : Bytes) (w : World ρ) (hw : Consistent raw w)
    (hid : id * dev.map.objectSize < dev.map.deviceSize)
    (hgen : w.manifest.generation + 1 < 2 ^ 64) (k : Nat) (encoded : Bytes)
    (henc : encoded = dev.encodeDirty id (w.manifest.generation + 1) object)
    (hk : P.fault (.storeDirty id (w.manifest.generation + 1) encoded offset len) w k ∨
      P.crash (.storeDirty id (w.manifest.generation + 1) encoded offset len) w k) :
    Wrote B raw dev w (cutOff ((LocalOp.storeDirty id (w.manifest.generation + 1) encoded offset
      len).effects w) k w) ∧
    ((∀ i, (cutOff ((LocalOp.storeDirty id (w.manifest.generation + 1) encoded offset
        len).effects w) k w).content raw dev.map.objectSize i
          = w.content raw dev.map.objectSize i) ∨
      ∀ i, (cutOff ((LocalOp.storeDirty id (w.manifest.generation + 1) encoded offset
        len).effects w) k w).content raw dev.map.objectSize i =
          if i = id then padObject object dev.map.objectSize
          else w.content raw dev.map.objectSize i) := by
  rcases cutOff_storeDirty w id (w.manifest.generation + 1) encoded offset len k with
    ⟨_, hsame⟩ | ⟨hk12, htorn⟩ | ⟨_, hdirty⟩
  · rw [hsame]
    exact ⟨.refl, Or.inl fun _ => rfl⟩
  · have hspare := hP id _ encoded offset len w k hk12 hk
    refine ⟨.single ?_, Or.inl (htorn.content hspare hw dev.map.objectSize)⟩
    rw [henc] at htorn hspare ⊢
    exact .torn _ _ id object hgen hspare htorn
  · refine ⟨.single ?_, Or.inr fun i => ?_⟩
    · rw [henc] at hdirty ⊢
      exact .dirtied _ _ id object hid hgen hdirty
    · rw [hdirty.content hw, henc, objectOf_encodeDirty]

/-- The last operation of a write, which stores the object. -/
theorem wp_storeDirty (hP : Careful P) (dev : BlockDevice) (id offset len : Nat)
    (object : Bytes) (w : World ρ) (hw : Consistent raw w)
    (hid : id * dev.map.objectSize < dev.map.deviceSize)
    (hgen : w.manifest.generation + 1 < 2 ^ 64) :
    wp (DeviceEnv B P) (disk (.storeDirty id (w.manifest.generation + 1)
        (dev.encodeDirty id (w.manifest.generation + 1) object) offset len))
      (ObjectWritten B P raw dev id object w)
      (fun w' => Wrote B raw dev w w' ∧
        ((∀ i, w'.content raw dev.map.objectSize i = w.content raw dev.map.objectSize i) ∨
          ∀ i, w'.content raw dev.map.objectSize i =
            if i = id then padObject object dev.map.objectSize
            else w.content raw dev.map.objectSize i)) w := by
  generalize henc : dev.encodeDirty id (w.manifest.generation + 1) object = encoded
  refine (wp_perform (S := deviceSig) _ _ _ w).mpr ⟨fun r w' hstep => ?_, fun w' hc => ?_⟩
  · rcases hstep with hrun | ⟨k, msg, _, hp, hr, hw'⟩
    · have hall := applyAll_storeDirty w id (w.manifest.generation + 1) encoded offset len
      rw [(Prod.mk.inj hrun).2, (Prod.mk.inj hrun).1]
      have hcontent : ∀ i, (applyAll ((LocalOp.storeDirty id (w.manifest.generation + 1) encoded
          offset len).effects w) w).content raw dev.map.objectSize i =
            if i = id then padObject object dev.map.objectSize
            else w.content raw dev.map.objectSize i := by
        intro i
        rw [hall.content hw, ← henc, objectOf_encodeDirty]
      rw [← henc] at hall hcontent ⊢
      exact {
        steps := .single (.dirtied _ _ id object hid hgen hall)
        locked := hall.locked
        whole := fun _ => ⟨hgen, hall⟩
        either := Or.inr hcontent
        answers := fun msg hmsg => (by cases hmsg) }
    · rcases storeDirty_cut (B := B) hP dev id offset len object w hw hid hgen k encoded
        henc.symm (Or.inl hp) with ⟨hsteps, heither⟩
      rw [hw', hr]
      exact {
        steps := hsteps
        locked := cutOff_storeDirty_locked w id _ encoded offset len k
        whole := fun hok => (by cases hok)
        either := heither
        answers := fun _ _ hnone => absurd hp (hnone _ _ _) }
  · rcases hc with ⟨k, hp, hw'⟩
    rw [hw']
    exact storeDirty_cut hP dev id offset len object w hw hid hgen k encoded henc.symm
      (Or.inr hp)

/-- Storing one object. -/
theorem wp_writeDirtyObject (hP : Careful P) (dev : BlockDevice) (id offset len : Nat)
    (object : Bytes) (w : World ρ) (hw : Consistent raw w)
    (hid : id * dev.map.objectSize < dev.map.deviceSize) :
    wp (DeviceEnv B P) (dev.writeDirtyObject id object offset len)
      (ObjectWritten B P raw dev id object w)
      (fun w' => Wrote B raw dev w w' ∧
        ((∀ i, w'.content raw dev.map.objectSize i = w.content raw dev.map.objectSize i) ∨
          ∀ i, w'.content raw dev.map.objectSize i =
            if i = id then padObject object dev.map.objectSize
            else w.content raw dev.map.objectSize i)) w := by
  have hstay : ∀ msg, ((∀ l w k, ¬P.fault l w k) → w.locked = false →
      w.store.dirtyCount < dev.maxDirtyObjects → ¬w.manifest.generation + 1 < 2 ^ 64) →
      ObjectWritten B P raw dev id object w (.error msg) w := fun msg hno =>
    { steps := .refl
      locked := rfl
      whole := fun hr => (by cases hr)
      either := Or.inl fun _ => rfl
      answers := fun _ _ => hno }
  unfold BlockDevice.writeDirtyObject
  refine wp_query .dirtyCount _ _ _ w rfl (fun count hcount => ?_)
    (fun msg hmsg => (by cases hmsg)) (fun k msg hfault => ?_) ⟨.refl, Or.inl fun _ => rfl⟩
  · rw [← Except.ok.inj hcount]
    refine wp_ensure_bind _ _ _ _ _ _ (fun _ => ?_) (fun hfull => ?_)
    · refine wp_memory .peekManifest _ _ _ w rfl (fun m hm => ?_) (fun msg hmsg => ?_)
        (fun k => ?_)
      · rw [(answer_peekManifest w m hm).1]
        refine wp_ofExcept_bind _ _ _ _ _ (fun gen hgen => ?_) (fun msg hmsg => ?_)
        · rcases checkedAdd_eq_ok _ _ gen hgen with ⟨rfl, hlt⟩
          exact wp_storeDirty hP dev id offset len object w hw hid hlt
        · refine hstay msg fun _ _ _ hlt => ?_
          unfold checkedAdd at hmsg
          rw [if_pos hlt] at hmsg
          cases hmsg
      · refine hstay msg fun _ hl => ?_
        rw [answer_peekManifest_error w msg hmsg] at hl
        exact absurd hl (by simp only [Bool.true_eq_false, not_false_eq_true])
      · rw [show LocalOp.peekManifest.effects w = [] from rfl, cutOff_nil]
        exact ⟨.refl, Or.inl fun _ => rfl⟩
    · refine hstay _ fun _ _ hroom => ?_
      simp only [decide_eq_false_iff_not] at hfull
      exact absurd hroom hfull
  · exact hstay msg fun hnone => absurd hfault (hnone _ _ _)

/-- A write step keeps a world consistent. -/
theorem WriteStep.consistent (hB : Returns B raw) (dev : BlockDevice) (w w' : World ρ)
    (h : WriteStep B raw dev w w') (hw : Consistent raw w) : Consistent raw w' := by
  cases h with
  | fill h => exact CacheFill.consistent hB w w' h hw
  | dirtied id object _ _ h => exact h.consistent hw
  | torn id object _ hs h => exact h.consistent hs hw

theorem Wrote.consistent (hB : Returns B raw) (dev : BlockDevice) (w w' : World ρ)
    (h : Wrote B raw dev w w') (hw : Consistent raw w) : Consistent raw w' := by
  induction h with
  | refl => exact hw
  | tail _ hstep ih => exact WriteStep.consistent hB dev _ _ hstep ih

omit [Crates] in
/-- The array after bytes were put over one object. -/
theorem shows_overwritten (objectSize id o : Nat) (w : World ρ) (a : Nat → UInt8)
    (object chunk : Bytes) (w' : World ρ) (ha : Shows raw objectSize w a)
    (hfit : o + chunk.length ≤ objectSize)
    (hobject : BlockDevice.overwrite object o chunk
      = span (splice a (id * objectSize + o) chunk) (id * objectSize) objectSize)
    (h : ∀ i, w'.content raw objectSize i =
      if i = id then padObject (BlockDevice.overwrite object o chunk) objectSize
      else w.content raw objectSize i) :
    Shows raw objectSize w' (splice a (id * objectSize + o) chunk) := by
  intro i
  rw [h i]
  by_cases hi : i = id
  · rw [if_pos hi, hobject, padObject_self _ _ (length_span _ _ _), hi]
  · rw [if_neg hi, ha i]
    exact (agree_splice_other objectSize id i a o chunk hfit hi).symm

/-- The outcome of writing a range. -/
structure RangeWritten (B : Backend ρ) (P : Policy ρ) (raw : ρ → Int → Option Bytes)
    (dev : BlockDevice) (a : Nat → UInt8) (offset : Nat) (bytes : Bytes) (w : World ρ)
    (r : Except String Unit) (w' : World ρ) : Prop where
  steps : Wrote B raw dev w w'
  locked : w'.locked = w.locked
  whole : r = .ok () → Shows raw dev.map.objectSize w' (splice a offset bytes)
  part : ∃ c, Mixed dev.map.objectSize a (splice a offset bytes) c ∧
    Shows raw dev.map.objectSize w' c
  answers : ∀ msg, r = .error msg → Smooth B P raw → w.locked = false →
    0 < dev.map.objectSize → offset + bytes.length ≤ dev.map.deviceSize →
    w.store.dirtyCount + bytes.length ≤ dev.maxDirtyObjects →
    w.manifest.generation + 1 < 2 ^ 64 →
    ¬∀ id, id * dev.map.objectSize < dev.map.deviceSize → Readable raw w id

/-- What a write stores can be decoded. -/
theorem decode_encodeDirty (dev : BlockDevice) (id gen : Nat) (object : Bytes)
    (hid : id < 2 ^ 64) (hgen : gen < 2 ^ 64) :
    ∃ env, ObjectEnvelope.decode (dev.encodeDirty id gen object) id gen = .ok env := by
  have hsize := dev.map.objectSize_lt
  refine ⟨_, decode_encode _ ?_⟩
  exact {
    objectId := hid
    generation := hgen
    objectSize := hsize
    flags := by norm_num
    length := by
      rw [length_padObject, objectHeaderLen]
      omega }

/-- Storing an object leaves readable objects readable. -/
theorem Readable.dirtied (dev : BlockDevice) (id gen : Nat) (object : Bytes) (w w' : World ρ)
    (hw : Consistent raw w) (h : Dirtied id gen (dev.encodeDirty id gen object) w w')
    (hid : id < 2 ^ 64) (hgen : gen < 2 ^ 64) (i : Nat) (hi : i ≠ id → Readable raw w i) :
    Readable raw w' i where
  dirty := by
    intro d hd
    rw [h.rows] at hd
    by_cases hid' : i = id
    · rw [if_pos hid', Option.some.injEq] at hd
      rcases decode_encodeDirty dev id gen object hid hgen with ⟨env, henv⟩
      refine ⟨dev.encodeDirty id gen object, env, ?_, ?_, ?_⟩
      · rw [h.files, ← hd, dirtyRow, if_pos rfl]
      · rw [← hd, dirtyRow]
      · rw [← hd, hid', dirtyRow]
        exact henv
    · rw [if_neg hid'] at hd
      rcases (hi hid').dirty d hd with ⟨b, env, hb, hsha, henv⟩
      refine ⟨b, env, ?_, hsha, henv⟩
      rw [h.files, hw.path i d hd, if_neg (cachePath_ne i _ hid'), ← hb, hw.path i d hd]
  clean := by
    intro hd
    rw [h.rows] at hd
    by_cases hid' : i = id
    · rw [if_pos hid'] at hd
      cases hd
    · rw [if_neg hid'] at hd
      rcases (hi hid').clean hd with ⟨e, hf, hl⟩
      exact ⟨e, by rw [h.manifest, hf], fun hz => by rw [h.remote]; exact hl hz⟩

/-- One round of a write, with the object in hand: it is stored, and the rest is
    a shorter write that leaves it alone. -/
theorem wp_writeRound (hB : Returns B raw) (hP : Careful P) (dev : BlockDevice) (rounds : Nat)
    (id o cursor : Nat) (chunk rest : Bytes) (w : World ρ) (a : Nat → UInt8)
    (hw : Consistent raw w) (ha : Shows raw dev.map.objectSize w a)
    (hidlt : id * dev.map.objectSize < dev.map.deviceSize)
    (hcur : cursor = id * dev.map.objectSize + o) (hchunk : 0 < chunk.length)
    (hfit : o + chunk.length ≤ dev.map.objectSize)
    (hlater : Agree dev.map.objectSize id (splice a cursor (chunk ++ rest)) (splice a cursor chunk))
    (hrest : ∀ w2, Consistent raw w2 → Shows raw dev.map.objectSize w2 (splice a cursor chunk) →
      wp (DeviceEnv B P) (dev.writeLoop rounds (cursor + chunk.length) rest)
        (RangeWritten B P raw dev (splice a cursor chunk) (cursor + chunk.length) rest w2)
        (fun w' => Wrote B raw dev w2 w' ∧
          ∃ c, Mixed dev.map.objectSize (splice a cursor chunk)
            (splice (splice a cursor chunk) (cursor + chunk.length) rest) c ∧
            Shows raw dev.map.objectSize w' c) w2)
    (object : Bytes) (w1 : World ρ) (hfill : CacheFill B raw w w1) (hlock : w1.locked = w.locked)
    (hobject : BlockDevice.overwrite object o chunk =
      span (splice a (id * dev.map.objectSize + o) chunk) (id * dev.map.objectSize)
        dev.map.objectSize) :
    wp (DeviceEnv B P)
      (dev.writeDirtyObject id (BlockDevice.overwrite object o chunk) o chunk.length >>= fun _ =>
        dev.writeLoop rounds (cursor + chunk.length) rest)
      (RangeWritten B P raw dev a cursor (chunk ++ rest) w)
      (fun w' => Wrote B raw dev w w' ∧
        ∃ c, Mixed dev.map.objectSize a (splice a cursor (chunk ++ rest)) c ∧
          Shows raw dev.map.objectSize w' c) w1 := by
  have hsplit := splice_append a cursor chunk rest
  have hw1 := CacheFill.consistent hB w w1 hfill hw
  have ha1 := CacheFill.shows hB _ w w1 hfill hw a ha
  have hsteps1 : Wrote B raw dev w w1 := .single (.fill w w1 hfill)
  have hcount : w1.store.dirtyCount = w.store.dirtyCount := by
    rw [LocalStore.dirtyCount, LocalStore.dirtyCount, hfill.rows]
  have hothers : ∀ i, i ≠ id → Agree dev.map.objectSize i (splice a cursor chunk) a := by
    intro i hi
    rw [hcur]
    exact agree_splice_other _ id i a o _ hfit hi
  -- An interrupted store leaves this object old or new.
  have hpart : ∀ w', ((∀ i, w'.content raw dev.map.objectSize i
        = w1.content raw dev.map.objectSize i) ∨
      ∀ i, w'.content raw dev.map.objectSize i = if i = id then
        padObject (BlockDevice.overwrite object o chunk) dev.map.objectSize
        else w1.content raw dev.map.objectSize i) →
      ∃ c, Mixed dev.map.objectSize a (splice a cursor (chunk ++ rest)) c ∧
        Shows raw dev.map.objectSize w' c := by
    intro w' heither
    rcases heither with hold | hnew
    · exact ⟨a, Mixed.left _ _ _, fun i => (hold i).trans (ha1 i)⟩
    · refine ⟨splice a cursor chunk, ?_, ?_⟩
      · exact mixed_trans_left _ id a (splice a cursor chunk) _ _ hothers hlater (Mixed.left _ _ _)
      · rw [hcur]
        exact shows_overwritten _ id o w1 a object _ w' ha1 hfit hobject hnew
  refine wp_seq _ _ _ _ _ _ _ (wp_writeDirtyObject hP dev id o chunk.length _ w1 hw1 hidlt)
    (fun _ w2 hr => ?_) (fun msg w2 hr => ?_) (fun w2 hc => ?_)
  · -- The object is stored, and the rest is written.
    rcases hr.whole rfl with ⟨hgen, hdirty⟩
    have hw2 := Wrote.consistent hB dev w1 w2 hr.steps hw1
    have ha2 : Shows raw dev.map.objectSize w2 (splice a cursor chunk) := by
      rw [hcur]
      refine shows_overwritten _ id o w1 a object _ w2 ha1 hfit hobject fun i => ?_
      rw [hdirty.content hw1, objectOf_encodeDirty]
    have hmix : ∀ c, Mixed dev.map.objectSize (splice a cursor chunk)
        (splice (splice a cursor chunk) (cursor + chunk.length) rest) c →
        Mixed dev.map.objectSize a (splice a cursor (chunk ++ rest)) c := by
      intro c hc
      rw [hsplit] at hc
      exact mixed_trans_left _ id a _ _ c hothers hlater hc
    refine wp_mono _ _ _ _ _ (fun r w3 hpost => ?_) (fun w3 hpost => ?_) _ (hrest w2 hw2 ha2)
    · rcases hpost.part with ⟨c, hc, hshow⟩
      refine ⟨hsteps1.trans (hr.steps.trans hpost.steps),
        hpost.locked.trans (hr.locked.trans hlock), fun hok => ?_, ⟨c, hmix c hc, hshow⟩, ?_⟩
      · rw [← hsplit]
        exact hpost.whole hok
      · intro msg hmsg hsmooth hl hpos hle hroom hg hread
        have hcount2 := hdirty.count
        have hgen2 : w2.manifest.generation = w.manifest.generation := by
          rw [hdirty.manifest, hfill.manifest]
        have hds := dev.map.deviceSize_lt
        have hmul : id * 1 ≤ id * dev.map.objectSize := Nat.mul_le_mul_left id hpos
        rw [List.length_append] at hle hroom
        refine hpost.answers msg hmsg hsmooth (hdirty.locked.trans (hlock.trans hl))
          hpos (by omega) (by omega) (by omega) fun i hi => ?_
        exact Readable.dirtied dev id _ _ w1 w2 hw1 hdirty (by omega) hgen i
          fun _ => Readable.fill hB w w1 hw hfill i (hread i hi)
    · rcases hpost with ⟨hsteps, c, hc, hshow⟩
      exact ⟨hsteps1.trans (hr.steps.trans hsteps), c, hmix c hc, hshow⟩
  · -- The object was not stored, or not wholly.
    refine ⟨hsteps1.trans hr.steps, hr.locked.trans hlock, fun hok => (by cases hok),
      hpart w2 hr.either, ?_⟩
    intro _ _ hsmooth hl hpos _ hroom hg _
    rw [List.length_append] at hroom
    refine hr.answers msg rfl hsmooth.noFault (hlock.trans hl) (by omega) ?_
    rw [hfill.manifest]
    exact hg
  · exact ⟨hsteps1.trans hc.1, hpart w2 hc.2⟩

/-- The rounds of a write. Each puts its bytes over one object, and what is
    left is a shorter write that does not come back to it. -/
theorem wp_writeLoop (hB : Returns B raw) (hP : Careful P) (dev : BlockDevice) (rounds : Nat) :
    ∀ (cursor : Nat) (bytes : Bytes) (w : World ρ) (a : Nat → UInt8),
      bytes.length ≤ rounds → Consistent raw w → Shows raw dev.map.objectSize w a →
      wp (DeviceEnv B P) (dev.writeLoop rounds cursor bytes)
        (RangeWritten B P raw dev a cursor bytes w)
        (fun w' => Wrote B raw dev w w' ∧
          ∃ c, Mixed dev.map.objectSize a (splice a cursor bytes) c ∧
            Shows raw dev.map.objectSize w' c) w := by
  induction rounds with
  | zero =>
      intro cursor bytes w a hrounds hw ha
      cases bytes with
      | nil =>
          refine ⟨.refl, rfl, fun _ => ?_, ⟨a, Mixed.left _ _ _, ha⟩, fun _ hr => (by cases hr)⟩
          rw [splice_nil]
          exact ha
      | cons b bs => exact absurd hrounds (Nat.not_succ_le_zero _)
  | succ rounds ih =>
      intro cursor bytes w a hrounds hw ha
      cases bytes with
      | nil =>
          refine ⟨.refl, rfl, fun _ => ?_, ⟨a, Mixed.left _ _ _, ha⟩, fun _ hr => (by cases hr)⟩
          rw [splice_nil]
          exact ha
      | cons b bs =>
          have hstay : ∀ msg, (Smooth B P raw → w.locked = false → 0 < dev.map.objectSize →
              cursor + (b :: bs).length ≤ dev.map.deviceSize →
              ¬∀ id, id * dev.map.objectSize < dev.map.deviceSize → Readable raw w id) →
              RangeWritten B P raw dev a cursor (b :: bs) w (.error msg) w := fun msg hno =>
            { steps := .refl
              locked := rfl
              whole := fun hr => (by cases hr)
              part := ⟨a, Mixed.left _ _ _, ha⟩
              answers := fun _ _ h1 h2 h3 h4 _ _ => hno h1 h2 h3 h4 }
          unfold BlockDevice.writeLoop
          refine wp_ofExcept_bind _ _ _ _ _ (fun loc hloc => ?_) (fun msg hmsg => ?_)
          · rcases loc with ⟨id, o⟩
            rcases locate_ok dev.map cursor id o hloc with ⟨hin, hcur, ho⟩
            have hidlt : id * dev.map.objectSize < dev.map.deviceSize := by omega
            dsimp only
            generalize htake : min (bs.length + 1) (dev.map.objectSize - o) = take
            have hchunk : ((b :: bs).take take).length = take := by
              rw [List.length_take, List.length_cons]
              omega
            have hshorter : ((b :: bs).drop take).length ≤ rounds := by
              rw [List.length_cons] at hrounds
              rw [List.length_drop, List.length_cons]
              omega
            have hfit : o + ((b :: bs).take take).length ≤ dev.map.objectSize := by omega
            have hsplit : splice (splice a cursor ((b :: bs).take take)) (cursor + take)
                ((b :: bs).drop take) = splice a cursor (b :: bs) := by
              have happ := splice_append a cursor ((b :: bs).take take) ((b :: bs).drop take)
              rwa [hchunk, List.take_append_drop] at happ
            -- What comes after the object in hand leaves it alone.
            have hlater : Agree dev.map.objectSize id (splice a cursor (b :: bs))
                (splice a cursor ((b :: bs).take take)) := by
              rw [← hsplit]
              by_cases hlast : (b :: bs).drop take = []
              · rw [hlast, splice_nil]
                rfl
              · refine agree_splice _ id _ _ _ (Or.inl ?_)
                have hpos := List.length_pos_iff.mpr hlast
                have hnext : (id + 1) * dev.map.objectSize
                    = id * dev.map.objectSize + dev.map.objectSize := Nat.succ_mul _ _
                rw [List.length_drop, List.length_cons] at hpos
                omega
            have hround := wp_writeRound hB hP dev rounds id o cursor ((b :: bs).take take)
              ((b :: bs).drop take) w a hw ha hidlt hcur (by omega) hfit
              (by rw [List.take_append_drop]; exact hlater)
              (fun w2 hw2 ha2 => ih _ _ w2 _ hshorter hw2 ha2)
            rw [hchunk, List.take_append_drop] at hround
            by_cases hfull : o = 0 ∧ take = dev.map.objectSize
            · rw [if_pos hfull]
              -- The whole object is covered, so what it was does not matter.
              refine hround _ w (CacheFill.refl w) rfl ?_
              rw [span_splice_within _ _ _ o _ hfit, hfull.1, BlockDevice.overwrite,
                List.take_zero, List.take_zero, List.drop_of_length_le, List.drop_of_length_le]
              · rw [length_span, hchunk]
                omega
              · rw [List.length_replicate, hchunk]
                omega
            · rw [if_neg hfull]
              refine wp_seq _ _ _ _ _ _ _ (wp_readObject hB dev id w hw) (fun object w1 hr => ?_)
                (fun msg w1 hr => ?_) (fun w1 hc => ?_)
              · refine hround object w1 hr.fill hr.locked ?_
                rw [span_splice_within _ _ _ o _ hfit, hr.answer object rfl, ha id]
                rfl
              · refine ⟨.single (.fill w w1 hr.fill), hr.locked, fun hok => (by cases hok),
                  ⟨a, Mixed.left _ _ _, CacheFill.shows hB _ w w1 hr.fill hw a ha⟩, ?_⟩
                intro _ _ hsmooth hl _ _ _ _ hread
                exact hr.answers msg rfl hsmooth hl (hread id hidlt)
              · exact ⟨.single (.fill w w1 hc), a, Mixed.left _ _ _,
                  CacheFill.shows hB _ w w1 hc hw a ha⟩
          · refine hstay msg fun _ _ hpos hle => ?_
            have hout := locate_error dev.map cursor msg hmsg hpos
            rw [List.length_cons] at hle
            omega

/-- A write puts its bytes over the array, or over some of its objects. -/
theorem wp_writeAt (hB : Returns B raw) (hP : Careful P) (dev : BlockDevice) (a : Nat → UInt8)
    (offset : Nat) (bytes : Bytes) (w : World ρ) (hw : Consistent raw w)
    (ha : Shows raw dev.map.objectSize w a) :
    wp (DeviceEnv B P) (dev.writeAt offset bytes) (RangeWritten B P raw dev a offset bytes w)
      (fun w' => Wrote B raw dev w w' ∧
        ∃ c, Mixed dev.map.objectSize a (splice a offset bytes) c ∧
          Shows raw dev.map.objectSize w' c) w := by
  have hsize := dev.map.deviceSize_lt
  have hstay : ∀ msg, ¬offset + bytes.length ≤ dev.map.deviceSize →
      RangeWritten B P raw dev a offset bytes w (.error msg) w := fun msg hout =>
    { steps := .refl
      locked := rfl
      whole := fun hr => (by cases hr)
      part := ⟨a, Mixed.left _ _ _, ha⟩
      answers := fun _ _ _ _ _ hle => absurd hle hout }
  unfold BlockDevice.writeAt
  refine wp_ofExcept_bind _ _ _ _ _ (fun stop hstop => ?_) (fun msg hmsg => ?_)
  · rcases checkedAdd_eq_ok offset bytes.length stop hstop with ⟨rfl, _⟩
    refine wp_ensure_bind _ _ _ _ _ _ (fun _ => ?_) (fun hbad => ?_)
    · exact wp_writeLoop hB hP dev bytes.length offset bytes w a (Nat.le_refl _) hw ha
    · exact hstay _ (by simpa only [decide_eq_false_iff_not] using hbad)
  · refine hstay msg fun hle => ?_
    unfold checkedAdd at hmsg
    rw [if_pos (by omega)] at hmsg
    cases hmsg

end TgDrive
