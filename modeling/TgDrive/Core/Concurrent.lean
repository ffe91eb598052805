import TgDrive.Core.CrashSafety
import TgDrive.Core.Integrity
import TgDrive.Effect.Interleave

/-!
# Writes at the Same Time

Several writes on one device, each from a client of its own. A write of part
of an object reads the object, puts its bytes over it and stores the whole,
and nothing keeps another client from storing the same object in between. So
what matters is not whether the ranges meet but whether the objects do: of two
writes to different halves of one object the later store undoes the earlier.

`Apart` is the relation of the argument. It says that a stretch of a run
changed nothing but certain objects, and a write guarantees it of the objects
its range touches. Every other write, as long as it touches none of these, can
rely on what it has seen of its own objects, and stores them as if it were
alone.

## Main definitions

* `Apart`: Nothing changed but objects out of a set.
* `InOrder`: An object whose row, file and entry fit together.
* `Mine`: What a write knows of its own objects.
* `Yields`: What the reads of a device return.

## Theorems

* `Durable.apart`: What is apart stays in order.
* `among_readObject`, `among_writeDirtyObject`: The two halves of a round.
* `among_writeAt`: A write puts its bytes over its objects, among others.
* `writes_survive`: Writes that share no object all survive.
-/

namespace TgDrive

open Data Effect

section Crates

variable {ρ α ι : Type} [Crates] {B : Backend ρ} {P : Policy ρ} {raw : ρ → Int → Option Bytes}

/-- Nothing changed between two worlds but objects out of a set, and none of
    them lost its row. -/
structure Apart (raw : ρ → Int → Option Bytes) (O : Set Nat) (w w' : World ρ) : Prop where
  manifest : w'.manifest = w.manifest
  locked : w'.locked = w.locked
  state : w'.store.manifestState = w.store.manifestState
  remote : ∀ i b, raw w.remote i = some b → raw w'.remote i = some b
  rows : ∀ id, id ∉ O → w'.store.dirtyObject id = w.store.dirtyObject id
  files : ∀ p : CachePath, p.objectId ∉ O → w'.store.files p = w.store.files p
  keeps : ∀ id, w'.store.dirtyObject id = none → w.store.dirtyObject id = none

namespace Apart

variable {O O' : Set Nat} {w w' w'' : World ρ}

omit [Crates] in
theorem refl (w : World ρ) : Apart raw O w w where
  manifest := rfl
  locked := rfl
  state := rfl
  remote := fun _ _ h => h
  rows := fun _ _ => rfl
  files := fun _ _ => rfl
  keeps := fun _ h => h

omit [Crates] in
theorem trans (h : Apart raw O w w') (h' : Apart raw O w' w'') : Apart raw O w w'' where
  manifest := h'.manifest.trans h.manifest
  locked := h'.locked.trans h.locked
  state := h'.state.trans h.state
  remote := fun i b hb => h'.remote i b (h.remote i b hb)
  rows := fun id hid => (h'.rows id hid).trans (h.rows id hid)
  files := fun p hp => (h'.files p hp).trans (h.files p hp)
  keeps := fun id hid => h.keeps id (h'.keeps id hid)

omit [Crates] in
theorem mono (hO : O ⊆ O') (h : Apart raw O w w') : Apart raw O' w w' :=
  { h with
    rows := fun id hid => h.rows id fun hmem => hid (hO hmem)
    files := fun p hp => h.files p fun hmem => hp (hO hmem) }

omit [Crates] in
/-- A table of cache rows is nobody's object. -/
theorem rowsOnly (w : World ρ) (t : Table CacheEntry.key) : Apart raw O w (w.withRows t) where
  manifest := rfl
  locked := rfl
  state := rfl
  remote := fun _ _ h => h
  rows := fun _ _ => rfl
  files := fun _ _ => rfl
  keeps := fun _ h => h

/-- Looking for an object in the cache. -/
theorem readCache (w : World ρ) (id gen : Nat) (sha : Text) (k : Nat) :
    Apart raw O w (cutOff ((LocalOp.readCache id gen sha).effects w) k w) := by
  rcases cutOff_readCache w id gen sha k with ⟨t, ht⟩
  rw [ht]
  exact Apart.rowsOnly w t

/-- Putting an object into the cache changes its file. -/
theorem writeCache (w : World ρ) (id gen : Nat) (b : Bytes) (hid : id ∈ O) (k : Nat) :
    Apart raw O w (cutOff ((LocalOp.writeCache id gen b).effects w) k w) := by
  refine cutOff_preserves (Apart raw O w) _ (fun f hf w' hw' => hw'.trans ?_) k w (Apart.refl w)
  simp only [LocalOp.effects, LocalStore.writeCache, List.map_cons, List.map_nil,
    List.mem_cons, List.not_mem_nil, or_false] at hf
  rcases hf with rfl | rfl
  · refine { Apart.refl w' with files := fun p hp => ?_ }
    rw [onStore, LocalStore.files_writeFile, if_neg]
    rintro rfl
    exact hp hid
  · exact { Apart.refl w' with files := fun _ _ => rfl }

/-- An object stored as dirty has another row and another file. -/
theorem dirtied (id gen : Nat) (encoded : Bytes) (hid : id ∈ O)
    (h : Dirtied id gen encoded w w') : Apart raw O w w' where
  manifest := h.manifest
  locked := h.locked
  state := h.state
  remote := fun i b hb => by rw [h.remote]; exact hb
  rows := by
    intro i hi
    rw [h.rows, if_neg]
    rintro rfl
    exact hi hid
  files := by
    intro p hp
    rw [h.files, if_neg]
    rintro rfl
    exact hp hid
  keeps := by
    intro i hi
    rw [h.rows] at hi
    by_cases hii : i = id
    · rw [if_pos hii] at hi
      cases hi
    · rwa [if_neg hii] at hi

/-- However far storing an object gets, no other object changes. -/
theorem storeDirty (w : World ρ) (id gen : Nat) (encoded : Bytes) (offset len : Nat)
    (hid : id ∈ O) (k : Nat) :
    Apart raw O w (cutOff ((LocalOp.storeDirty id gen encoded offset len).effects w) k w) := by
  rcases cutOff_storeDirty w id gen encoded offset len k with ⟨_, hsame⟩ | ⟨_, htorn⟩ | ⟨_, hdirty⟩
  · rw [hsame]
    exact Apart.refl w
  · refine {
      manifest := htorn.manifest
      locked := htorn.locked
      state := htorn.state
      remote := fun i b hb => by rw [htorn.remote]; exact hb
      rows := fun i _ => htorn.rows i
      files := fun p hp => ?_
      keeps := fun i hi => by rw [htorn.rows] at hi; exact hi }
    rw [htorn.files, if_neg]
    rintro rfl
    exact hp hid
  · exact Apart.dirtied id gen encoded hid hdirty

omit [Crates] in
/-- A call to the backend loses nothing there. -/
theorem call (hB : Returns B raw) (w : World ρ) (c : Call) (r : Except String c.Resp) (s' : ρ)
    (h : B.step c w.remote r s') : Apart raw O w { w with remote := s' } :=
  { (Apart.refl w : Apart raw O w w) with remote := hB.keeps c w.remote r s' h }

end Apart

/-- An object whose row, file and entry fit together. -/
structure InOrder (raw : ρ → Int → Option Bytes) (map : BlockMap) (w : World ρ) (id : Nat) :
    Prop where
  row : ∀ d, w.store.dirtyObject id = some d → id * map.objectSize < map.deviceSize ∧
    d.cachePath = LocalStore.cachePath id d.generation ∧ ∃ b, d.Sound w.store.files b
  clean : ∀ e, w.store.dirtyObject id = none → w.manifest.find id = some e → e.zero = false →
    e.Live (raw w.remote) ∧ ∃ r b, e.remote = some r ∧ raw w.remote r.messageId = some b ∧
      ∀ b', w.store.files (LocalStore.cachePath id e.generation) = some b' → b' = b

/-- What a write knows of its own objects: they are in order, and are those of
    an array. -/
structure Mine (raw : ρ → Int → Option Bytes) (map : BlockMap) (O : Set Nat) (m : Manifest)
    (a : Nat → UInt8) (w : World ρ) : Prop where
  manifest : w.manifest = m
  inOrder : ∀ id ∈ O, InOrder raw map w id
  content : ∀ id ∈ O, w.content raw map.objectSize id = span a (id * map.objectSize) map.objectSize

section Frame

variable {O : Set Nat} {map : BlockMap} {m : Manifest} {a : Nat → UInt8} {w w' : World ρ} {id : Nat}

/-- What is apart stays in order. -/
theorem InOrder.apart (h : InOrder raw map w id) (hw : Apart raw O w w') (hid : id ∉ O) :
    InOrder raw map w' id where
  row := by
    intro d hd
    rw [hw.rows id hid] at hd
    rcases h.row d hd with ⟨hin, hpath, b, hb⟩
    refine ⟨hin, hpath, b, { hb with file := ?_ }⟩
    have hfile := hb.file
    rw [hpath] at hfile ⊢
    rw [hw.files _ hid, hfile]
  clean := by
    intro e hd hf hz
    rw [hw.rows id hid] at hd
    rw [hw.manifest] at hf
    rcases h.clean e hd hf hz with ⟨hlive, r, b, hr, hraw, hcopy⟩
    refine ⟨hlive.mono _ _ e hw.remote, r, b, hr, hw.remote _ _ hraw, fun b' hb' => ?_⟩
    rw [hw.files _ hid] at hb'
    exact hcopy b' hb'

/-- What is apart keeps its content. -/
theorem InOrder.content (h : InOrder raw map w id) (hw : Apart raw O w w')
    (hid : id ∉ O) (objectSize : Nat) :
    w'.content raw objectSize id = w.content raw objectSize id := by
  have hrow := hw.rows id hid
  rcases hd : w.store.dirtyObject id with _ | d
  · rw [hd] at hrow
    rw [w'.content_clean raw _ _ hrow, w.content_clean raw _ _ hd, hw.manifest]
    rcases hf : w.manifest.find id with _ | e
    · rw [Manifest.content_none _ _ _ _ hf, Manifest.content_none _ _ _ _ hf]
    · by_cases hz : e.zero = true
      · rw [Manifest.content_zero _ _ _ _ e hf hz, Manifest.content_zero _ _ _ _ e hf hz]
      · simp only [Bool.not_eq_true] at hz
        rcases h.clean e hd hf hz with ⟨_, r, b, hr, hraw, _⟩
        rw [Manifest.content_remote _ _ _ _ e r hf hz hr,
          Manifest.content_remote _ _ _ _ e r hf hz hr, hraw, hw.remote _ _ hraw]
  · rw [hd] at hrow
    rcases h.row d hd with ⟨_, hpath, _⟩
    rw [w'.content_dirty raw _ _ d hrow, w.content_dirty raw _ _ d hd, hpath, hw.files _ hid]

/-- What a write knows of its objects, others cannot change. -/
theorem Mine.stable (h : Mine raw map O m a w) (hw : Apart raw Oᶜ w w') :
    Mine raw map O m a w' where
  manifest := hw.manifest.trans h.manifest
  inOrder := fun id hid => (h.inOrder id hid).apart hw (fun hmem => hmem hid)
  content := fun id hid =>
    ((h.inOrder id hid).content hw (fun hmem => hmem hid) _).trans (h.content id hid)

/-- After one of its own objects changed, a write knows the new one. -/
theorem Mine.changed {a' : Nat → UInt8} (h : Mine raw map O m a w) (hw : Apart raw {id} w w')
    (hord : InOrder raw map w' id)
    (hcontent : w'.content raw map.objectSize id = span a' (id * map.objectSize) map.objectSize)
    (hothers : ∀ i, i ≠ id → Agree map.objectSize i a' a) : Mine raw map O m a' w' where
  manifest := hw.manifest.trans h.manifest
  inOrder := by
    intro i hi
    by_cases hii : i = id
    · rw [hii]
      exact hord
    · exact (h.inOrder i hi).apart hw hii
  content := by
    intro i hi
    by_cases hii : i = id
    · rw [hii]
      exact hcontent
    · rw [(h.inOrder i hi).content hw hii, h.content i hi]
      exact (hothers i hii).symm

/-- A copy of the remote object in the cache changes nothing. -/
theorem Mine.cached (h : Mine raw map O m a w) (hid : id ∈ O) (e : ManifestObject)
    (r : RemoteObjectRef) (b : Bytes) (hd : w.store.dirtyObject id = none)
    (hf : w.manifest.find id = some e) (hz : e.zero = false) (hr : e.remote = some r)
    (hraw : raw w.remote r.messageId = some b) :
    Mine raw map O m a
      (applyAll ((LocalOp.writeCache id e.generation b).effects w) w) := by
  have hapart : Apart raw {id} w
      (applyAll ((LocalOp.writeCache id e.generation b).effects w) w) := by
    rw [← cutOff_length _ _ (length_effects_writeCache w id e.generation b)]
    exact Apart.writeCache w id e.generation b (Set.mem_singleton id) 2
  have hrow : (applyAll ((LocalOp.writeCache id e.generation b).effects w)
      w).store.dirtyObject id = none := hd
  have hfile : (applyAll ((LocalOp.writeCache id e.generation b).effects w)
      w).store.files (LocalStore.cachePath id e.generation) = some b :=
    (LocalStore.files_writeFile _ _ _ _).trans (if_pos rfl)
  refine h.changed hapart ?_ ?_ (fun _ _ => rfl)
  · refine { row := fun d hd' => ?_, clean := fun e' _ hf' hz' => ?_ }
    · rw [hrow] at hd'
      cases hd'
    · rw [hapart.manifest, hf, Option.some.injEq] at hf'
      rw [← hf']
      rcases (h.inOrder id hid).clean e hd hf hz with ⟨hlive, _⟩
      refine ⟨hlive.mono _ _ e hapart.remote, r, b, hr, hapart.remote _ _ hraw, fun b' hb' => ?_⟩
      rw [hfile, Option.some.injEq] at hb'
      exact hb'.symm
  · have hcontent := h.content id hid
    rw [World.content_clean raw _ _ id hd, Manifest.content_remote _ _ _ _ e r hf hz hr,
      hraw] at hcontent
    rw [World.content_clean raw _ _ id hrow, hapart.manifest,
      Manifest.content_remote _ _ _ _ e r hf hz hr, hapart.remote _ _ hraw, hcontent]

end Frame

section Rules

variable {O : Set Nat} {map : BlockMap} {m : Manifest} {a : Nat → UInt8} {Q : α → World ρ → Prop}

/-- A program among others that leave its objects alone, which leaves theirs
    alone. -/
abbrev Among (B : Backend ρ) (P : Policy ρ) (raw : ρ → Int → Option Bytes) (O : Set Nat)
    (Q : α → World ρ → Prop) (p : Prog deviceSig α) (w : World ρ) : Prop :=
  Guards (DeviceEnv B P) (Apart raw Oᶜ) (Apart raw O) Q p w

/-- An operation on the disk, whether it fails, stops half-way or succeeds: it
    stays apart if each cut of it does, and succeeds as its answer says. -/
theorem apart_step (l : LocalOp) (G : l.Resp → World ρ → Prop) (w1 w2 : World ρ)
    (r : Except String l.Resp) (hstep : (DeviceEnv B P).step (DeviceOp.disk l) w1 r w2)
    (hcut : ∀ k, Apart raw O w1 (cutOff (l.effects w1) k w1))
    (hok : ∀ x, l.answer w1 = .ok x → G x (applyAll (l.effects w1) w1)) :
    Apart raw O w1 w2 ∧ ∀ x, r = .ok x → G x w2 := by
  have hall := hcut (l.effects w1).length
  rw [cutOff_length _ _ (Nat.le_refl _)] at hall
  rcases hstep with hrun | ⟨k, msg, _, _, hr, hw2⟩
  · rcases r with msg | r
    · rw [(LocalOp.run_error l w1 w2 msg hrun).2]
      exact ⟨Apart.refl w1, fun x hx => (by cases hx)⟩
    · rcases LocalOp.run_ok l w1 w2 r hrun with ⟨hans, hw2⟩
      rw [hw2]
      refine ⟨hall, fun x hx => ?_⟩
      rw [← Except.ok.inj hx]
      exact hok r hans
  · -- Stopped half-way it has no answer.
    rw [hw2, hr]
    exact ⟨hcut k, fun x hx => (by cases hx)⟩

/-- The rule for an operation on the disk. -/
theorem among_disk (l : LocalOp) (f : l.Resp → Prog deviceSig α) (w : World ρ)
    (h : ∀ w1, Apart raw Oᶜ w w1 → (∀ k, Apart raw O w1 (cutOff (l.effects w1) k w1)) ∧
      ∀ r, l.answer w1 = .ok r → Among B P raw O Q (f r) (applyAll (l.effects w1) w1)) :
    Among B P raw O Q (disk l >>= f) w := by
  refine Guards.perform_bind (S := deviceSig) (DeviceOp.disk l) f w fun w1 hw1 r w2 hstep => ?_
  rcases h w1 hw1 with ⟨hcut, hok⟩
  exact apart_step l (fun x w2 => Among B P raw O Q (f x) w2) w1 w2 r hstep hcut hok

/-- The rule for the operation on the disk that ends a program. -/
theorem among_disk_last (l : LocalOp) (Q : l.Resp → World ρ → Prop) (w : World ρ)
    (h : ∀ w1, Apart raw Oᶜ w w1 → (∀ k, Apart raw O w1 (cutOff (l.effects w1) k w1)) ∧
      ∀ r, l.answer w1 = .ok r → ∀ w2, Apart raw Oᶜ (applyAll (l.effects w1) w1) w2 → Q r w2) :
    Among B P raw O Q (disk l) w := by
  refine Guards.perform (S := deviceSig) (DeviceOp.disk l) Q w fun w1 hw1 r w2 hstep => ?_
  rcases h w1 hw1 with ⟨hcut, hok⟩
  exact apart_step l (fun x w2 => ∀ w3, Apart raw Oᶜ w2 w3 → Q x w3) w1 w2 r hstep hcut hok

/-- The rule for an operation without effects. -/
theorem among_query (l : LocalOp) (f : l.Resp → Prog deviceSig α) (w : World ρ)
    (hnone : ∀ w1 : World ρ, l.effects w1 = [])
    (h : ∀ w1, Apart raw Oᶜ w w1 → ∀ r, l.answer w1 = .ok r → Among B P raw O Q (f r) w1) :
    Among B P raw O Q (disk l >>= f) w := by
  refine among_disk l f w fun w1 hw1 => ?_
  rw [hnone w1]
  refine ⟨fun k => ?_, h w1 hw1⟩
  rw [cutOff_nil]
  exact Apart.refl w1

/-- The rule for a call to the backend. -/
theorem among_call (hB : Returns B raw) (c : Call) (f : c.Resp → Prog deviceSig α) (w : World ρ)
    (h : ∀ w1, Apart raw Oᶜ w w1 → ∀ r s', B.step c w1.remote (.ok r) s' →
      Among B P raw O Q (f r) { w1 with remote := s' }) :
    Among B P raw O Q (call c >>= f) w := by
  refine Guards.perform_bind (S := deviceSig) (DeviceOp.call c) f w fun w1 hw1 r w2 hstep => ?_
  rcases hstep with ⟨s', hs, rfl⟩
  refine ⟨Apart.call hB w1 c r s' hs, fun x hx => ?_⟩
  rw [hx] at hs
  exact h w1 hw1 x s' hs

/-- The rule for decoding. -/
theorem among_decode (encoded : Bytes) (id gen : Nat) (f : ObjectEnvelope → Prog deviceSig α)
    (w : World ρ)
    (h : ∀ e, ObjectEnvelope.decode encoded id gen = .ok e → Among B P raw O Q (f e) w) :
    Among B P raw O Q (decodeEnvelope encoded id gen >>= f) w := by
  unfold decodeEnvelope
  rcases hdec : ObjectEnvelope.decode encoded id gen with failure | e
  · exact trivial
  · exact h e hdec

/-- What a read of an object of one's own finds. -/
abbrev Found (raw : ρ → Int → Option Bytes) (map : BlockMap) (O : Set Nat) (m : Manifest)
    (a : Nat → UInt8) (id : Nat) (object : Bytes) (w : World ρ) : Prop :=
  object = span a (id * map.objectSize) map.objectSize ∧ Mine raw map O m a w

/-- The end of every branch of a read: the object is what the device holds. -/
theorem among_found (id : Nat) (object : Bytes) (w : World ρ) (hid : id ∈ O)
    (hw : Mine raw map O m a w) (hobject : object = w.content raw map.objectSize id) :
    Among B P raw O (Found raw map O m a id) (pure object) w :=
  Guards.pure object w fun _ h => ⟨hobject.trans (hw.content id hid), hw.stable h⟩

/-- Reading an object of one's own, while others are at work. -/
theorem among_readObject (hB : Returns B raw) (dev : BlockDevice) (id : Nat) (w : World ρ)
    (hid : id ∈ O) (hw : Mine raw dev.map O m a w) :
    Among B P raw O (Found raw dev.map O m a id) (dev.readObject id) w := by
  unfold BlockDevice.readObject
  refine among_query (.readDirty id) _ w (fun _ => rfl) fun w1 h1 found hfound => ?_
  have hw1 := hw.stable h1
  rcases answer_readDirty w1 id found hfound with ⟨rfl, hd⟩ | ⟨d, b, rfl, hd, hb⟩
  · -- No row: nobody else makes one for an object that is not theirs.
    refine among_query .peekManifest _ w1 (fun _ => rfl) fun w2 h2 manifest hmanifest => ?_
    have hw2 := hw1.stable h2
    have hd2 := (h2.rows id fun hmem => hmem hid).trans hd
    rw [(answer_peekManifest w2 manifest hmanifest).1]
    refine Guards.ofOption_bind _ _ _ _ fun e hf => ?_
    by_cases hz : e.zero = true
    · rw [if_pos hz]
      refine among_found id _ w2 hid hw2 ?_
      rw [w2.content_clean raw _ _ hd2, Manifest.content_zero _ _ _ _ e hf hz]
    · rw [if_neg hz]
      simp only [Bool.not_eq_true] at hz
      refine Guards.ofOption_bind _ _ _ _ fun remote hr => ?_
      refine Guards.ofOption_bind _ _ _ _ fun sha _ => ?_
      rcases (hw2.inOrder id hid).clean e hd2 hf hz with ⟨_, r, b, hr', hraw, _⟩
      rw [hr, Option.some.injEq] at hr'
      rw [← hr'] at hraw
      have hcontent : w2.content raw dev.map.objectSize id = objectOf dev.map.objectSize b := by
        rw [w2.content_clean raw _ _ hd2, Manifest.content_remote _ _ _ _ e remote hf hz hr, hraw,
          Option.getD_some]
      refine among_disk (.readCache id e.generation sha) _ w2 fun w3 h3 => ⟨fun k =>
        Apart.readCache w3 id e.generation sha k, fun cached hcached => ?_⟩
      have hw3 := hw2.stable h3
      rcases applyAll_readCache w3 id e.generation sha with ⟨t, ht⟩
      rw [ht]
      have hrows : Apart raw Oᶜ w3 (w3.withRows t) := Apart.rowsOnly w3 t
      have hans := answer_readCache w3 id e.generation sha cached hcached
      have hd3 := (h3.rows id fun hmem => hmem hid).trans hd2
      have hf3 : w3.manifest.find id = some e := by rw [h3.manifest, hf]
      have hcontent3 := (hw3.content id hid).trans ((hw2.content id hid).symm.trans hcontent)
      rcases cached with _ | cached
      · -- The bytes of the reference are there to stay.
        refine among_call hB (.fetchObject remote) _ _ fun w4 h4 encoded s' hfetch => ?_
        have h24 : Apart raw Oᶜ w2 w4 := h3.trans (hrows.trans h4)
        have hsame : encoded = b := by
          have hgot := hB.fetched remote encoded _ s' hfetch
          rw [h24.remote _ _ hraw] at hgot
          exact (Option.some.inj hgot).symm
        refine Guards.ensure_bind _ _ _ _ fun _ => ?_
        have hcall : Apart raw Oᶜ w4 { w4 with remote := s' } :=
          Apart.call hB w4 (.fetchObject remote) _ s' hfetch
        refine among_disk (.writeCache id e.generation encoded) _ _ fun w5 h5 => ⟨fun k =>
          Apart.writeCache w5 id e.generation encoded hid k, fun _ _ => ?_⟩
        refine among_decode _ _ _ _ _ fun env henv => ?_
        have h25 : Apart raw Oᶜ w2 w5 := h24.trans (hcall.trans h5)
        have hcached := (hw2.stable h25).cached hid e remote b
          ((h25.rows id fun hmem => hmem hid).trans hd2) (by rw [h25.manifest, hf]) hz hr
          (h25.remote _ _ hraw)
        rw [hsame] at henv ⊢
        refine among_found id _ _ hid hcached ?_
        rw [hcached.content id hid, ← hw2.content id hid, hcontent, pad_decode _ _ _ _ env henv]
      · refine among_decode _ _ _ _ _ fun env henv => ?_
        have hsame : cached = b := by
          rcases (hw3.inOrder id hid).clean e hd3 hf3 hz with ⟨_, r', b', hr', hraw', hcopy⟩
          rw [hr, Option.some.injEq] at hr'
          rw [← hr', h3.remote _ _ hraw, Option.some.injEq] at hraw'
          rw [hraw', hcopy cached hans.symm]
        refine among_found id _ _ hid (hw3.stable hrows) ?_
        rw [(hw3.stable hrows).content id hid, ← hw3.content id hid, hcontent3,
          pad_decode _ _ _ _ env henv, hsame]
  · -- A row: its file is the object.
    refine Guards.ensure_bind _ _ _ _ fun _ => ?_
    refine among_decode _ _ _ _ _ fun env henv => ?_
    refine among_found id _ w1 hid hw1 ?_
    rw [w1.content_dirty raw _ _ d hd, hb, Option.getD_some, pad_decode _ _ _ _ env henv]

/-- A write knows the object it stored. -/
theorem Mine.dirtied {a' : Nat → UInt8} (dev : BlockDevice) (id : Nat) (object : Bytes)
    (w w' : World ρ) (h : Mine raw dev.map O m a w)
    (hin : id * dev.map.objectSize < dev.map.deviceSize) (hlt : id < 2 ^ 64)
    (hgen : w.manifest.generation + 1 < 2 ^ 64)
    (hdirty : Dirtied id (w.manifest.generation + 1)
      (dev.encodeDirty id (w.manifest.generation + 1) object) w w')
    (hobject : padObject object dev.map.objectSize
      = span a' (id * dev.map.objectSize) dev.map.objectSize)
    (hothers : ∀ i, i ≠ id → Agree dev.map.objectSize i a' a) : Mine raw dev.map O m a' w' := by
  have hrow : w'.store.dirtyObject id = some (dirtyRow id (w.manifest.generation + 1)
      (dev.encodeDirty id (w.manifest.generation + 1) object)) :=
    (hdirty.rows id).trans (if_pos rfl)
  have hfile : w'.store.files (LocalStore.cachePath id (w.manifest.generation + 1))
      = some (dev.encodeDirty id (w.manifest.generation + 1) object) :=
    (hdirty.files _).trans (if_pos rfl)
  refine h.changed (Apart.dirtied id _ _ (Set.mem_singleton id) hdirty) ?_ ?_ hothers
  · refine { row := fun d hd => ?_, clean := fun e hd _ _ => ?_ }
    · rw [hrow, Option.some.injEq] at hd
      rw [← hd]
      exact ⟨hin, rfl, _, {
        file := hfile
        decodes := decode_encodeDirty dev id _ object hlt hgen
        sha := rfl }⟩
    · rw [hrow] at hd
      cases hd
  · rw [w'.content_dirty raw _ id _ hrow, dirtyRow, hfile, Option.getD_some,
      objectOf_encodeDirty, hobject]

/-- Storing an object of one's own, while others are at work. -/
theorem among_writeDirtyObject {a' : Nat → UInt8} (dev : BlockDevice) (id offset len : Nat)
    (object : Bytes) (w : World ρ) (hid : id ∈ O) (hw : Mine raw dev.map O m a w)
    (hin : id * dev.map.objectSize < dev.map.deviceSize) (hlt : id < 2 ^ 64)
    (hobject : padObject object dev.map.objectSize
      = span a' (id * dev.map.objectSize) dev.map.objectSize)
    (hothers : ∀ i, i ≠ id → Agree dev.map.objectSize i a' a) :
    Among B P raw O (fun _ w' => Mine raw dev.map O m a' w')
      (dev.writeDirtyObject id object offset len) w := by
  unfold BlockDevice.writeDirtyObject
  refine among_query .dirtyCount _ w (fun _ => rfl) fun w1 h1 count _ => ?_
  refine Guards.ensure_bind _ _ _ _ fun _ => ?_
  refine among_query .peekManifest _ w1 (fun _ => rfl) fun w2 h2 manifest hmanifest => ?_
  rw [(answer_peekManifest w2 manifest hmanifest).1]
  refine Guards.ofExcept_bind _ _ _ fun gen hgen => ?_
  rcases checkedAdd_eq_ok _ _ gen hgen with ⟨rfl, hgenlt⟩
  refine among_disk_last _ _ w2 fun w3 h3 => ⟨fun k =>
    Apart.storeDirty w3 id _ _ offset len hid k, fun _ _ w4 h4 => ?_⟩
  have hw3 := hw.stable (h1.trans (h2.trans h3))
  -- The generation is still that of the manifest, which no write changes.
  have hdirty := applyAll_storeDirty w3 id (w3.manifest.generation + 1)
    (dev.encodeDirty id (w3.manifest.generation + 1) object) offset len
  have hmine := hw3.dirtied dev id object w3 _ hin hlt (by rw [h3.manifest]; exact hgenlt) hdirty
    hobject hothers
  rw [h3.manifest] at hmine
  exact hmine.stable h4

/-- The rounds of a write, while others are at work on other objects. -/
theorem among_writeLoop (hB : Returns B raw) (dev : BlockDevice) (rounds : Nat) :
    ∀ (cursor : Nat) (bytes : Bytes) (w : World ρ) (a : Nat → UInt8),
      (∀ id, Touched dev.map cursor bytes.length id → id ∈ O) → Mine raw dev.map O m a w →
      Among B P raw O (fun _ w' => Mine raw dev.map O m (splice a cursor bytes) w')
        (dev.writeLoop rounds cursor bytes) w := by
  induction rounds with
  | zero =>
      intro cursor bytes w a hO hw
      cases bytes with
      | nil =>
          refine Guards.pure () w fun w' h => ?_
          rw [splice_nil]
          exact hw.stable h
      | cons b bs => exact trivial
  | succ rounds ih =>
      intro cursor bytes w a hO hw
      cases bytes with
      | nil =>
          refine Guards.pure () w fun w' h => ?_
          rw [splice_nil]
          exact hw.stable h
      | cons b bs =>
          unfold BlockDevice.writeLoop
          refine Guards.ofExcept_bind _ _ _ fun loc hloc => ?_
          rcases loc with ⟨id, o⟩
          rcases locate_ok dev.map cursor id o hloc with ⟨hin, hcur, ho⟩
          dsimp only
          generalize htake : min (bs.length + 1) (dev.map.objectSize - o) = take
          have hpos : 0 < dev.map.objectSize := by omega
          have hid : id ∈ O := by
            refine hO id ⟨cursor, Nat.le_refl _, ?_, ?_⟩
            · rw [List.length_cons]
              omega
            · rw [hcur, Nat.mul_comm, Nat.mul_add_div hpos, Nat.div_eq_of_lt ho, Nat.add_zero]
          have hlt : id < 2 ^ 64 := by
            have hds := dev.map.deviceSize_lt
            have hmul : id * 1 ≤ id * dev.map.objectSize := Nat.mul_le_mul_left id hpos
            omega
          have hchunk : ((b :: bs).take take).length = take := by
            rw [List.length_take, List.length_cons]
            omega
          have hfit : o + ((b :: bs).take take).length ≤ dev.map.objectSize := by omega
          have hsplit : splice (splice a cursor ((b :: bs).take take)) (cursor + take)
              ((b :: bs).drop take) = splice a cursor (b :: bs) := by
            have happ := splice_append a cursor ((b :: bs).take take) ((b :: bs).drop take)
            rwa [hchunk, List.take_append_drop] at happ
          -- What is left touches objects of the whole range.
          have hrest : ∀ i, Touched dev.map (cursor + take) ((b :: bs).drop take).length i →
              i ∈ O := by
            rintro i ⟨n, hlo, hhi, hdiv⟩
            rw [List.length_drop, List.length_cons] at hhi
            refine hO i ⟨n, by omega, ?_, hdiv⟩
            rw [List.length_cons]
            omega
          have hround : ∀ object w1, Mine raw dev.map O m a w1 →
              BlockDevice.overwrite object o ((b :: bs).take take) =
                span (splice a (id * dev.map.objectSize + o) ((b :: bs).take take))
                  (id * dev.map.objectSize) dev.map.objectSize →
              Among B P raw O (fun _ w' => Mine raw dev.map O m (splice a cursor (b :: bs)) w')
                (dev.writeDirtyObject id
                    (BlockDevice.overwrite object o ((b :: bs).take take)) o take >>= fun _ =>
                  dev.writeLoop rounds (cursor + take) ((b :: bs).drop take)) w1 := by
            intro object w1 hw1 hobject
            refine Guards.bind Apart.refl _ _ _ w1
              (among_writeDirtyObject dev id o take _ w1 hid hw1 (by omega) hlt ?_
                (fun i hi => agree_splice_other _ id i a o _ hfit hi)) fun _ w2 hw2 => ?_
            · rw [hobject, padObject_self _ _ (length_span _ _ _)]
            · rw [← hcur] at hw2
              rw [← hsplit]
              exact ih (cursor + take) ((b :: bs).drop take) w2 _ hrest hw2
          by_cases hfull : o = 0 ∧ take = dev.map.objectSize
          · rw [if_pos hfull]
            -- The whole object is covered, so what it was does not matter.
            refine hround _ w hw ?_
            rw [span_splice_within _ _ _ o _ hfit, hfull.1, BlockDevice.overwrite,
              List.take_zero, List.take_zero, List.drop_of_length_le, List.drop_of_length_le]
            · rw [length_span, hchunk]
              omega
            · rw [List.length_replicate, hchunk]
              omega
          · rw [if_neg hfull]
            refine Guards.bind Apart.refl _ _ _ w (among_readObject hB dev id w hid hw)
              fun object w1 hfound => hround object w1 hfound.2 ?_
            rw [span_splice_within _ _ _ o _ hfit, hfound.1]
            rfl

/-- A write puts its bytes over its objects, while others are at work on
    theirs. -/
theorem among_writeAt (hB : Returns B raw) (dev : BlockDevice) (offset : Nat) (bytes : Bytes)
    (w : World ρ) (hO : ∀ id, Touched dev.map offset bytes.length id → id ∈ O)
    (hw : Mine raw dev.map O m a w) :
    Among B P raw O (fun _ w' => Mine raw dev.map O m (splice a offset bytes) w')
      (dev.writeAt offset bytes) w := by
  unfold BlockDevice.writeAt
  refine Guards.ofExcept_bind _ _ _ fun stop _ => ?_
  refine Guards.ensure_bind _ _ _ _ fun _ => ?_
  exact among_writeLoop hB dev bytes.length offset bytes w a hO hw

end Rules

/-- The reads of a device return the ranges of an array, and fail for no
    reason but the disk or the backend. -/
def Yields (B : Backend ρ) (P : Policy ρ) (raw : ρ → Int → Option Bytes) (dev : BlockDevice)
    (w : World ρ) (a : Nat → UInt8) : Prop :=
  ∀ offset len r w', Exec (DeviceEnv B P) (dev.readAt offset len) w (.done r) w' →
    offset + len ≤ dev.map.deviceSize →
    (∀ b, r = .ok b → b = span a offset len) ∧ (Smooth B P raw → ∃ b, r = .ok b)

theorem Durable.inOrder {map : BlockMap} {w : World ρ} (h : Durable raw map w) (id : Nat) :
    InOrder raw map w id where
  row := fun d hd => ⟨(h.rows id d hd).1, h.consistent.path id d hd, (h.rows id d hd).2⟩
  clean := fun e hd hf hz => ⟨h.live id e hd hf hz, h.consistent.clean id e hd hf hz⟩

/-- A durable world all of whose objects stay in order stays durable. -/
theorem Durable.apart {map : BlockMap} {O : Set Nat} {w w' : World ρ} (h : Durable raw map w)
    (hw : Apart raw O w w') (hord : ∀ id, InOrder raw map w' id) : Durable raw map w' where
  consistent := {
    path := fun id d hd => ((hord id).row d hd).2.1
    clean := fun id e hd hf hz => ((hord id).clean e hd hf hz).2 }
  rows := fun id d hd => ⟨((hord id).row d hd).1, ((hord id).row d hd).2.2⟩
  live := fun id e hd hf hz => ((hord id).clean e hd hf hz).1
  ids := by
    rw [hw.manifest]
    exact h.ids
  stored := by
    rcases h.stored with ⟨m, hm, hids, hsame⟩
    refine ⟨m, (LocalStore.loadManifest_congr _ _ hw.state).trans hm, hids, fun id hd => ?_⟩
    rw [hw.manifest]
    exact hsame id (hw.keeps id hd)

/-- A durable device yields its array. -/
theorem Durable.yields (hB : Returns B raw) (dev : BlockDevice) (hsize : 0 < dev.map.objectSize)
    (w : World ρ) (h : Durable raw dev.map w) (hfree : w.locked = false) :
    Yields B P raw dev w (w.array raw dev.map.objectSize) := by
  intro offset len r w' hread hin
  have hpost := wp_done _ _ _ _ _ _ (wp_readAt (P := P) hB dev _ offset len w h.consistent
    (shows_array raw dev.map.objectSize w)) hread
  refine ⟨hpost.answer, fun hsmooth => ?_⟩
  rcases r with msg | b
  · exact absurd (fun id hid => h.readable hsize id hid)
      (hpost.answers msg rfl hsmooth hfree hsize hin)
  · exact ⟨b, rfl⟩

omit [Crates] in
/-- An array has the bytes of the object that an index is in. -/
theorem array_of_content (objectSize : Nat) (hsize : 0 < objectSize) (w : World ρ)
    (a : Nat → UInt8) (n : Nat) (h : w.content raw objectSize (n / objectSize)
      = span a (n / objectSize * objectSize) objectSize) : w.array raw objectSize n = a n := by
  have hmod := Nat.mod_lt n hsize
  have hdiv : n / objectSize * objectSize + n % objectSize = n := by
    rw [Nat.mul_comm]
    exact Nat.div_add_mod n objectSize
  rw [World.array, arrayOf, h, List.getD_eq_getElem?_getD, getElem?_span _ _ _ _ hmod, hdiv,
    Option.getD_some]

/-- What several writes at once leave, whatever their order: a device that
    yields an array with the bytes of each write in its range, and with what
    was there before outside of all ranges. -/
def Survive (B : Backend ρ) (P : Policy ρ) (raw : ρ → Int → Option Bytes) (dev : BlockDevice)
    (writes : ι → Nat × Bytes) (w w' : World ρ) : Prop :=
  ∃ a, Yields B P raw dev w' a ∧
    (∀ i, span a (writes i).1 (writes i).2.length = (writes i).2) ∧
    ∀ n, (∀ i, ¬((writes i).1 ≤ n ∧ n < (writes i).1 + (writes i).2.length)) →
      a n = w.array raw dev.map.objectSize n

/-- The writes of several clients on one device, one operation after the
    other, when all of them have returned. -/
def Together [DecidableEq ι] (B : Backend ρ) (P : Policy ρ) (dev : BlockDevice)
    (writes : ι → Nat × Bytes) (w w' : World ρ) : Prop :=
  Interleaved (DeviceEnv B P) (fun i => dev.writeAt (writes i).1 (writes i).2) w
    (fun _ => .pure ()) w'

/-- Writes that share no object all survive. -/
theorem writes_survive [DecidableEq ι] (hB : Returns B raw) (dev : BlockDevice)
    (hsize : 0 < dev.map.objectSize) (w w' : World ρ) (hw : Durable raw dev.map w)
    (hfree : w.locked = false) (writes : ι → Nat × Bytes)
    (hapart : ∀ i j, i ≠ j → ∀ id, Touched dev.map (writes i).1 (writes i).2.length id →
      ¬Touched dev.map (writes j).1 (writes j).2.length id)
    (hrun : Together B P dev writes w w') : Survive B P raw dev writes w w' := by
  let own : ι → Set Nat := fun i => {id | Touched dev.map (writes i).1 (writes i).2.length id}
  let after : ι → Nat → UInt8 := fun i =>
    splice (w.array raw dev.map.objectSize) (writes i).1 (writes i).2
  have hguards : ∀ i, Among B P raw (own i)
      (fun _ w' => Mine raw dev.map (own i) w.manifest (after i) w')
      (dev.writeAt (writes i).1 (writes i).2) w := by
    intro i
    refine among_writeAt hB dev _ _ w (fun id hid => hid) ?_
    exact {
      manifest := rfl
      inOrder := fun id _ => hw.inOrder id
      content := fun id _ => shows_array raw dev.map.objectSize w id }
  have htrans : ∀ i (a b c : World ρ), Apart raw (own i)ᶜ a b → Apart raw (own i)ᶜ b c →
      Apart raw (own i)ᶜ a c := fun _ _ _ _ h h' => h.trans h'
  -- What one write changes, no other write relies on.
  have hothers : ∀ i j, i ≠ j → ∀ s s' : World ρ, Apart raw (own j) s s' →
      Apart raw (own i)ᶜ s s' := fun i j hij s s' h =>
    h.mono fun id hid hmem => hapart i j hij id hmem hid
  have hrefl : ∀ i (s : World ρ), Apart raw (own i)ᶜ s s := fun _ s => Apart.refl s
  have hdone : ∀ i, Mine raw dev.map (own i) w.manifest (after i) w' := fun i =>
    guards_interleaved _ _ _ _ htrans hothers hrefl _ _ w w' hguards hrun i w' (Apart.refl w')
  have hwhole : Apart raw {id | ∃ i, id ∈ own i} w w' :=
    guaranteed_interleaved _ _ _ _ htrans hothers hrefl (Apart raw {id | ∃ i, id ∈ own i})
      (fun i s s' h => h.mono fun id hid => ⟨i, hid⟩) Apart.refl (fun _ _ _ h h' => h.trans h')
      _ _ w w' hguards hrun
  have hdurable : Durable raw dev.map w' := by
    refine hw.apart hwhole fun id => ?_
    by_cases hid : ∃ i, id ∈ own i
    · rcases hid with ⟨i, hi⟩
      exact (hdone i).inOrder id hi
    · exact (hw.inOrder id).apart hwhole hid
  refine ⟨w'.array raw dev.map.objectSize,
    hdurable.yields hB dev hsize w' (hwhole.locked.trans hfree), fun i => ?_, fun n hn => ?_⟩
  · have hself := span_splice_self (w.array raw dev.map.objectSize) (writes i).1 (writes i).2
    refine Eq.trans (span_congr _ _ _ _ fun n hlo hhi => ?_) hself
    exact array_of_content _ hsize w' _ n ((hdone i).content _ ⟨n, hlo, hhi, rfl⟩)
  · by_cases hid : ∃ i, n / dev.map.objectSize ∈ own i
    · rcases hid with ⟨i, hi⟩
      rw [array_of_content _ hsize w' _ n ((hdone i).content _ hi)]
      by_cases hlo : n < (writes i).1
      · exact splice_before _ _ _ n hlo
      · have hni := hn i
        exact splice_after _ _ _ n (by omega)
    · refine array_of_content _ hsize w' _ n ?_
      rw [(hw.inOrder _).content hwhole hid]
      exact shows_array raw dev.map.objectSize w _

/-- What a list of turns computes is a way for writes to go together, if all of
    them are done. -/
theorem together_runSchedule [DecidableEq ι] (R : (c : Call) → ρ → Except String c.Resp × ρ)
    (dev : BlockDevice) (writes : ι → Nat × Bytes) (w : World ρ) (turns : List ι)
    (hdone : ∀ i, returned ((runSchedule (S := deviceSig) (deviceRun R) turns
      (fun i => dev.writeAt (writes i).1 (writes i).2) w).1 i) = true) :
    Together (Env.ofRun (S := remoteSig) R) P dev writes w
      (runSchedule (S := deviceSig) (deviceRun R) turns
        (fun i => dev.writeAt (writes i).1 (writes i).2) w).2 := by
  have hrun := interleaved_runSchedule (DeviceEnv (Env.ofRun (S := remoteSig) R) P) (deviceRun R)
    (fun e s => ?_) turns (fun i => dev.writeAt (writes i).1 (writes i).2) w
  · rw [show (runSchedule (S := deviceSig) (deviceRun R) turns
      (fun i => dev.writeAt (writes i).1 (writes i).2) w).1 = fun _ => .pure () from
      funext fun i => eq_pure_of_returned _ (hdone i)] at hrun
    exact hrun
  · cases e with
    | disk l => exact Or.inl rfl
    | call c => exact ⟨(R c s.remote).2, rfl, rfl⟩

end Crates

section Small

attribute [local instance] concreteCrates

/-- A small device on which nothing was written yet. -/
def smallBlank : World MemoryBackend :=
  World.opened (Manifest.empty ⟨7⟩ 4 2) (MemoryBackend.new (-100))

/-- Two writes to different objects of the small device. -/
def writesApart : Bool → Nat × Bytes
  | false => (0, [1, 2])
  | true => (6, [3, 4])

/-- Two writes to the two halves of one object. -/
def writesNear : Bool → Nat × Bytes
  | false => (0, [1, 2])
  | true => (2, [3, 4])

/-- Both writes read their object before either of them stores one. -/
def bothReadFirst : List Bool :=
  [false, false, true, true, false, false, false, true, true, true]

theorem writes_survive_small : ∃ w', Together MemoryBackend.backend Policy.quiet smallDevice
    writesApart smallBlank w' ∧
    Survive MemoryBackend.backend Policy.quiet MemoryBackend.messages smallDevice writesApart
      smallBlank w' := by
  have hrun := together_runSchedule (P := Policy.quiet) MemoryBackend.run smallDevice writesApart
    smallBlank bothReadFirst (by decide +kernel)
  refine ⟨_, hrun, writes_survive MemoryBackend.returns smallDevice (by decide) smallBlank _
    (durable_opened _ _ _ (sound_empty smallMap ⟨7⟩ _)) rfl writesApart ?_ hrun⟩
  rintro i j hij id ⟨n, hlo, hhi, hdiv⟩ ⟨n', hlo', hhi', hdiv'⟩
  have hsize : smallDevice.map.objectSize = 4 := rfl
  rw [hsize] at hdiv hdiv'
  cases i with
  | false => cases j with
    | false => exact hij rfl
    | true =>
        simp only [writesApart, List.length_cons, List.length_nil] at hlo hhi hlo' hhi'
        omega
  | true => cases j with
    | false =>
        simp only [writesApart, List.length_cons, List.length_nil] at hlo hhi hlo' hhi'
        omega
    | true => exact hij rfl

/-- Of two writes to the two halves of one object the first is lost. -/
theorem write_lost : ¬∀ (writes : Bool → Nat × Bytes) (w' : World MemoryBackend),
    (writes false).1 + (writes false).2.length ≤ (writes true).1 →
    Together MemoryBackend.backend Policy.quiet smallDevice writes smallBlank w' →
    Survive MemoryBackend.backend Policy.quiet MemoryBackend.messages smallDevice writes
      smallBlank w' := by
  intro h
  have hrun := together_runSchedule (P := Policy.quiet) MemoryBackend.run smallDevice writesNear
    smallBlank bothReadFirst (by decide +kernel)
  rcases h writesNear _ (by decide) hrun with ⟨a, hyields, hwritten, _⟩
  -- The first two bytes read as zeros, although their write returned.
  have hread := exec_deviceRun (P := Policy.quiet) MemoryBackend.run (smallDevice.readAt 0 2)
    (runSchedule (S := deviceSig) (deviceRun MemoryBackend.run) bothReadFirst
      (fun i => smallDevice.writeAt (writesNear i).1 (writesNear i).2) smallBlank).2
  rw [show ((smallDevice.readAt 0 2).eval (deviceRun MemoryBackend.run)
    (runSchedule (S := deviceSig) (deviceRun MemoryBackend.run) bothReadFirst
      (fun i => smallDevice.writeAt (writesNear i).1 (writesNear i).2) smallBlank).2).1
        = .ok [0, 0] by decide +kernel] at hread
  have hzero := (hyields 0 2 _ _ hread (by decide)).1 [0, 0] rfl
  have hone : span a 0 2 = [1, 2] := hwritten false
  rw [hone] at hzero
  cases hzero

end Small

end TgDrive
