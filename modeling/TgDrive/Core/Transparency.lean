import TgDrive.Core.Integrity

/-!
# The Cache and its Transparency

Whether a device with some cache reads what it would read with none. The
manifest is well formed and its remote objects are intact, and the cache holds
anything: files that are not there, that a crash has cut off, or that another
run of the device left under the same name.

A file that is there is never passed over. If its checksum is not the one on
record, the read of its object fails, and since nothing removes the file, so
does every later one. So the cache is transparent on a range exactly if none
of its objects has such a file.

## Main definitions

* `Serving`: A clean object whose remote object is intact.
* `World.bare`: A device with an empty cache.
* `readAll`: Reading some ranges, one after the other.

## Theorems

* `eval_readObject_serving`: An object is read if its file is not a bad one.
* `eval_readObject_bad`: A bad file makes the read fail.
* `eval_readLoop_invariant`: The rounds of a read that keep an invariant.
* `eval_readLoop_serving`, `sound_of_readLoop`: The objects of a range.
* `cache_transparent_iff`: When the cache is transparent.
* `cache_opaque`: A file that was cut off.
-/

namespace TgDrive

open Data Effect

section Crates

variable [Crates] {ρ : Type} (R : (c : Call) → ρ → Except String c.Resp × ρ)
  {raw : ρ → Int → Option Bytes} {S : Set Bytes}

/-- An object without a dirty row whose entry is blank, or names an intact
    remote object, and what it is. -/
def Serving (raw : ρ → Int → Option Bytes) (objectSize : Nat) (w : World ρ)
    (objects : Nat → Bytes) (id : Nat) : Prop :=
  w.store.dirtyObject id = none ∧ ∃ e, w.manifest.find id = some e ∧
    (e.zero = false → e.Live (raw w.remote)) ∧
    objects id = w.manifest.content (raw w.remote) objectSize id

/-- Reads leave an intact object intact. -/
theorem Serving.kept (hR : Returns (Env.ofRun (S := remoteSig) R) raw) (objectSize : Nat)
    (w w' : World ρ) (h : Kept (Env.ofRun (S := remoteSig) R) S w w') (objects : Nat → Bytes)
    (id : Nat) (hs : Serving raw objectSize w objects id) :
    Serving raw objectSize w' objects id := by
  rcases hs with ⟨hd, e, hf, hlive, hobject⟩
  have hkeeps := fun i b => hR.called_keeps _ raw _ _ _ h.remote i b
  refine ⟨?_, e, by rw [h.manifest, hf], fun hz => (hlive hz).mono _ _ e hkeeps, ?_⟩
  · rw [LocalStore.dirtyObject, h.rows]
    exact hd
  · rw [hobject, h.manifest]
    rcases hz : e.zero with _ | _
    · rcases hlive hz with ⟨r, sha, b, env, hr, _, hraw, _⟩
      rw [Manifest.content_remote _ _ _ _ e r hf hz hr,
        Manifest.content_remote _ _ _ _ e r hf hz hr, hraw, hkeeps _ _ hraw]
    · rw [Manifest.content_zero _ _ _ _ e hf hz, Manifest.content_zero _ _ _ _ e hf hz]

/-- An operation on a disk that does what it is told. -/
theorem eval_disk_ok (l : LocalOp) (w : World ρ) (a : l.Resp) (h : l.answer w = .ok a) :
    (disk l).eval (deviceRun R) w = (.ok a, applyAll (l.effects w) w) := by
  refine (Prog.eval_perform (S := deviceSig) (deviceRun R) (.disk l) w).trans ?_
  change l.run w = _
  rw [LocalOp.run, h]

theorem eval_disk_error (l : LocalOp) (w : World ρ) (msg : String)
    (h : l.answer w = .error msg) : (disk l).eval (deviceRun R) w = (.error msg, w) := by
  refine (Prog.eval_perform (S := deviceSig) (deviceRun R) (.disk l) w).trans ?_
  change l.run w = _
  rw [LocalOp.run, h]

theorem eval_call (c : Call) (w : World ρ) : (call c).eval (deviceRun R) w
    = ((R c w.remote).1, { w with remote := (R c w.remote).2 }) :=
  Prog.eval_perform (S := deviceSig) (deviceRun R) (.call c) w

theorem eval_decode (encoded : Bytes) (id gen : Nat) (env : ObjectEnvelope) (w : World ρ)
    (h : ObjectEnvelope.decode encoded id gen = .ok env) :
    (decodeEnvelope encoded id gen).eval (deviceRun R) w = (.ok env, w) := by
  unfold decodeEnvelope
  rw [h]
  rfl

/-- The first steps of the read of an object that is neither dirty nor
    blank. -/
theorem eval_readObject_clean (dev : BlockDevice) (id : Nat) (w : World ρ)
    (hfree : w.locked = false) (hd : w.store.dirtyObject id = none) (e : ManifestObject)
    (hf : w.manifest.find id = some e) (hz : e.zero = false) (r : RemoteObjectRef) (sha : Text)
    (hr : e.remote = some r) (hs : e.sha256 = some sha) :
    (dev.readObject id).eval (deviceRun R) w
      = (disk (.readCache id e.generation sha) >>= fun found => match found with
        | some cached => do
            let envelope ← decodeEnvelope cached id e.generation
            pure (padObject envelope.payload dev.map.objectSize)
        | none => do
            let encoded ← call (.fetchObject r)
            Prog.ensure (sha256Hex encoded = sha) s!"remote checksum mismatch for object {id}"
            disk (.writeCache id e.generation encoded)
            let envelope ← decodeEnvelope encoded id e.generation
            pure (padObject envelope.payload dev.map.objectSize)).eval (deviceRun R) w := by
  have hrow : (LocalOp.readDirty id).answer w = .ok none := by
    simp only [LocalOp.answer, hd]
  have hpeek : LocalOp.peekManifest.answer w = .ok w.manifest := by
    simp only [LocalOp.answer, hfree, Bool.false_eq_true, if_false]
  unfold BlockDevice.readObject
  rw [Prog.eval_bind_ok _ _ _ _ _ _ (eval_disk_ok R _ w none hrow)]
  change (disk .peekManifest >>= _ : Prog deviceSig Bytes).eval (deviceRun R) w = _
  rw [Prog.eval_bind_ok _ _ _ _ _ _ (eval_disk_ok R _ w _ hpeek)]
  change (Prog.ofOption (w.manifest.find id) _ >>= _ : Prog deviceSig Bytes).eval (deviceRun R) w = _
  rw [hf, Prog.eval_bind_ok _ _ _ w w e rfl]
  simp only [hz, Bool.false_eq_true, if_false]
  rw [hr, Prog.eval_bind_ok _ _ _ w w r rfl, hs]
  exact Prog.eval_bind_ok _ _ _ w w sha rfl

/-- A blank object is read without its bytes. -/
theorem eval_readObject_blank (dev : BlockDevice) (id : Nat) (w : World ρ)
    (hfree : w.locked = false) (hd : w.store.dirtyObject id = none) (e : ManifestObject)
    (hf : w.manifest.find id = some e) (hz : e.zero = true) :
    (dev.readObject id).eval (deviceRun R) w
      = (.ok (List.replicate dev.map.objectSize 0), w) := by
  have hrow : (LocalOp.readDirty id).answer w = .ok none := by
    simp only [LocalOp.answer, hd]
  have hpeek : LocalOp.peekManifest.answer w = .ok w.manifest := by
    simp only [LocalOp.answer, hfree, Bool.false_eq_true, if_false]
  unfold BlockDevice.readObject
  rw [Prog.eval_bind_ok _ _ _ _ _ _ (eval_disk_ok R _ w none hrow)]
  change (disk .peekManifest >>= _ : Prog deviceSig Bytes).eval (deviceRun R) w = _
  rw [Prog.eval_bind_ok _ _ _ _ _ _ (eval_disk_ok R _ w _ hpeek)]
  change (Prog.ofOption (w.manifest.find id) _ >>= _ : Prog deviceSig Bytes).eval (deviceRun R) w = _
  rw [hf, Prog.eval_bind_ok _ _ _ w w e rfl]
  simp only [hz, if_true]
  rfl

/-- A dirty object is read from the file of its row. -/
theorem eval_readObject_row (dev : BlockDevice) (id : Nat) (w : World ρ) (d : DirtyObject)
    (b : Bytes) (env : ObjectEnvelope) (hd : w.store.dirtyObject id = some d)
    (hb : w.store.files d.cachePath = some b) (hsum : sha256Hex b = d.sha256)
    (henv : ObjectEnvelope.decode b id d.generation = .ok env) :
    (dev.readObject id).eval (deviceRun R) w
      = (.ok (padObject env.payload dev.map.objectSize), w) := by
  have hrow : (LocalOp.readDirty id).answer w = .ok (some (d, b)) := by
    simp only [LocalOp.answer, hd, readFileAt, hb]
  unfold BlockDevice.readObject
  rw [Prog.eval_bind_ok _ _ _ _ _ _ (eval_disk_ok R _ w _ hrow)]
  change (Prog.ensure (decide (sha256Hex b = d.sha256)) _ >>= _ : Prog deviceSig Bytes).eval
    (deviceRun R) w = _
  rw [decide_eq_true hsum, Prog.eval_bind_ok _ _ _ w w () rfl,
    Prog.eval_bind_ok _ _ _ _ _ _ (eval_decode R b id d.generation env _ henv)]
  rfl

section Clean

variable (dev : BlockDevice) (id : Nat) (w : World ρ) (hfree : w.locked = false)
  (hd : w.store.dirtyObject id = none) (e : ManifestObject) (hf : w.manifest.find id = some e)
  (hz : e.zero = false) (r : RemoteObjectRef) (sha : Text) (hr : e.remote = some r)
  (hs : e.sha256 = some sha)

include hfree hd hf hz hr hs

/-- A clean object is read from its file, and only the row of the file
    changes. -/
theorem eval_readObject_cached (cached : Bytes) (env : ObjectEnvelope)
    (hfile : w.store.files (LocalStore.cachePath id e.generation) = some cached)
    (hsum : sha256Hex cached = sha)
    (henv : ObjectEnvelope.decode cached id e.generation = .ok env) :
    ∃ t, (dev.readObject id).eval (deviceRun R) w
      = (.ok (padObject env.payload dev.map.objectSize), w.withRows t) := by
  have hlook : (LocalOp.readCache id e.generation sha).answer w = .ok (some cached) := by
    simp only [LocalOp.answer, LocalStore.readCache, hfile, hsum, ne_eq, not_true_eq_false,
      if_false]
  rcases applyAll_readCache w id e.generation sha with ⟨t, ht⟩
  refine ⟨t, ?_⟩
  rw [eval_readObject_clean R dev id w hfree hd e hf hz r sha hr hs,
    Prog.eval_bind_ok _ _ _ _ _ _ (eval_disk_ok R _ w _ hlook), ht]
  change (decodeEnvelope cached id e.generation >>= _ : Prog deviceSig Bytes).eval
    (deviceRun R) _ = _
  rw [Prog.eval_bind_ok _ _ _ _ _ _ (eval_decode R cached id e.generation env _ henv)]
  rfl

/-- Without a file it is fetched, and its bytes are put into the cache. -/
theorem eval_readObject_fetched (b : Bytes) (env : ObjectEnvelope) (s' : ρ)
    (hfile : w.store.files (LocalStore.cachePath id e.generation) = none)
    (hfetch : R (.fetchObject r) w.remote = (.ok b, s')) (hsum : sha256Hex b = sha)
    (henv : ObjectEnvelope.decode b id e.generation = .ok env) :
    (dev.readObject id).eval (deviceRun R) w = (.ok (padObject env.payload dev.map.objectSize),
      applyAll ((LocalOp.writeCache id e.generation b).effects { w with remote := s' })
        { w with remote := s' }) := by
  have hlook : (LocalOp.readCache id e.generation sha).answer w = .ok none := by
    simp only [LocalOp.answer, LocalStore.readCache, hfile]
  have hnone : (LocalOp.readCache id e.generation sha).effects w = [] := by
    simp only [LocalOp.effects, hfile, Option.isSome_none, Bool.false_eq_true, if_false]
  have hcall : (call (.fetchObject r)).eval (deviceRun R) w = (.ok b, { w with remote := s' }) := by
    rw [eval_call, hfetch]
  rw [eval_readObject_clean R dev id w hfree hd e hf hz r sha hr hs,
    Prog.eval_bind_ok _ _ _ _ _ _ (eval_disk_ok R _ w _ hlook), hnone, applyAll_nil]
  change (call (.fetchObject r) >>= _ : Prog deviceSig Bytes).eval (deviceRun R) w = _
  rw [Prog.eval_bind_ok _ _ _ _ _ _ hcall, decide_eq_true hsum, Prog.eval_bind_ok _ _ _ _ _ () rfl,
    Prog.eval_bind_ok _ _ _ _ _ _ (eval_disk_ok R (.writeCache id e.generation b) _ () rfl),
    Prog.eval_bind_ok _ _ _ _ _ _ (eval_decode R b id e.generation env _ henv)]
  rfl

end Clean

/-- An object whose file is there but is not the one on record is not read. -/
theorem eval_readObject_bad (dev : BlockDevice) (id : Nat) (w : World ρ) (objects : Nat → Bytes)
    (hfree : w.locked = false) (hs : Serving raw dev.map.objectSize w objects id)
    (e : ManifestObject) (hf : w.manifest.find id = some e) (hz : e.zero = false)
    (hbad : ¬w.CacheSound id e) :
    ∃ msg, (dev.readObject id).eval (deviceRun R) w = (.error msg, w) := by
  rcases hs with ⟨hd, e', hf', hlive, _⟩
  rw [hf, Option.some.injEq] at hf'
  rw [← hf'] at hlive
  rcases hlive hz with ⟨r, sha, b, env, hr, hsha, _⟩
  rw [eval_readObject_clean R dev id w hfree hd e hf hz r sha hr hsha]
  rcases hlook : (LocalOp.readCache id e.generation sha).answer w with msg | a
  · exact ⟨msg, Prog.eval_bind_error _ _ _ _ _ _ (eval_disk_error R _ w msg hlook)⟩
  · exact absurd (cacheSound_of_look w id e sha hsha a hlook).1 hbad

/-- An object that is intact and has no bad file is read, from wherever it
    is. -/
theorem eval_readObject_serving (hR : Returns (Env.ofRun (S := remoteSig) R) raw)
    (hserves : Serves (Env.ofRun (S := remoteSig) R) raw) (hS : Set.InjOn Sha256.digest S)
    (dev : BlockDevice) (id : Nat) (w : World ρ)
    (hw : Within (Env.ofRun (S := remoteSig) R) S w) (objects : Nat → Bytes)
    (hfree : w.locked = false) (hs : Serving raw dev.map.objectSize w objects id)
    (hsound : ∀ e, w.manifest.find id = some e → e.zero = false → w.CacheSound id e) :
    ((dev.readObject id).eval (deviceRun R) w).1 = .ok (objects id) := by
  rcases hs with ⟨hd, e, hf, hlive, hobject⟩
  rcases hz : e.zero with _ | _
  · rcases hlive hz with ⟨r, sha, b, env, hr, hsha, hraw, hsum, henv, hid, hgen, hrsha⟩
    have heid := w.manifest.objectId_of_find id e hf
    rw [heid] at henv hid
    have hpad : padObject env.payload dev.map.objectSize = objects id := by
      rw [hobject, Manifest.content_remote _ _ _ _ e r hf hz hr, hraw, Option.getD_some]
      exact pad_decode _ _ _ _ env henv
    -- The backend serves the object, and the class has its bytes.
    have hfetch : (R (.fetchObject r) w.remote).1 = .ok b := by
      have hstep : (Env.ofRun (S := remoteSig) R).step (.fetchObject r) w.remote
          (R (.fetchObject r) w.remote).1 (R (.fetchObject r) w.remote).2 := rfl
      rcases hserves r _ _ _ b env hstep hraw (by rw [hid, hgen]; exact henv) (hsum.trans hrsha.symm)
        with ⟨b', hb'⟩
      rw [hb'] at hstep
      have hgot := hR.fetched r b' _ _ hstep
      rw [hraw, Option.some.injEq] at hgot
      rw [hb', hgot]
    have hmem : b ∈ S := hw.fetched w.remote .refl r b (R (.fetchObject r) w.remote).2
      (Prod.ext hfetch rfl)
    rcases hfile : w.store.files (LocalStore.cachePath id e.generation) with _ | cached
    · rw [eval_readObject_fetched R dev id w hfree hd e hf hz r sha hr hsha b env _ hfile
        (Prod.ext hfetch rfl) hsum henv, hpad]
    · -- A sound file has the checksum of the remote object, so it is a copy.
      have hcsum : sha256Hex cached = sha := by
        have hrec := hsound e hf hz cached hfile
        rw [hsha, Option.some.injEq] at hrec
        exact hrec.symm
      have hsame : cached = b :=
        hS (hw.files _ _ hfile) hmem (digest_of_sha256Hex _ _ (hcsum.trans hsum.symm))
      rcases eval_readObject_cached R dev id w hfree hd e hf hz r sha hr hsha cached env hfile hcsum
        (by rw [hsame]; exact henv) with ⟨t, hread⟩
      rw [hread, hpad]
  · rw [eval_readObject_blank R dev id w hfree hd e hf hz, hobject,
      Manifest.content_zero _ _ _ _ e hf hz]

/-- What a read leaves behind, of a device that is a function. -/
theorem eval_readObject_kept (dev : BlockDevice) (id : Nat) (w : World ρ)
    (hw : Within (Env.ofRun (S := remoteSig) R) S w) :
    Kept (Env.ofRun (S := remoteSig) R) S w ((dev.readObject id).eval (deviceRun R) w).2 ∧
      ((dev.readObject id).eval (deviceRun R) w).2.locked = w.locked :=
  have hpost := wp_deviceRun R _ _ _ w (wp_readObject_attested (P := Policy.quiet) dev id w hw)
  ⟨hpost.1, hpost.2.1⟩

theorem eval_readAt_kept (dev : BlockDevice) (offset len : Nat) (w : World ρ)
    (hw : Within (Env.ofRun (S := remoteSig) R) S w) :
    Kept (Env.ofRun (S := remoteSig) R) S w ((dev.readAt offset len).eval (deviceRun R) w).2 ∧
      ((dev.readAt offset len).eval (deviceRun R) w).2.locked = w.locked :=
  have hpost := wp_deviceRun R _ _ _ w (wp_readAt_attested (P := Policy.quiet) dev offset len w hw)
  ⟨hpost.1, hpost.2.1⟩

omit [Crates] in
/-- What is left of a range after its first stretch touches no other objects
    than the range. -/
theorem Touched.later (map : BlockMap) (cursor len take id : Nat) (htake : take ≤ len)
    (h : Touched map (cursor + take) (len - take) id) : Touched map cursor len id := by
  rcases h with ⟨i, hlo, hhi, hdiv⟩
  exact ⟨i, by omega, by omega, hdiv⟩

/-- The rounds of a read that keep an invariant. If every round finds the object
    under the cursor, its stretch is one of the array, and the invariant holds
    of what is left, then the read returns the array's range. -/
theorem eval_readLoop_invariant (dev : BlockDevice) (hpos : 0 < dev.map.objectSize)
    (a : Nat → UInt8) (Inv : Nat → Nat → World ρ → Prop)
    (hstep : ∀ (cursor left : Nat) (w : World ρ), Inv cursor (left + 1) w →
      cursor + (left + 1) ≤ dev.map.deviceSize →
      ∃ object w1, (dev.readObject (cursor / dev.map.objectSize)).eval (deviceRun R) w
          = (.ok object, w1) ∧
        ∀ take, take ≤ left + 1 → cursor % dev.map.objectSize + take ≤ dev.map.objectSize →
          (object.drop (cursor % dev.map.objectSize)).take take = span a cursor take ∧
          Inv (cursor + take) (left + 1 - take) w1)
    (rounds : Nat) :
    ∀ (cursor left : Nat) (out : Bytes) (w : World ρ), Inv cursor left w → left ≤ rounds →
      cursor + left ≤ dev.map.deviceSize →
      ((dev.readLoop rounds cursor left out).eval (deviceRun R) w).1
        = .ok (out ++ span a cursor left, cursor + left) := by
  induction rounds with
  | zero =>
      intro cursor left out w _ hrounds _
      rw [Nat.le_zero.mp hrounds, span_zero, List.append_nil]
      rfl
  | succ rounds ih =>
      intro cursor left out w hinv hrounds hin
      cases left with
      | zero =>
          rw [span_zero, List.append_nil]
          rfl
      | succ left =>
          have hmod := Nat.mod_lt cursor hpos
          rcases hstep cursor left w hinv hin with ⟨object, w1, hobject, hround⟩
          unfold BlockDevice.readLoop
          rw [locate_inside dev.map cursor hpos (by omega), Prog.eval_bind_ok _ _ _ w w _ rfl]
          simp only []
          rw [Prog.eval_bind_ok _ _ _ _ _ _ hobject]
          generalize htake : min (left + 1)
            (dev.map.objectSize - cursor % dev.map.objectSize) = take
          -- The first stretch is one of the array, and the rest is a shorter read.
          rcases hround take (by omega) (by omega) with ⟨hstretch, hrest⟩
          rw [hstretch, ih (cursor + take) (left + 1 - take) _ w1 hrest (by omega) (by omega),
            List.append_assoc, ← span_add, show take + (left + 1 - take) = left + 1 by omega,
            show cursor + take + (left + 1 - take) = cursor + (left + 1) by omega]

/-- The rounds of a read over intact objects without bad files. -/
theorem eval_readLoop_serving (hR : Returns (Env.ofRun (S := remoteSig) R) raw)
    (hserves : Serves (Env.ofRun (S := remoteSig) R) raw) (hS : Set.InjOn Sha256.digest S)
    (dev : BlockDevice) (hpos : 0 < dev.map.objectSize) (objects : Nat → Bytes)
    (hlen : ∀ id, (objects id).length = dev.map.objectSize) (rounds cursor left : Nat)
    (out : Bytes) (w : World ρ) (hw : Within (Env.ofRun (S := remoteSig) R) S w)
    (hfree : w.locked = false) (hrounds : left ≤ rounds)
    (hin : cursor + left ≤ dev.map.deviceSize)
    (hserving : ∀ id, Touched dev.map cursor left id →
      Serving raw dev.map.objectSize w objects id)
    (hsound : ∀ id, Touched dev.map cursor left id → ∀ e, w.manifest.find id = some e →
      e.zero = false → w.CacheSound id e) :
    ((dev.readLoop rounds cursor left out).eval (deviceRun R) w).1
      = .ok (out ++ span (arrayOf dev.map.objectSize objects) cursor left, cursor + left) := by
  refine eval_readLoop_invariant R dev hpos (arrayOf dev.map.objectSize objects)
    (fun cursor left w => Within (Env.ofRun (S := remoteSig) R) S w ∧ w.locked = false ∧
      (∀ id, Touched dev.map cursor left id → Serving raw dev.map.objectSize w objects id) ∧
      ∀ id, Touched dev.map cursor left id → ∀ e, w.manifest.find id = some e →
        e.zero = false → w.CacheSound id e)
    (fun cursor left w hinv _ => ?_) rounds cursor left out w ⟨hw, hfree, hserving, hsound⟩
    hrounds hin
  rcases hinv with ⟨hw, hfree, hserving, hsound⟩
  have htouch : Touched dev.map cursor (left + 1) (cursor / dev.map.objectSize) :=
    ⟨cursor, Nat.le_refl _, by omega, rfl⟩
  have hobject := eval_readObject_serving R hR hserves hS dev _ w hw objects hfree
    (hserving _ htouch) (hsound _ htouch)
  rcases eval_readObject_kept R dev (cursor / dev.map.objectSize) w hw with ⟨hkept, hlock⟩
  refine ⟨_, _, Prod.ext hobject rfl, fun take hle hobj => ⟨stretch_arrayOf _ objects cursor take
    (hlen _) hobj, Kept.within w _ hkept hw, hlock.trans hfree, fun id hid => ?_,
    fun id hid e hf hz => ?_⟩⟩
  · exact Serving.kept R hR _ w _ hkept objects id
      (hserving id (hid.later dev.map cursor (left + 1) take id hle))
  · rw [hkept.manifest] at hf
    exact (Kept.sound w _ hkept id e hf).mpr
      (hsound id (hid.later dev.map cursor (left + 1) take id hle) e hf hz)

/-- A read of intact objects that succeeds has met no bad file. -/
theorem sound_of_readLoop (hR : Returns (Env.ofRun (S := remoteSig) R) raw)
    (dev : BlockDevice) (hpos : 0 < dev.map.objectSize) (objects : Nat → Bytes) (rounds : Nat) :
    ∀ (cursor left : Nat) (out : Bytes) (w : World ρ) (res : Bytes × Nat),
      Within (Env.ofRun (S := remoteSig) R) S w → w.locked = false →
      cursor + left ≤ dev.map.deviceSize →
      (∀ id, Touched dev.map cursor left id → Serving raw dev.map.objectSize w objects id) →
      ((dev.readLoop rounds cursor left out).eval (deviceRun R) w).1 = .ok res →
      ∀ id, Touched dev.map cursor left id → ∀ e, w.manifest.find id = some e →
        e.zero = false → w.CacheSound id e := by
  induction rounds with
  | zero =>
      intro cursor left out w res _ _ _ _ hok id hid
      cases left with
      | zero =>
          rcases hid with ⟨i, hlo, hhi, _⟩
          omega
      | succ left => cases hok
  | succ rounds ih =>
      intro cursor left out w res hw hfree hin hserving hok id hid e hf hz
      cases left with
      | zero =>
          rcases hid with ⟨i, hlo, hhi, _⟩
          omega
      | succ left =>
          have hmod := Nat.mod_lt cursor hpos
          have hdiv := Nat.div_add_mod cursor dev.map.objectSize
          rw [Nat.mul_comm] at hdiv
          have htouch : Touched dev.map cursor (left + 1) (cursor / dev.map.objectSize) :=
            ⟨cursor, Nat.le_refl _, by omega, rfl⟩
          rcases eval_readObject_kept R dev (cursor / dev.map.objectSize) w hw with ⟨hkept, hlock⟩
          unfold BlockDevice.readLoop at hok
          rw [locate_inside dev.map cursor hpos (by omega), Prog.eval_bind_ok _ _ _ w w _ rfl]
            at hok
          simp only [] at hok
          by_cases hfirst : id = cursor / dev.map.objectSize
          · -- A bad file of the first object would have stopped the read.
            by_contra hbad
            rw [hfirst] at hf hbad
            rcases eval_readObject_bad R dev _ w objects hfree (hserving _ htouch) e hf hz hbad with
              ⟨msg, herr⟩
            rw [Prog.eval_bind_error _ _ _ _ _ _ herr] at hok
            cases hok
          · rcases hobject : (dev.readObject (cursor / dev.map.objectSize)).eval (deviceRun R) w with
              ⟨r, w1⟩
            rw [hobject] at hkept hlock
            cases r with
            | error msg =>
                rw [Prog.eval_bind_error _ _ _ _ _ _ hobject] at hok
                cases hok
            | ok object =>
                rw [Prog.eval_bind_ok _ _ _ _ _ _ hobject] at hok
                generalize htake : min (left + 1)
                  (dev.map.objectSize - cursor % dev.map.objectSize) = take at hok
                have hlater : Touched dev.map (cursor + take) (left + 1 - take) id := by
                  rcases hid with ⟨i, hlo, hhi, hi⟩
                  refine ⟨i, ?_, by omega, hi⟩
                  -- Before the rest there are only positions of the first object.
                  by_contra hbefore
                  refine hfirst (hi.symm.trans (Nat.div_eq_of_lt_le (by omega) ?_))
                  rw [Nat.succ_mul]
                  omega
                have hrest := ih (cursor + take) (left + 1 - take) _ w1 res
                  (Kept.within w w1 hkept hw) (hlock.trans hfree) (by omega)
                  (fun j hj => Serving.kept R hR _ w w1 hkept objects j
                    (hserving j (hj.later dev.map cursor (left + 1) take j (by omega))))
                  hok id hlater e (by rw [hkept.manifest]; exact hf) hz
                exact (Kept.sound w w1 hkept id e hf).mp hrest

/-- A read inside the device answers what its rounds answer. The prefetch
    after them changes nothing about it. -/
theorem eval_readAt (dev : BlockDevice) (offset len : Nat) (w : World ρ)
    (hin : offset + len ≤ dev.map.deviceSize) :
    ((dev.readAt offset len).eval (deviceRun R) w).1
      = ((dev.readLoop len offset len []).eval (deviceRun R) w).1.map Prod.fst := by
  have hsize := dev.map.deviceSize_lt
  unfold BlockDevice.readAt
  rw [checkedAdd, if_pos (by omega), Prog.eval_bind_ok _ _ _ w w _ rfl, decide_eq_true hin,
    Prog.eval_bind_ok _ _ _ w w () rfl]
  rcases hloop : (dev.readLoop len offset len []).eval (deviceRun R) w with ⟨r, w1⟩
  cases r with
  | error msg =>
      rw [Prog.eval_bind_error _ _ _ _ _ _ hloop, hloop]
      rfl
  | ok res =>
      rw [Prog.eval_bind_ok _ _ _ _ _ _ hloop, hloop]
      rcases res with ⟨out, cursor⟩
      change _ = Except.ok out
      by_cases hmore : cursor < dev.map.deviceSize
      · simp only [hmore, if_true]
        rcases dev.map.locate cursor with msg | ⟨next, o⟩
        · rfl
        · cases o with
          | zero =>
              refine congrArg Prod.fst (Prog.eval_bind_ok _ _ _ _ _ _
                (Prog.eval_attempt (deviceRun R)
                  (BlockDevice.prefetchObjects next dev.readAheadObjects) w1))
          | succ o => rfl
      · simp only [hmore, if_false]
        rfl

/-- A device with an empty cache. -/
def World.bare (w : World ρ) : World ρ :=
  { w with store := { w.store with files := fun _ => none, cacheEntries := Table.empty } }

/-- The world after the reads of some ranges, one after the other. -/
def readAll (dev : BlockDevice) (ranges : List (Nat × Nat)) (w : World ρ) : World ρ :=
  ranges.foldl (fun w range => ((dev.readAt range.1 range.2).eval (deviceRun R) w).2) w

theorem readAll_kept (dev : BlockDevice) (ranges : List (Nat × Nat)) (w : World ρ)
    (hw : Within (Env.ofRun (S := remoteSig) R) S w) :
    Kept (Env.ofRun (S := remoteSig) R) S w (readAll R dev ranges w) ∧
      (readAll R dev ranges w).locked = w.locked := by
  induction ranges generalizing w with
  | nil => exact ⟨Kept.refl w, rfl⟩
  | cons range rest ih =>
      rcases eval_readAt_kept R dev range.1 range.2 w hw with ⟨hkept, hlock⟩
      rcases ih _ (Kept.within w _ hkept hw) with ⟨hrest, hlast⟩
      exact ⟨Kept.trans _ _ _ hkept hrest, hlast.trans hlock⟩

/-- After any reads, a range of intact clean objects is read as it would be
    with an empty cache if and only if no object of it that is not blank had,
    before them all, a file in the cache with another checksum than the one on
    record. -/
theorem cache_transparent_iff (hR : Returns (Env.ofRun (S := remoteSig) R) raw)
    (hserves : Serves (Env.ofRun (S := remoteSig) R) raw) (S : Set Bytes)
    (hS : Set.InjOn Sha256.digest S) (dev : BlockDevice) (hpos : 0 < dev.map.objectSize)
    (w : World ρ) (hw : Within (Env.ofRun (S := remoteSig) R) S w) (hfree : w.locked = false)
    (offset len : Nat) (hin : offset + len ≤ dev.map.deviceSize)
    (hclean : ∀ id, Touched dev.map offset len id → w.store.dirtyObject id = none)
    (hintact : ∀ id, Touched dev.map offset len id → ∃ e, w.manifest.find id = some e ∧
      (e.zero = false → e.Live (raw w.remote)))
    (earlier : List (Nat × Nat)) :
    (∃ b, ((dev.readAt offset len).eval (deviceRun R) (readAll R dev earlier w)).1 = .ok b ∧
      ((dev.readAt offset len).eval (deviceRun R) w.bare).1 = .ok b) ↔
    ∀ id, Touched dev.map offset len id → ∀ e, w.manifest.find id = some e →
      e.zero = false → w.CacheSound id e := by
  rcases readAll_kept R dev earlier w hw with ⟨hkept, hlock⟩
  have hlen := w.manifest.length_content (raw w.remote) dev.map.objectSize
  have hserving : ∀ id, Touched dev.map offset len id →
      Serving raw dev.map.objectSize w (w.manifest.content (raw w.remote) dev.map.objectSize) id := by
    intro id hid
    rcases hintact id hid with ⟨e, hf, hlive⟩
    exact ⟨hclean id hid, e, hf, hlive, rfl⟩
  have hlater := fun id hid => Serving.kept R hR _ w _ hkept _ id (hserving id hid)
  constructor
  · rintro ⟨b, hb, _⟩ id hid e hf hz
    rw [eval_readAt R dev offset len _ hin] at hb
    rcases hloop : ((dev.readLoop len offset len []).eval (deviceRun R)
      (readAll R dev earlier w)).1 with msg | res
    · rw [hloop] at hb
      cases hb
    · have hsound := sound_of_readLoop R hR dev hpos _ len offset len [] _ res
        (Kept.within w _ hkept hw) (hlock.trans hfree) hin hlater hloop id hid e
        (by rw [hkept.manifest]; exact hf) hz
      exact (Kept.sound w _ hkept id e hf).mp hsound
  · intro hsound
    have hread := eval_readLoop_serving R hR hserves hS dev hpos _ hlen len offset len [] _
      (Kept.within w _ hkept hw) (hlock.trans hfree) (Nat.le_refl len) hin hlater
      (fun id hid e hf hz => by
        rw [hkept.manifest] at hf
        exact (Kept.sound w _ hkept id e hf).mpr (hsound id hid e hf hz))
    -- With an empty cache there is no file to be bad.
    have hbare := eval_readLoop_serving R hR hserves hS dev hpos _ hlen len offset len [] w.bare
      { fetched := hw.fetched, got := hw.got, files := fun p b hb => (by cases hb) } hfree
      (Nat.le_refl len) hin hserving (fun id hid e hf hz b hb => (by cases hb))
    refine ⟨span (arrayOf dev.map.objectSize
      (w.manifest.content (raw w.remote) dev.map.objectSize)) offset len, ?_, ?_⟩
    · rw [eval_readAt R dev offset len _ hin, hread]
      rfl
    · rw [eval_readAt R dev offset len _ hin, hbare]
      rfl

end Crates

section Small

attribute [local instance] concreteCrates

/-- The uploaded object is in the channel and in the cache. -/
def smallBoth : World MemoryBackend := { smallFetched with store := smallCached.store }

/-- The uploaded object is in the channel, and in the cache there is a file
    that a crash has left empty. -/
def smallCutOff : World MemoryBackend :=
  { smallFetched with store := { LocalStore.empty with files := fun _ => some [] } }

theorem live_smallUploaded (e : ManifestObject) (hf : smallUploaded.find 0 = some e) :
    e.Live smallFetched.remote.messages := by
  rw [← Option.some.inj hf]
  exact ⟨_, _, smallEncoded, _, rfl, rfl, rfl, rfl, decode_encode
    { objectId := 0, generation := 1, objectSize := 4, flags := 0, payload := [1, 2, 3, 4] }
    ⟨by decide, by decide, by decide, by decide, by decide⟩, rfl, rfl, rfl⟩

theorem touched_first (id : Nat) (h : Touched smallMap 0 4 id) : id = 0 := by
  rcases h with ⟨i, _, hhi, hdiv⟩
  change i / 4 = id at hdiv
  omega

theorem cache_transparent_small : ∃ b,
    (((BlockDevice.new smallMap false).readAt 0 4).eval (deviceRun MemoryBackend.run)
      (readAll MemoryBackend.run (BlockDevice.new smallMap false) [(0, 2)] smallBoth)).1 = .ok b ∧
    (((BlockDevice.new smallMap false).readAt 0 4).eval (deviceRun MemoryBackend.run)
      smallBoth.bare).1 = .ok b := by
  refine (cache_transparent_iff MemoryBackend.run MemoryBackend.returns MemoryBackend.serves
    {smallEncoded} (Set.injOn_singleton _ _) (BlockDevice.new smallMap false) (by decide) smallBoth
    (MemoryBackend.within _ _ known_smallFetched (fun p b hb => (Option.some.inj hb).symm)) rfl
    0 4 (by decide) (fun id _ => rfl) (fun id hid => ?_) [(0, 2)]).mpr (fun id hid e hf hz => ?_)
  · rw [touched_first id hid]
    exact ⟨_, rfl, fun _ => live_smallUploaded _ rfl⟩
  · rw [touched_first id hid] at hf
    intro b hb
    rw [← Option.some.inj hf, ← Option.some.inj hb]

/-- The object of the torn file is intact, and readable with an empty cache,
    but not with this one. -/
theorem cache_opaque :
    (∃ e, smallCutOff.manifest.find 0 = some e ∧ e.Live smallCutOff.remote.messages) ∧
    (((BlockDevice.new smallMap false).readAt 0 4).eval (deviceRun MemoryBackend.run)
      smallCutOff.bare).1 = .ok [1, 2, 3, 4] ∧
    ¬∃ b, (((BlockDevice.new smallMap false).readAt 0 4).eval (deviceRun MemoryBackend.run)
      smallCutOff).1 = .ok b := by
  refine ⟨⟨_, rfl, live_smallUploaded _ rfl⟩, by decide +kernel, ?_⟩
  rintro ⟨b, hb⟩
  have herr : (((BlockDevice.new smallMap false).readAt 0 4).eval (deviceRun MemoryBackend.run)
      smallCutOff).1.isOk = false := by decide +kernel
  rw [hb] at herr
  cases herr

end Small

end TgDrive
