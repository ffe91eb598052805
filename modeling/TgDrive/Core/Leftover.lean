import TgDrive.Core.Transparency

/-!
# Reading over a Store of Any Kind

A device opened with a manifest from a store that may hold anything: rows that
were never flushed, files of other generations, files that were cut off.
Nothing is assumed of the store, only that the manifest lists the objects of
the device and that the remote side has them and stands still.

Whether such a device reads what its manifest describes is a matter of the
store alone. A row goes before the manifest, so its file has to carry the same
object, and a file in the cache goes before the remote side, so it has to pass
its checks. `LocalStore.Faithful` says both, of as much of an object as is
inside the device, and `reads_iff_faithful` that nothing else is needed and
nothing less will do.

## Main definitions

* `Carries`: A file passes its checks and carries an object.
* `LocalStore.Faithful`: What a store has of an object is what a manifest says.
* `Steady`: A remote side that serves what it has and stays as it is.
* `World.Reads`: Every range of a device is read as an array.

## Theorems

* `eval_readObject_faithful`: An object is read over a faithful store.
* `faithful_of_readObject`: An object that is read was faithful.
* `reads_iff_faithful`: When a device reads what its manifest describes.
-/

namespace TgDrive

open Data Effect

section Crates

variable [Crates]

/-- A file that passes the checks of a read and carries an object, as far as
    the object is inside the device. -/
def Carries (map : BlockMap) (object : Bytes) (id gen : Nat) (sha : Text) (b : Bytes) : Prop :=
  sha256Hex b = sha ∧ ∃ env, ObjectEnvelope.decode b id gen = .ok env ∧
    (padObject env.payload map.objectSize).take (map.deviceSize - id * map.objectSize)
      = object.take (map.deviceSize - id * map.objectSize)

/-- What a store has of an object is what a manifest says of it: the file of
    its row, or else the file in the cache, if there is one. -/
structure LocalStore.Faithful (map : BlockMap) (m : Manifest) (objects : Nat → Bytes)
    (s : LocalStore) (id : Nat) : Prop where
  dirty : ∀ d, s.dirtyObject id = some d → ∃ b, s.files d.cachePath = some b ∧
    Carries map (objects id) id d.generation d.sha256 b
  cached : s.dirtyObject id = none → ∀ e sha, m.find id = some e → e.zero = false →
    e.sha256 = some sha → ∀ b, s.files (LocalStore.cachePath id e.generation) = some b →
      Carries map (objects id) id e.generation sha b

variable {ρ : Type} (R : (c : Call) → ρ → Except String c.Resp × ρ)

/-- A remote side that serves every object it has, and stays as it is. -/
def Steady (messages : Int → Option Bytes) (r : ρ) : Prop :=
  ∀ (ref : RemoteObjectRef) b env, messages ref.messageId = some b →
    ObjectEnvelope.decode b ref.objectId ref.generation = .ok env → sha256Hex b = ref.sha256 →
    R (.fetchObject ref) r = (.ok b, r)

/-- Every range of a device is read as that of an array. -/
def World.Reads (dev : BlockDevice) (w : World ρ) (a : Nat → UInt8) : Prop :=
  ∀ offset len, offset + len ≤ dev.map.deviceSize →
    ((dev.readAt offset len).eval (deviceRun R) w).1 = .ok (span a offset len)

/-- The manifest has an intact object, or a blank one, for every id of the
    device. -/
def Manifest.Intact (m : Manifest) (map : BlockMap) (messages : Int → Option Bytes) : Prop :=
  ∀ id, id * map.objectSize < map.deviceSize → ∃ e, m.find id = some e ∧
    (e.zero = false → e.Live messages)

variable (dev : BlockDevice) (m : Manifest) (messages : Int → Option Bytes) (r : ρ)

/-- A device over a faithful store. -/
structure Ready (w : World ρ) : Prop where
  manifest : w.manifest = m
  free : w.locked = false
  remote : w.remote = r
  faithful : ∀ id, id * dev.map.objectSize < dev.map.deviceSize →
    w.store.Faithful dev.map m (m.content messages dev.map.objectSize) id

/-- A remote object carries what the manifest says of it. -/
theorem ManifestObject.Live.carries (e : ManifestObject) (id : Nat) (hf : m.find id = some e)
    (hz : e.zero = false) (h : e.Live messages) : ∃ remote sha b, e.remote = some remote ∧
      e.sha256 = some sha ∧ messages remote.messageId = some b ∧ remote.objectId = id ∧
      remote.generation = e.generation ∧ remote.sha256 = sha ∧
      Carries dev.map (m.content messages dev.map.objectSize id) id e.generation sha b := by
  rcases h with ⟨remote, sha, b, env, hr, hs, hraw, hsum, henv, hid, hgen, hrsha⟩
  have heid := m.objectId_of_find id e hf
  rw [heid] at henv hid
  refine ⟨remote, sha, b, hr, hs, hraw, hid, hgen, hrsha, hsum, env, henv, ?_⟩
  rw [Manifest.content_remote _ _ _ _ e remote hf hz hr, hraw, Option.getD_some,
    pad_decode _ _ _ _ env henv]

/-- Rows of the cache do not matter to a faithful store. -/
theorem Ready.rowsOnly (w : World ρ) (hw : Ready dev m messages r w)
    (t : Data.Table CacheEntry.key) : Ready dev m messages r (w.withRows t) where
  manifest := hw.manifest
  free := hw.free
  remote := hw.remote
  faithful := fun i hi => {
    dirty := (hw.faithful i hi).dirty
    cached := (hw.faithful i hi).cached }

/-- A store stays faithful when what a remote object carries goes where no file
    was. -/
theorem Ready.filled (w : World ρ) (hw : Ready dev m messages r w) (id : Nat) (e : ManifestObject)
    (sha : Text) (b : Bytes) (hf : m.find id = some e) (hs : e.sha256 = some sha)
    (hfile : w.store.files (LocalStore.cachePath id e.generation) = none)
    (hcarries : Carries dev.map (m.content messages dev.map.objectSize id) id e.generation sha b) :
    Ready dev m messages r
      (applyAll ((LocalOp.writeCache id e.generation b).effects w) w) := by
  have hfiles : ∀ p, (applyAll ((LocalOp.writeCache id e.generation b).effects w) w).store.files p
      = if p = LocalStore.cachePath id e.generation then some b else w.store.files p :=
    LocalStore.files_writeFile _ _ _
  refine {
    manifest := hw.manifest
    free := hw.free
    remote := hw.remote
    faithful := fun i hi => {
      dirty := fun d hd => ?_
      cached := fun hd e' sha' hf' hz hs' b' hb => ?_ } }
  · rcases (hw.faithful i hi).dirty d hd with ⟨b', hb, hrest⟩
    rw [hfiles]
    by_cases hp : d.cachePath = LocalStore.cachePath id e.generation
    · -- The file of a row was there before.
      rw [hp, hfile] at hb
      cases hb
    · rw [if_neg hp]
      exact ⟨b', hb, hrest⟩
  · rw [hfiles] at hb
    by_cases hp : LocalStore.cachePath i e'.generation = LocalStore.cachePath id e.generation
    · -- The file is that of the object itself.
      rw [if_pos hp, Option.some.injEq] at hb
      have hi : i = id := congrArg CachePath.objectId hp
      rw [hi, hf, Option.some.injEq] at hf'
      rw [← hf', hs, Option.some.injEq] at hs'
      rw [hi, ← hf', ← hs', ← hb]
      exact hcarries
    · rw [if_neg hp] at hb
      exact (hw.faithful i hi).cached hd e' sha' hf' hz hs' b' hb

/-- An object of a faithful store is read, as far as it is inside the device,
    and the store stays faithful. -/
theorem eval_readObject_faithful (hsteady : Steady R messages r)
    (hm : m.Intact dev.map messages) (id : Nat) (hid : id * dev.map.objectSize < dev.map.deviceSize)
    (w : World ρ) (hw : Ready dev m messages r w) :
    ∃ object w', (dev.readObject id).eval (deviceRun R) w = (.ok object, w') ∧
      object.length = dev.map.objectSize ∧
      object.take (dev.map.deviceSize - id * dev.map.objectSize)
        = (m.content messages dev.map.objectSize id).take
          (dev.map.deviceSize - id * dev.map.objectSize) ∧
      Ready dev m messages r w' := by
  have hfaithful := hw.faithful id hid
  rcases hd : w.store.dirtyObject id with _ | d
  · rcases hm id hid with ⟨e, hf, hlive⟩
    have hf' : w.manifest.find id = some e := by rw [hw.manifest, hf]
    by_cases hz : e.zero = true
    · -- Blank: the store is not asked.
      refine ⟨List.replicate dev.map.objectSize 0, w,
        eval_readObject_blank R dev id w hw.free hd e hf' hz, List.length_replicate, ?_, hw⟩
      rw [Manifest.content_zero _ _ _ _ e hf hz]
    · simp only [Bool.not_eq_true] at hz
      rcases (hlive hz).carries dev m messages e id hf hz with
        ⟨remote, sha, b, hr, hs, hraw, hrid, hrgen, hrsha, hcarries⟩
      rcases hfile : w.store.files (LocalStore.cachePath id e.generation) with _ | cached
      · -- Not in the cache: the remote object is fetched and put there.
        rcases hcarries with ⟨hsum, env, henv, htake⟩
        have hfetch : R (.fetchObject remote) w.remote = (.ok b, w.remote) := by
          rw [hw.remote]
          exact hsteady remote b env hraw (by rw [hrid, hrgen]; exact henv) (by rw [hsum, hrsha])
        exact ⟨_, _, eval_readObject_fetched R dev id w hw.free hd e hf' hz remote sha hr hs b env _
          hfile hfetch hsum henv, length_padObject _ _, htake,
          Ready.filled dev m messages r w hw id e sha b hf hs hfile ⟨hsum, env, henv, htake⟩⟩
      · -- In the cache: the file is read, and only its row changes.
        rcases hfaithful.cached hd e sha hf hz hs cached hfile with ⟨hsum, env, henv, htake⟩
        rcases eval_readObject_cached R dev id w hw.free hd e hf' hz remote sha hr hs cached env
          hfile hsum henv with ⟨t, hread⟩
        exact ⟨_, _, hread, length_padObject _ _, htake, Ready.rowsOnly dev m messages r w hw t⟩
  · -- A row: its file goes before what the manifest says.
    rcases hfaithful.dirty d hd with ⟨b, hb, hsum, env, henv, htake⟩
    exact ⟨_, w, eval_readObject_row R dev id w d b env hd hb hsum henv, length_padObject _ _,
      htake, hw⟩

omit [Crates] in
/-- A list has no more elements than its length. -/
theorem take_of_length (l : Bytes) (n size : Nat) (h : l.length = size) :
    l.take n = l.take (min n size) := by
  rw [← h]
  exact List.take_eq_take_min

omit [Crates] in
/-- Lists that begin alike have the same stretches there. -/
theorem stretch_of_take (l l' : Bytes) (n o t : Nat) (hn : o + t ≤ n) (h : l.take n = l'.take n) :
    (l.drop o).take t = (l'.drop o).take t := by
  have hpre : ∀ x : Bytes, (x.drop o).take t = ((x.take n).drop o).take t := by
    intro x
    rw [List.drop_take, List.take_take, Nat.min_eq_left (by omega)]
  rw [hpre l, hpre l', h]

/-- Bytes that decode to an object that is read carry what the manifest says of
    it, if the object is as described. -/
theorem carries_of_decode (id gen : Nat) (sha : Text) (b object : Bytes) (w : World ρ)
    (hsum : sha256Hex b = sha)
    (hread : ((decodeEnvelope b id gen >>= fun env =>
      pure (padObject env.payload dev.map.objectSize) : Prog deviceSig Bytes).eval
        (deviceRun R) w).1 = .ok object)
    (hobject : object.take (min (dev.map.deviceSize - id * dev.map.objectSize) dev.map.objectSize)
      = (m.content messages dev.map.objectSize id).take
        (min (dev.map.deviceSize - id * dev.map.objectSize) dev.map.objectSize)) :
    Carries dev.map (m.content messages dev.map.objectSize id) id gen sha b := by
  rcases henv : ObjectEnvelope.decode b id gen with failure | env
  · simp only [decodeEnvelope, henv] at hread
    cases hread
  · rw [Prog.eval_bind_ok _ _ _ _ _ _ (eval_decode R b id gen env _ henv)] at hread
    have hpad : padObject env.payload dev.map.objectSize = object := Except.ok.inj hread
    refine ⟨hsum, env, henv, ?_⟩
    rw [take_of_length _ _ _ (length_padObject _ _), hpad, hobject,
      ← take_of_length _ _ _ (m.length_content messages _ id)]

/-- An object that is read, and as the manifest describes it as far as it is
    inside the device, was faithful. -/
theorem faithful_of_readObject (hm : m.Intact dev.map messages) (id : Nat)
    (hid : id * dev.map.objectSize < dev.map.deviceSize) (w : World ρ)
    (hmanifest : w.manifest = m) (hfree : w.locked = false) (object : Bytes)
    (hread : ((dev.readObject id).eval (deviceRun R) w).1 = .ok object)
    (hobject : object.take (min (dev.map.deviceSize - id * dev.map.objectSize) dev.map.objectSize)
      = (m.content messages dev.map.objectSize id).take
        (min (dev.map.deviceSize - id * dev.map.objectSize) dev.map.objectSize)) :
    w.store.Faithful dev.map m (m.content messages dev.map.objectSize) id where
  dirty := by
    intro d hd
    unfold BlockDevice.readObject at hread
    rcases hb : w.store.files d.cachePath with _ | b
    · have hrow : (LocalOp.readDirty id).answer w = .error "No such file or directory" := by
        simp only [LocalOp.answer, hd, readFileAt, hb]
      rw [Prog.eval_bind_error _ _ _ _ _ _ (eval_disk_error R _ w _ hrow)] at hread
      cases hread
    · have hrow : (LocalOp.readDirty id).answer w = .ok (some (d, b)) := by
        simp only [LocalOp.answer, hd, readFileAt, hb]
      rw [Prog.eval_bind_ok _ _ _ _ _ _ (eval_disk_ok R _ w _ hrow)] at hread
      change ((Prog.ensure (decide (sha256Hex b = d.sha256)) _ >>= _ :
        Prog deviceSig Bytes).eval (deviceRun R) w).1 = .ok object at hread
      by_cases hsum : sha256Hex b = d.sha256
      · rw [decide_eq_true hsum, Prog.eval_bind_ok _ _ _ w w () rfl] at hread
        exact ⟨b, rfl, carries_of_decode R dev m messages id _ _ b object w hsum hread hobject⟩
      · rw [decide_eq_false hsum] at hread
        cases hread
  cached := by
    intro hd e sha hf hz hs b hb
    rcases hm id hid with ⟨e', hf', hlive⟩
    rw [hf, Option.some.injEq] at hf'
    rw [← hf'] at hlive
    rcases hlive hz with ⟨remote, _, _, _, hr, _⟩
    rw [eval_readObject_clean R dev id w hfree hd e (by rw [hmanifest, hf]) hz remote sha hr hs]
      at hread
    rcases hlook : (LocalOp.readCache id e.generation sha).answer w with msg | a
    · rw [Prog.eval_bind_error _ _ _ _ _ _ (eval_disk_error R _ w _ hlook)] at hread
      cases hread
    · have hans := answer_readCache w id e.generation sha a hlook
      rw [hb] at hans
      rw [hans] at hlook
      rw [Prog.eval_bind_ok _ _ _ _ _ _ (eval_disk_ok R _ w _ hlook)] at hread
      change ((decodeEnvelope b id e.generation >>= _ : Prog deviceSig Bytes).eval
        (deviceRun R) _).1 = .ok object at hread
      have hsum : sha256Hex b = sha := by
        by_contra hne
        simp only [LocalOp.answer, LocalStore.readCache, hb, ne_eq, hne, not_false_eq_true,
          if_true, reduceCtorEq] at hlook
      exact carries_of_decode R dev m messages id _ sha b object _ hsum hread hobject

/-- The rounds of a read over a faithful store. -/
theorem eval_readLoop_faithful (hsteady : Steady R messages r) (hm : m.Intact dev.map messages)
    (hpos : 0 < dev.map.objectSize) (rounds cursor left : Nat) (out : Bytes) (w : World ρ)
    (hrounds : left ≤ rounds) (hin : cursor + left ≤ dev.map.deviceSize)
    (hw : Ready dev m messages r w) :
    ((dev.readLoop rounds cursor left out).eval (deviceRun R) w).1
      = .ok (out ++ span (arrayOf dev.map.objectSize
          (m.content messages dev.map.objectSize)) cursor left, cursor + left) := by
  refine eval_readLoop_invariant R dev hpos _ (fun _ _ w => Ready dev m messages r w)
    (fun cursor left w hw hin => ?_) rounds cursor left out w hw hrounds hin
  have hdiv := Nat.div_add_mod cursor dev.map.objectSize
  rw [Nat.mul_comm] at hdiv
  rcases eval_readObject_faithful R dev m messages r hsteady hm
    (cursor / dev.map.objectSize) (by omega) w hw with ⟨object, w1, hread, _, hsame, hw1⟩
  refine ⟨object, w1, hread, fun take hle hobj => ⟨?_, hw1⟩⟩
  -- The stretch is inside the device, so it is as described.
  rw [stretch_of_take object (m.content messages dev.map.objectSize
      (cursor / dev.map.objectSize))
      (dev.map.deviceSize - cursor / dev.map.objectSize * dev.map.objectSize) _ _
      (by omega) hsame,
    stretch_arrayOf _ _ cursor take (m.length_content messages _ _) hobj]

/-- A device reads what its manifest describes if and only if its store is
    faithful to the manifest, as far as its objects are inside the device. -/
theorem reads_iff_faithful (hsteady : Steady R messages r) (hm : m.Intact dev.map messages)
    (hpos : 0 < dev.map.objectSize) (w : World ρ) (hmanifest : w.manifest = m)
    (hfree : w.locked = false) (hremote : w.remote = r) :
    w.Reads R dev (arrayOf dev.map.objectSize (m.content messages dev.map.objectSize)) ↔
      ∀ id, id * dev.map.objectSize < dev.map.deviceSize →
        w.store.Faithful dev.map m (m.content messages dev.map.objectSize) id := by
  constructor
  · intro hreads id hid
    generalize hlen : min (dev.map.deviceSize - id * dev.map.objectSize) dev.map.objectSize = len
    have hread := hreads (id * dev.map.objectSize) len (by omega)
    rw [eval_readAt R dev _ _ w (by omega)] at hread
    cases len with
    | zero => omega
    | succ left =>
        -- One round reads all there is of the object.
        have hlocate := locate_inside dev.map (id * dev.map.objectSize) hpos hid
        rw [Nat.mul_div_cancel _ hpos, Nat.mul_mod_left] at hlocate
        unfold BlockDevice.readLoop at hread
        rw [hlocate, Prog.eval_bind_ok _ _ _ w w _ rfl] at hread
        simp only [] at hread
        rw [Nat.sub_zero, Nat.min_eq_left (by omega), Nat.sub_self] at hread
        rcases hobject : (dev.readObject id).eval (deviceRun R) w with ⟨res, w1⟩
        cases res with
        | error msg =>
            rw [Prog.eval_bind_error _ _ _ _ _ _ hobject] at hread
            cases hread
        | ok object =>
            rw [Prog.eval_bind_ok _ _ _ _ _ _ hobject] at hread
            have hbytes : [] ++ (object.drop 0).take (left + 1) = span (arrayOf dev.map.objectSize
                (m.content messages dev.map.objectSize)) (id * dev.map.objectSize) (left + 1) := by
              cases left with
              | zero => exact Except.ok.inj hread
              | succ left => exact Except.ok.inj hread
            rw [List.nil_append, List.drop_zero] at hbytes
            refine faithful_of_readObject R dev m messages hm id hid w hmanifest hfree object
              (by rw [hobject]) ?_
            have hwhole := span_arrayOf dev.map.objectSize
              (m.content messages dev.map.objectSize) id (m.length_content messages _ id)
            have hpart := take_drop_span (arrayOf dev.map.objectSize
              (m.content messages dev.map.objectSize)) (id * dev.map.objectSize)
              dev.map.objectSize 0 (left + 1) (by omega)
            rw [hwhole, List.drop_zero] at hpart
            rw [hlen]
            exact hbytes.trans hpart.symm
  · intro hfaithful offset len hin
    have hloop := eval_readLoop_faithful R dev m messages r hsteady hm hpos len offset len [] w
      (Nat.le_refl len) hin ⟨hmanifest, hfree, hremote, hfaithful⟩
    rw [eval_readAt R dev offset len w hin, hloop]
    rfl

end Crates

end TgDrive
