import TgDrive.Cli.Local
import TgDrive.Cli.Persistence
import TgDrive.Cli.Serve

/-!
# The Command Flush on a Device with a Channel

The command `flush` sends the dirty objects of a device to a backend in memory,
also when the device has a channel. It ends well, no object is dirty any more,
and the machine goes on reading all of them from its cache. But nothing came to
the channel. The stored manifest gives the objects the ids from one on, in the
order of the flush, and in the channel these are the ids of other messages.

So the channel has all objects of the stored manifest exactly if it happens to
have, under the first ids, documents with the right checksums.

## Main definitions

* `flushCommand`: The command.
* `Strayed`: A store after the command.

## Theorems

* `Uploads.counted`: The references a new backend in memory hands out.
* `flushCommand_strays`: What the command makes of a store.
* `Strayed.live_iff`: When a channel has what such a store refers to.
* `flush_command_iff`: What the command leaves, and when the channel has it.
-/

namespace TgDrive

open Data Effect

section Crates

variable [Crates]

/-- The command `flush`: a device over the store and a backend that has
    nothing. -/
def flushCommand (dev : BlockDevice) (chatId : Int) (s : LocalStore) :
    Except String Unit × LocalStore :=
  match openStore s (MemoryBackend.new chatId) with
  | .ok w => ((dev.flush.eval (deviceRun MemoryBackend.run) w).1,
      (dev.flush.eval (deviceRun MemoryBackend.run) w).2.store)
  | .error msg => (.error msg, s)

/-- Uploads to a new backend in memory are counted from one. -/
theorem Uploads.counted (chatId : Int) (files : CachePath → Option Bytes) (m0 m : Manifest)
    (s : MemoryBackend) (sent : List DirtyObject)
    (h : Uploads MemoryBackend.backend files m0 (MemoryBackend.new chatId) sent m s)
    (hids : (sent.map DirtyObject.objectId).Nodup) :
    s.chatId = chatId ∧ s.nextMessageId = sent.length + 1 ∧
      ∀ (k : Nat) d, sent[k]? = some d → ∃ b, ∃ e0 : ManifestObject, d.Sound files b ∧
        m.find d.objectId = some (e0.uploaded d {
          chatId := chatId
          messageId := k + 1
          objectId := d.objectId
          generation := d.generation
          sha256 := sha256Hex b } (sha256Hex b)) ∧ e0.objectId = d.objectId := by
  induction h with
  | none => exact ⟨rfl, rfl, fun k d hk => (by cases hk)⟩
  | next sent m m' s s' d b ref h hd hs hm ih =>
      rw [List.map_append, List.nodup_append] at hids
      rcases hids with ⟨hold, _, hdis⟩
      rcases ih hold with ⟨hchat, hnext, hrefs⟩
      have hrun : MemoryBackend.run (d.send b) s = (.ok ref, s') := hs
      simp only [MemoryBackend.run, Prod.mk.injEq, Except.ok.injEq] at hrun
      rcases hrun with ⟨rfl, rfl⟩
      refine ⟨hchat, ?_, fun k d' hk => ?_⟩
      · change s.nextMessageId + 1 = _
        rw [List.length_append, List.length_singleton, hnext]
        omega
      · by_cases hlast : k < sent.length
        · rw [List.getElem?_append_left hlast] at hk
          rcases hrefs k d' hk with ⟨b', e0, hsound, hfind, he0⟩
          have hne : d'.objectId ≠ d.objectId := fun hc =>
            hdis _ (List.mem_map_of_mem (List.mem_of_getElem? hk)) _
              (List.mem_map_of_mem (List.mem_singleton_self d)) hc
          refine ⟨b', e0, hsound, ?_, he0⟩
          rw [find_recordUpload m m' d _ _ hm, if_neg hne]
          exact hfind
        · have hk0 : k = sent.length := by
            have hlt := (List.getElem?_eq_some_iff.mp hk).1
            rw [List.length_append, List.length_singleton] at hlt
            omega
          rw [hk0, List.getElem?_concat_length, Option.some.injEq] at hk
          rcases recordUpload_eq_some m m' d _ _ hm with ⟨e0, hf, _⟩
          rw [← hk, hk0]
          refine ⟨b, e0, hd, ?_, m.objectId_of_find _ _ hf⟩
          rw [find_recordUpload m m' d _ _ hm, if_pos rfl, hf, Option.map_some, hchat, hnext]

/-- The entry of an uploaded object is live where a document with the checksum
    of the object is, under the id of its reference. -/
theorem live_uploaded (messages : Int → Option Bytes) (e0 : ManifestObject) (d : DirtyObject)
    (ref : RemoteObjectRef) (he0 : e0.objectId = d.objectId) (hid : ref.objectId = d.objectId)
    (hgen : ref.generation = d.generation) (hsha : ref.sha256 = d.sha256) :
    (e0.uploaded d ref d.sha256).Live messages ↔ ∃ b env,
      messages ref.messageId = some b ∧ sha256Hex b = d.sha256 ∧
        ObjectEnvelope.decode b d.objectId d.generation = .ok env := by
  constructor
  · rintro ⟨r, sha, b, env, hr, hs, hb, hsum, henv, _⟩
    rw [ManifestObject.uploaded, Option.some.injEq] at hr hs
    rw [← hr] at hb
    rw [show (e0.uploaded d ref d.sha256).objectId = d.objectId from he0] at henv
    exact ⟨b, env, hb, hsum.trans hs.symm, henv⟩
  · rintro ⟨b, env, hb, hsum, henv⟩
    refine ⟨ref, d.sha256, b, env, rfl, rfl, hb, hsum, ?_, hid.trans he0.symm, hgen, hsha⟩
    rw [show (e0.uploaded d ref d.sha256).objectId = d.objectId from he0]
    exact henv

/-- What the command leaves of a store and its manifest: the same files, and
    for the dirty objects the references of a backend that counts from one. -/
structure Strayed (chatId : Int) (s : LocalStore) (m : Manifest) (s' : LocalStore)
    (m' : Manifest) : Prop where
  rows : ∀ id, s'.dirtyObject id = none
  loads : s'.loadManifest = .ok (some m')
  files : s'.files = s.files
  clean : ∀ id, s.dirtyObject id = none → m'.find id = m.find id
  dirty : ∀ (k : Nat) d, s.dirtyRows[k]? = some d → ∃ b, ∃ e0 : ManifestObject,
    d.Sound s.files b ∧ e0.objectId = d.objectId ∧ m'.find d.objectId = some (e0.uploaded d {
      chatId := chatId
      messageId := k + 1
      objectId := d.objectId
      generation := d.generation
      sha256 := d.sha256 } d.sha256)

/-- The command goes through when all is ready for a flush. -/
theorem flushCommand_strays (dev : BlockDevice) (hcommit : dev.committer = false) (chatId : Int)
    (s : LocalStore) (m : Manifest) (hload : s.loadManifest = .ok (some m))
    (hrows : s.dirtyRows ≠ [])
    (hready : FlushReady (World.served s m (MemoryBackend.new chatId))) :
    ∃ s' m', flushCommand dev chatId s = (.ok (), s') ∧ Strayed chatId s m s' m' := by
  have hopen : openStore s (MemoryBackend.new chatId)
      = .ok (World.served s m (MemoryBackend.new chatId)) := by
    rw [openStore, hload]
    rfl
  rcases eval_flush_ready MemoryBackend.run dev (MemoryBackend.willing dev hcommit) _ rfl hready
    with ⟨w, hrun, _, hflush⟩
  cases hflush with
  | idle hnil => exact absurd hnil hrows
  | early _ _ ho => exact absurd rfl ho
  | stopped _ _ ho => exact absurd rfl ho
  | refused _ _ _ ho => exact absurd rfl ho
  | cut _ _ _ ho => exact absurd rfl ho
  | finished _ r _ hup _ hstore =>
      refine ⟨w.store, w.manifest, ?_, {
        rows := fun id => ?_
        loads := ?_
        files := ?_
        clean := fun id hid => ?_
        dirty := fun k d hk => ?_ }⟩
      · rw [flushCommand, hopen]
        simp only [hrun]
      · rw [hstore]
        exact LocalStore.dirtyObject_clear _ id
      · rw [hstore, LocalStore.loadManifest_congr _ _ (LocalStore.manifestState_clear _),
          LocalStore.loadManifest_setManifestState]
      · rw [hstore]
        rfl
      · refine hup.find_other id fun d hd hsame => ?_
        rw [← hsame, (LocalStore.mem_dirtyRows s d).mp hd] at hid
        cases hid
      · rcases (hup.counted chatId _ _ _ _ _ s.nodup_dirtyRows).2.2 k d hk with
          ⟨b, e0, hsound, hfind, he0⟩
        rw [hsound.sha] at hfind
        exact ⟨b, e0, hsound, he0, hfind⟩

omit [Crates] in
/-- A dirty object has its place in the flush. -/
theorem LocalStore.place (s : LocalStore) (id : Nat) (d : DirtyObject)
    (hd : s.dirtyObject id = some d) : ∃ k : Nat, s.dirtyRows[k]? = some d := by
  have hmem : d ∈ s.dirtyRows := by
    rw [LocalStore.mem_dirtyRows, s.objectId_of_dirtyObject id d hd]
    exact hd
  exact List.mem_iff_getElem?.mp hmem

namespace Strayed

variable {chatId : Int} {s' : LocalStore} {m m' : Manifest} {map : BlockMap} {w : World Channel}

/-- What was dirty is read from its file as before. -/
theorem read (h : Strayed chatId w.store m s' m') (dev : BlockDevice)
    (hw : Durable Channel.document map w) (id : Nat) (d : DirtyObject)
    (hd : w.store.dirtyObject id = some d) :
    OnDisk dev.map.objectSize (World.served s' m' w.remote) id
      (w.content Channel.document dev.map.objectSize id) := by
  rcases w.store.place id d hd with ⟨k, hk⟩
  rcases h.dirty k d hk with ⟨b, e0, hsound, _, hfind⟩
  rcases hsound.decodes with ⟨env, henv⟩
  rw [w.store.objectId_of_dirtyObject id d hd] at hfind henv
  have hfile : s'.files (LocalStore.cachePath id d.generation) = some b := by
    rw [h.files, ← hw.consistent.path id d hd]
    exact hsound.file
  rw [w.content_dirty _ _ _ d hd, hsound.file, Option.getD_some]
  exact .cached _ _ b env (h.rows id) hfind rfl rfl (congrArg some hsound.sha.symm) hfile henv

/-- The channel has all objects of the manifest if it has those that were
    dirty. -/
theorem live_iff (h : Strayed chatId w.store m s' m') (hw : Durable Channel.document map w)
    (hclean : ∀ id, w.store.dirtyObject id = none → m.find id = w.manifest.find id) :
    (∀ id e, m'.find id = some e → e.zero = false → e.Live w.remote.document) ↔
      ∀ (k : Nat) d, w.store.dirtyRows[k]? = some d → ∃ b env,
        w.remote.document (k + 1) = some b ∧ sha256Hex b = d.sha256 ∧
          ObjectEnvelope.decode b d.objectId d.generation = .ok env := by
  constructor
  · intro hall k d hk
    rcases h.dirty k d hk with ⟨b, e0, _, he0, hfind⟩
    exact (live_uploaded _ e0 d _ he0 rfl rfl rfl).mp (hall _ _ hfind rfl)
  · intro hall id e hf hz
    rcases hd : w.store.dirtyObject id with _ | d
    · rw [h.clean id hd, hclean id hd] at hf
      exact hw.live id e hd hf hz
    · rcases w.store.place id d hd with ⟨k, hk⟩
      rcases h.dirty k d hk with ⟨b, e0, _, he0, hfind⟩
      rw [← w.store.objectId_of_dirtyObject id d hd, hfind, Option.some.injEq] at hf
      rw [← hf]
      exact (live_uploaded _ e0 d _ he0 rfl rfl rfl).mpr (hall k d hk)

end Strayed

/-- What the command leaves of a device with a channel. It succeeds, without
    dirty objects, and what was dirty is read on this machine as before. The
    channel has all objects of the stored manifest if and only if it has, under
    the ids from one on, documents with the checksums of the dirty objects in
    their order. -/
theorem flush_command_iff (dev : BlockDevice) (hcommit : dev.committer = false)
    (hsize : 0 < dev.map.objectSize) (chatId : Int) (w : World Channel)
    (hw : Durable Channel.document dev.map w) (hrows : w.store.dirtyRows ≠ []) (m : Manifest)
    (hload : w.store.loadManifest = .ok (some m)) (hgen : m.generation + 1 < 2 ^ 64) :
    ∃ store' m', flushCommand dev chatId w.store = (.ok (), store') ∧
      store'.dirtyRows = [] ∧ store'.loadManifest = .ok (some m') ∧
      (∀ (R : (c : Call) → Channel → Except String c.Resp × Channel) id d,
        w.store.dirtyObject id = some d → ((dev.readObject id).eval (deviceRun R)
          (World.served store' m' w.remote)).1
            = .ok (w.content Channel.document dev.map.objectSize id)) ∧
      ((∀ id e, m'.find id = some e → e.zero = false → e.Live w.remote.document) ↔
        ∀ (k : Nat) d, w.store.dirtyRows[k]? = some d → ∃ b env,
          w.remote.document (k + 1) = some b ∧ sha256Hex b = d.sha256 ∧
            ObjectEnvelope.decode b d.objectId d.generation = .ok env) := by
  rcases hw.stored with ⟨m1, hload1, hcovers, hclean⟩
  rw [hload, Except.ok.injEq, Option.some.injEq] at hload1
  rw [← hload1] at hcovers hclean
  rcases flushCommand_strays dev hcommit chatId w.store m hload hrows {
    sound := fun id d hd => (hw.rows id d hd).2
    listed := fun id d hd => hcovers.find_isSome _ dev.map id (hw.rows id d hd).1 hsize
    nodup := hcovers.nodup
    generation := hgen } with ⟨s', m', hrun, h⟩
  refine ⟨s', m', hrun, (LocalStore.dirtyRows_eq_nil _).mpr h.rows, h.loads, ?_,
    h.live_iff hw hclean⟩
  intro R id d hd
  rcases (h.read dev hw id d hd).read R dev _ rfl id _ with ⟨t, heval⟩
  rw [heval]

end Crates

section Small

attribute [local instance] concreteCrates

/-- A channel with a document of somebody else's. -/
def smallShared : Channel := Channel.blank.post 0 [] (some [7])

/-- A device over it with a byte that was not flushed. -/
def smallOwing : World Channel := tgWritten 9 (World.opened (Manifest.empty ⟨7⟩ 4 2) smallShared)

/-- The command ends well, and the object is not in the channel. -/
theorem flush_command_small : ∃ store' m',
    flushCommand smallDevice (-100) smallOwing.store = (.ok (), store') ∧
      store'.loadManifest = .ok (some m') ∧
      ¬∀ id e, m'.find id = some e → e.zero = false → e.Live smallOwing.remote.document := by
  have hopened : Durable Channel.document smallMap
      (World.opened (Manifest.empty ⟨7⟩ 4 2) smallShared) :=
    durable_opened _ _ _ (sound_empty smallMap ⟨7⟩ _)
  rcases exec_tgWritten 9 (World.opened (Manifest.empty ⟨7⟩ 4 2) smallShared) with ⟨r, hex⟩
  have hw : Durable Channel.document smallMap smallOwing :=
    (Request.ends (returns_storage smallStorage) (echoes_storage smallStorage) careful_sparing
      smallCommitting (by decide) _ _ _ _ hex hopened _ (shows_array _ _ _)).1
  have hrow : smallOwing.store.dirtyRows.length = 1 := by decide +kernel
  have hremote : smallOwing.remote.document 1 = some [7] := by decide +kernel
  have hstate : smallOwing.store.manifestState = (World.opened (Manifest.empty ⟨7⟩ 4 2)
      smallShared).store.manifestState := by decide +kernel
  have hload := (LocalStore.loadManifest_congr _ _ hstate).trans
    (LocalStore.loadManifest_setManifestState (Manifest.empty ⟨7⟩ 4 2) LocalStore.empty)
  rcases flush_command_iff smallDevice rfl (by decide) (-100) smallOwing hw
    (by intro hnil; rw [hnil] at hrow; cases hrow) _ hload (by decide) with
    ⟨s', m', hrun, _, hload', _, hiff⟩
  refine ⟨s', m', hrun, hload', fun hall => ?_⟩
  rcases List.length_eq_one_iff.mp hrow with ⟨d, hd⟩
  rcases hiff.mp hall 0 d (by rw [hd]; rfl) with ⟨b, env, hb, _, henv⟩
  rw [show ((0 : Nat) : Int) + 1 = 1 from rfl, hremote, Option.some.injEq] at hb
  rw [← hb] at henv
  cases henv

end Small

end TgDrive
