import TgDrive.Telegram.ObjectSpec

/-!
# Sending and Fetching Manifests

What it means for a manifest to be in the channel: its envelope is there, or
the envelopes of its leaves and of a root that names them. `Stored` says so of
the three things a superblock records, a message id, a generation and a hash,
and of the encoding it says they are in.

A manifest that was sent is stored, whatever happens to the channel later is
stored still, and whoever asks for it by those three gets that manifest or an
error, never another one. It does not share a message with what was there
before, so that nothing is lost of it with older messages.

## Main definitions

* `envelopeOf`: The envelope of a part of a manifest.
* `LeafStored`, `Stored`: A manifest is in the channel.
* `Channel.KeepsFrom`: What was sent from an id on is still there.

## Theorems

* `Stored.grows`: A stored manifest stays stored.
* `wp_sendManifest`: A manifest that was sent is stored.
* `wp_fetchManifest`: Only the stored manifest is fetched.
* `eval_fetchManifest`: The stored manifest is fetched.
-/

namespace TgDrive

open Data Effect

-- Their values do not matter here, and are too large to be computed with.
attribute [local irreducible] manifestObjectId manifestTreeLeafBaseObjectId manifestTreeLeafSpan
  ObjectEnvelope.encode

/-- The envelope of a part of a manifest. -/
def envelopeOf [Sha256] (objectId generation objectSize : Nat) (payload : Bytes) : Bytes :=
  ObjectEnvelope.encode {
    objectId := objectId
    generation := generation
    objectSize := objectSize
    flags := 0
    payload := payload }

section Crates

variable [Crates] (storage : TelegramStorage)

/-- A document under a message id that is the envelope of a part of a manifest,
    and passes the checks of whoever fetches it. -/
structure PartStored (c : Channel) (objectId generation objectSize : Nat) (payload : Bytes)
    (messageId : Int) (sha : Text) : Prop where
  document : c.document messageId = some (envelopeOf objectId generation objectSize payload)
  decodes : ∃ e, ObjectEnvelope.decode (envelopeOf objectId generation objectSize payload)
    objectId generation = .ok e
  sha : sha = sha256Hex (envelopeOf objectId generation objectSize payload)

theorem PartStored.grows (c c' : Channel) (h : c.Grows c') (objectId generation objectSize : Nat)
    (payload : Bytes) (messageId : Int) (sha : Text)
    (hs : PartStored c objectId generation objectSize payload messageId sha) :
    PartStored c' objectId generation objectSize payload messageId sha where
  document := h.document c c' _ _ hs.document
  decodes := hs.decodes
  sha := hs.sha

/-- A leaf of a manifest is in the channel, where its reference says. -/
structure LeafStored (c : Channel) (m : Manifest) (objectSize : Nat) (leaf : ManifestTreeLeaf)
    (r : ManifestTreeLeafRef) : Prop where
  objectId : r.remote.objectId = ManifestTreeLeaf.objectIdForIndex leaf.leafIndex
  generation : r.remote.generation = m.generation
  part : PartStored c r.remote.objectId r.remote.generation objectSize leaf.encodeJson
    r.remote.messageId r.remote.sha256

/-- A manifest is in the channel, as one object or as a tree. -/
inductive Stored (c : Channel) (messageId : Int) (generation : Nat) (sha : Text)
    (m : Manifest) : ManifestEncoding → Prop
  | flat (objectSize : Nat) (hgen : generation = m.generation)
      (h : PartStored c manifestObjectId m.generation objectSize m.encodeJson messageId sha) :
      Stored c messageId generation sha m .flatJson
  | tree (objectSize : Nat) (refs : List ManifestTreeLeafRef) (hgen : generation = m.generation)
      (h : PartStored c manifestObjectId m.generation objectSize (m.treeRoot refs).encodeJson
        messageId sha)
      (hleaves : List.Forall₂ (LeafStored c m objectSize) (m.treeLeaves manifestTreeLeafSpan)
        refs)
      (hids : (refs.map (fun r => r.remote.messageId)).Nodup) :
      Stored c messageId generation sha m .tree

/-- A stored manifest stays stored. -/
theorem Stored.grows (c c' : Channel) (hc : c.Grows c') (messageId : Int) (generation : Nat)
    (sha : Text) (m : Manifest) (encoding : ManifestEncoding)
    (h : Stored c messageId generation sha m encoding) :
    Stored c' messageId generation sha m encoding := by
  cases h with
  | flat objectSize hgen h => exact .flat objectSize hgen (h.grows c c' hc)
  | tree objectSize refs hgen h hleaves hids =>
      refine .tree objectSize refs hgen (h.grows c c' hc) (hleaves.imp fun leaf r hl => ?_) hids
      exact { hl with part := hl.part.grows c c' hc }

/-- The documents under ids from some id on are still there. -/
def Channel.KeepsFrom (n : Int) (c c' : Channel) : Prop :=
  ∀ i b, n ≤ i → c.document i = some b → c'.document i = some b

omit [Crates] in
theorem Channel.KeepsFrom.refl (n : Int) (c : Channel) : c.KeepsFrom n c := fun _ _ _ hb => hb

omit [Crates] in
/-- A channel from before that grew loses no more. -/
theorem Channel.KeepsFrom.grown {n : Int} {c c' d : Channel} (h : c'.KeepsFrom n d)
    (hc : c.Grows c') : c.KeepsFrom n d := fun i b hi hb => h i b hi (hc.document c c' i b hb)

omit [Crates] in
theorem Channel.KeepsFrom.trans {n : Int} {c c' d : Channel} (h : c.KeepsFrom n c')
    (h' : c'.KeepsFrom n d) : c.KeepsFrom n d := fun i b hi hb => h' i b hi (h i b hi hb)

/-- A part under a new id is where older messages are lost. -/
theorem PartStored.kept {n : Int} {c d : Channel} {objectId generation objectSize : Nat}
    {payload : Bytes} {messageId : Int} {sha : Text}
    (hs : PartStored c objectId generation objectSize payload messageId sha)
    (hnew : n ≤ messageId) (h : c.KeepsFrom n d) :
    PartStored d objectId generation objectSize payload messageId sha where
  document := h _ _ hnew hs.document
  decodes := hs.decodes
  sha := hs.sha

/-- Sending a part of a manifest. -/
theorem wp_sendEnvelope (objectId generation objectSize : Nat) (payload : Bytes) (c : Channel) :
    wp Telegram (storage.sendEnvelope objectId generation objectSize payload)
      (fun r c' => c.Quiet c' ∧ ∀ ref, r = .ok ref → c.nextId ≤ ref.messageId ∧
        ref.messageId < c'.nextId ∧ ref.objectId = objectId ∧ ref.generation = generation ∧
        PartStored c' objectId generation objectSize payload ref.messageId ref.sha256)
      (fun c' => c.Quiet c') c := by
  have hquiet : ∀ c' sha, (c' = c ∨ ∃ gap, c' = c.sent gap objectId generation
      (envelopeOf objectId generation objectSize payload) sha) → c.Quiet c' := by
    intro c' sha h
    rcases h with rfl | ⟨gap, rfl⟩
    · exact Channel.Quiet.refl _
    · exact Channel.Quiet.sent c gap _ _ _ _
  refine wp_mono _ _ _ _ _ (fun r c' hr => ?_) (fun c' hc => hquiet c' _ hc) c
    (wp_sendObject storage objectId generation
      (envelopeOf objectId generation objectSize payload) _ c)
  cases r with
  | error msg => exact ⟨hquiet c' _ hr, fun ref href => (by cases href)⟩
  | ok ref =>
      rcases hr with ⟨gap, rfl, rfl, hdec⟩
      refine ⟨Channel.Quiet.sent c gap _ _ _ _, fun ref href => ?_⟩
      rw [← Except.ok.inj href]
      refine ⟨?_, ?_, rfl, rfl, {
        document := document_sent c gap _ _ _ _
        decodes := hdec
        sha := rfl }⟩
      · change c.nextId ≤ c.nextId + gap
        omega
      · change c.nextId + gap < c.nextId + gap + 1
        omega

/-- Sending the leaves of a manifest. -/
theorem wp_sendLeaves (m : Manifest) (objectSize : Nat) (leaves : List ManifestTreeLeaf)
    (c0 : Channel) : ∀ (done : List ManifestTreeLeaf) (refs : List ManifestTreeLeafRef)
      (c : Channel), c0.Quiet c →
      (∀ d, c.KeepsFrom c0.nextId d → List.Forall₂ (LeafStored d m objectSize) done refs) →
      (∀ r ∈ refs, r.remote.messageId < c.nextId) →
      (refs.map (fun r => r.remote.messageId)).Nodup →
      wp Telegram (leaves.foldlM (storage.sendLeaf m objectSize) refs)
        (fun r c' => c0.Quiet c' ∧ c.Grows c' ∧ ∀ res, r = .ok res →
          (∀ d, c'.KeepsFrom c0.nextId d →
            List.Forall₂ (LeafStored d m objectSize) (done ++ leaves) res) ∧
          (res.map (fun r => r.remote.messageId)).Nodup)
        (fun c' => c0.Quiet c') c := by
  induction leaves with
  | nil =>
      intro done refs c hq hstored _ hids
      refine ⟨hq, Channel.Grows.refl c, fun res hres => ?_⟩
      rw [← Except.ok.inj hres, List.append_nil]
      exact ⟨hstored, hids⟩
  | cons leaf rest ih =>
      intro done refs c hq hstored hold hids
      rw [List.foldlM_cons]
      unfold TelegramStorage.sendLeaf
      refine wp_seq _ _ (fun r c' => c0.Quiet c' ∧ c.Grows c' ∧ ∀ res, r = .ok res →
          (∀ d, c'.KeepsFrom c0.nextId d →
            List.Forall₂ (LeafStored d m objectSize) (done ++ [leaf]) res) ∧
          (∀ r ∈ res, r.remote.messageId < c'.nextId) ∧
          (res.map (fun r => r.remote.messageId)).Nodup)
        (fun c' => c0.Quiet c') _ _ c ?_ (fun res c' hr => ?_)
        (fun msg c' hr => ⟨hr.1, hr.2.1, fun res hres => (by cases hres)⟩) (fun c' hc => hc)
      · -- One leaf: it gets a new message, and those before it stay stored.
        refine wp_seq _ _ _ _ _ _ c (wp_sendEnvelope storage _ _ objectSize _ c)
          (fun ref c' hr => ?_)
          (fun msg c' hr => ⟨hq.trans _ _ _ hr.1, hr.1.grows, fun res hres => (by cases hres)⟩)
          (fun c' hc => hq.trans _ _ _ hc)
        rcases hr with ⟨hquiet, href⟩
        rcases href ref rfl with ⟨hnew, hlt, hid, hgen, hpart⟩
        refine ⟨hq.trans _ _ _ hquiet, hquiet.grows, fun res hres => ?_⟩
        rw [← Except.ok.inj hres]
        refine ⟨fun d hd => ?_, ?_, ?_⟩
        · refine List.rel_append (hstored d (hd.grown hquiet.grows)) (.cons ?_ .nil)
          exact {
            objectId := hid
            generation := hgen
            part := by
              change PartStored d ref.objectId ref.generation objectSize _ _ _
              rw [hid, hgen]
              exact hpart.kept (Int.le_trans hq.grows.nextId hnew) hd }
        · intro r hr
          rcases List.mem_append.mp hr with hr | hr
          · have hlt := hold r hr
            have hle := hquiet.grows.nextId
            omega
          · rw [List.mem_singleton.mp hr]
            exact hlt
        · -- The new id is above all old ones.
          rw [List.map_append, List.map_singleton, List.nodup_append]
          refine ⟨hids, List.nodup_singleton _, fun a ha b hb => ?_⟩
          rcases List.mem_map.mp ha with ⟨r, hr, rfl⟩
          have hlt := hold r hr
          rw [List.mem_singleton.mp hb]
          change r.remote.messageId ≠ ref.messageId
          omega
      · rcases hr with ⟨hq', hgrow, hres⟩
        rcases hres res rfl with ⟨hstored', hold', hids'⟩
        refine wp_mono _ _ _ _ _ (fun r c2 hr => ?_) (fun _ hc => hc) _
          (ih (done ++ [leaf]) res c' hq' hstored' hold' hids')
        rw [List.append_assoc, List.singleton_append] at hr
        exact ⟨hr.1, hgrow.trans _ _ _ hr.2.1, hr.2.2⟩

/-- The encoding of a manifest. -/
def Manifest.encoding (m : Manifest) : ManifestEncoding :=
  if TelegramStorage.usesTree m then .tree else .flatJson

/-- A manifest that was sent is stored, also where older messages are lost, and
    nothing else happened. -/
theorem wp_sendManifest (m : Manifest) (objectSize : Nat) (c : Channel) :
    wp Telegram (storage.sendManifest m objectSize)
      (fun r c' => c.Quiet c' ∧ ∀ ref, r = .ok ref → c.nextId ≤ ref.messageId ∧
        ref.messageId < c'.nextId ∧
        (∀ d, c'.KeepsFrom c.nextId d →
          Stored d ref.messageId ref.generation ref.sha256 m m.encoding) ∧
        ref.generation = m.generation)
      (fun c' => c.Quiet c') c := by
  -- The manifest is fetched once before its reference is handed out.
  have hback : ∀ (ref : RemoteObjectRef) (c' : Channel)
      (Q : RemoteObjectRef → Channel → Prop), c.Quiet c' → Q ref c' →
      wp Telegram (TelegramStorage.fetchObject ref >>= fun _ => pure ref)
        (fun r c2 => c.Quiet c2 ∧ ∀ ref, r = .ok ref → Q ref c2) (fun c2 => c.Quiet c2) c' := by
    intro ref c' Q hq hQ
    refine wp_seq _ _ _ _ _ _ c' (wp_fetchObject c' ref) (fun b c2 hr => ?_)
      (fun msg c2 hr => ?_) (fun c2 hc => ?_)
    · rw [hr.1]
      refine ⟨hq, fun ref' href => ?_⟩
      rw [← Except.ok.inj href]
      exact hQ
    · rw [hr.1]
      exact ⟨hq, fun ref href => (by cases href)⟩
    · rw [hc]
      exact hq
  unfold TelegramStorage.sendManifest Manifest.encoding
  by_cases htree : TelegramStorage.usesTree m = true
  · rw [if_pos htree, if_pos htree]
    unfold TelegramStorage.sendManifestTree
    refine wp_seq _ _ _ _ _ _ c (wp_sendLeaves storage m objectSize _ c [] [] c
      (Channel.Quiet.refl c) (fun d _ => .nil) (fun r hr => by cases hr) List.nodup_nil)
      (fun refs c1 hr => ?_)
      (fun msg c1 hr => ⟨hr.1, fun ref href => (by cases href)⟩) (fun c1 hc => hc)
    rcases hr with ⟨hq, _, hres⟩
    rcases hres refs rfl with ⟨hleaves, hids⟩
    refine wp_seq _ _ _ _ _ _ c1 (wp_sendEnvelope storage _ _ objectSize _ c1)
      (fun ref c2 hr => ?_)
      (fun msg c2 hr => ⟨hq.trans _ _ _ hr.1, fun ref href => (by cases href)⟩)
      (fun c2 hc => hq.trans _ _ _ hc)
    rcases hr with ⟨hq', href⟩
    rcases href ref rfl with ⟨hnew, hlt, hid, hgen, hpart⟩
    have hfresh := Int.le_trans hq.grows.nextId hnew
    refine hback ref c2 (fun ref c' => c.nextId ≤ ref.messageId ∧ ref.messageId < c'.nextId ∧
      (∀ d, c'.KeepsFrom c.nextId d →
        Stored d ref.messageId ref.generation ref.sha256 m .tree) ∧
      ref.generation = m.generation) (hq.trans _ _ _ hq') ?_
    exact ⟨hfresh, hlt, fun d hd => .tree objectSize refs hgen (hpart.kept hfresh hd)
      (hleaves d (hd.grown hq'.grows)) hids, hgen⟩
  · rw [if_neg htree, if_neg htree]
    refine wp_seq _ _ _ _ _ _ c (wp_sendEnvelope storage _ _ objectSize _ c)
      (fun ref c1 hr => ?_) (fun msg c1 hr => ⟨hr.1, fun ref href => (by cases href)⟩)
      (fun c1 hc => hc)
    rcases hr with ⟨hq, href⟩
    rcases href ref rfl with ⟨hnew, hlt, hid, hgen, hpart⟩
    exact hback ref c1 (fun ref c' => c.nextId ≤ ref.messageId ∧ ref.messageId < c'.nextId ∧
      (∀ d, c'.KeepsFrom c.nextId d →
        Stored d ref.messageId ref.generation ref.sha256 m .flatJson) ∧
      ref.generation = m.generation) hq
      ⟨hnew, hlt, fun d hd => .flat objectSize hgen (hpart.kept hnew hd), hgen⟩

/-- A superblock whose manifest is in the channel. -/
def Superblock.Names (sb : Superblock) (c : Channel) (m : Manifest) : Prop :=
  Stored c sb.currentManifestMessageId sb.manifestGeneration sb.manifestHash m sb.manifestEncoding

omit [Crates] in
/-- Different messages are all found. -/
theorem answers_nodup (c : Channel) (ids : List Int) (h : ids.Nodup) :
    c.answers ids = ids.map c.find := by
  unfold Channel.answers
  induction ids using chunks_induction 100 (by decide) with
  | hnil => rfl
  | hcons l hl ih =>
      have htake : (l.take 100).Nodup := h.sublist (List.take_sublist 100 l)
      rw [chunks_cons 100 (by decide) l hl, List.flatMap_cons,
        c.lookup_nodup (l.take 100) [] htake, ih (h.sublist (List.drop_sublist 100 l)),
        ← List.map_append, List.take_append_drop]

section Eval

variable (c : Channel)

theorem eval_openEnvelope (objectId generation objectSize : Nat) (payload : Bytes)
    (messageId : Int) (sha : Text)
    (h : PartStored c objectId generation objectSize payload messageId sha) :
    ∃ e, (openEnvelope (envelopeOf objectId generation objectSize payload) objectId
      generation).eval Channel.run c = (.ok e, c) ∧ e.payload = payload := by
  rcases h.decodes with ⟨e, he⟩
  refine ⟨e, ?_, payload_of_decode_encode _ _ _ _ he⟩
  rw [openEnvelope, he]
  rfl

theorem eval_openLeaves (m : Manifest) (objectSize : Nat) (leaves : List ManifestTreeLeaf)
    (refs : List ManifestTreeLeafRef)
    (h : List.Forall₂ (LeafStored c m objectSize) leaves refs) :
    ∀ done : List ManifestTreeLeaf,
      ((refs.zip (refs.map (fun r => c.document r.remote.messageId))).foldlM (fun leaves p => do
          let leaf ← TelegramStorage.openLeaf p.1 p.2
          pure (leaves ++ [leaf])) done : Prog tgSig (List ManifestTreeLeaf)).eval Channel.run c
        = (.ok (done ++ leaves), c) := by
  induction h with
  | nil =>
      intro done
      rw [List.append_nil]
      rfl
  | @cons leaf r leaves refs hleaf _ ih =>
      intro done
      rcases eval_openEnvelope c _ _ _ _ _ _ hleaf.part with ⟨e, hopen, hpay⟩
      have hone : (TelegramStorage.openLeaf r (c.document r.remote.messageId)).eval Channel.run c
          = (.ok leaf, c) := by
        rw [hleaf.part.document]
        unfold TelegramStorage.openLeaf
        rw [Prog.eval_bind_ok _ _ _ _ _ _ (show (Prog.ofOption (some _) _ : Prog tgSig _).eval
          Channel.run c = (.ok _, c) from rfl), Prog.eval_bind_ok _ _ _ _ _ _ hopen,
          decide_eq_true hleaf.part.sha.symm, hpay,
          ManifestTreeLeaf.decodeJson_encodeJson]
        rfl
      rw [List.map_cons, List.zip_cons_cons, List.foldlM_cons, Prog.eval_bind,
        Prog.eval_bind_ok _ _ _ _ _ _ hone]
      change ((refs.zip _).foldlM _ _ : Prog tgSig (List ManifestTreeLeaf)).eval Channel.run c = _
      rw [ih (done ++ [leaf]), List.append_assoc, List.singleton_append]

/-- The document that a superblock names is fetched. -/
theorem eval_fetchRoot (sb : Superblock) (generation objectSize : Nat) (payload : Bytes)
    (hgen : sb.manifestGeneration = generation)
    (hpart : PartStored c manifestObjectId generation objectSize payload
      sb.currentManifestMessageId sb.manifestHash) :
    (TelegramStorage.fetchObject (storage.rootRef sb)).eval Channel.run c
      = (.ok (envelopeOf manifestObjectId generation objectSize payload), c) := by
  rcases hpart.decodes with ⟨e, he⟩
  refine eval_fetchObject c (storage.rootRef sb) _ e hpart.document ?_ hpart.sha.symm
  change ObjectEnvelope.decode _ manifestObjectId sb.manifestGeneration = _
  rw [hgen]
  exact he

/-- The leaves of a tree are fetched. -/
theorem eval_fetchLeaves (m : Manifest) (objectSize : Nat) (refs : List ManifestTreeLeafRef)
    (hleaves : List.Forall₂ (LeafStored c m objectSize) (m.treeLeaves manifestTreeLeafSpan) refs)
    (hids : (refs.map (fun r => r.remote.messageId)).Nodup) :
    (TelegramStorage.fetchManifestTreeLeaves (m.treeRoot refs)).eval Channel.run c
      = (.ok (m.treeLeaves manifestTreeLeafSpan), c) := by
  have hmedia : ∀ r ∈ refs, ∃ b, c.document r.remote.messageId = some b := by
    intro r hr
    rcases List.mem_iff_getElem.mp hr with ⟨i, hi, rfl⟩
    have hlen := hleaves.length_eq
    exact ⟨_, ((List.forall₂_iff_get.mp hleaves).2 i (by omega) hi).part.document⟩
  -- No id is asked for twice, so every document is in the place of its leaf.
  have hget : (TelegramStorage.getMessagesById (refs.map (fun r => r.remote.messageId))).eval
      Channel.run c = (.ok (refs.map (fun r => c.document r.remote.messageId)), c) := by
    rw [eval_getMessagesById c _ fun x hx => ?_, answers_nodup c _ hids, List.map_map,
      List.map_map]
    · rfl
    · rw [answers_nodup c _ hids, List.map_map] at hx
      rcases List.mem_map.mp hx with ⟨r, hr, hfind⟩
      rcases hmedia r hr with ⟨b, hb⟩
      rw [Channel.document, show c.find r.remote.messageId = some x from hfind,
        Option.bind_some] at hb
      rw [hb]
      rfl
  unfold TelegramStorage.fetchManifestTreeLeaves
  change (TelegramStorage.getMessagesById (refs.map _) >>= _).eval Channel.run c = _
  rw [Prog.eval_bind_ok _ _ _ _ _ _ hget]
  exact eval_openLeaves c m objectSize _ refs hleaves []

/-- The manifest that a superblock names is fetched. -/
theorem eval_fetchManifest (sb : Superblock) (m : Manifest) (hm : m.Canonical)
    (h : sb.Names c m) :
    (storage.fetchManifestFromSuperblock sb).eval Channel.run c = (.ok m, c) := by
  unfold Superblock.Names at h
  unfold TelegramStorage.fetchManifestFromSuperblock
  generalize henc : sb.manifestEncoding = encoding at h
  cases h with
  | flat objectSize hgen hpart =>
      rcases eval_openEnvelope c _ _ _ _ _ _ hpart with ⟨e, hopen, hpay⟩
      rw [Prog.eval_bind_ok _ _ _ _ _ _ (eval_fetchRoot storage c sb _ objectSize _ hgen hpart)]
      change (openEnvelope _ manifestObjectId sb.manifestGeneration >>= _).eval Channel.run c = _
      rw [hgen, Prog.eval_bind_ok _ _ _ _ _ _ hopen, hpay, Manifest.decodeJson_encodeJson]
      rfl
  | tree objectSize refs hgen hpart hleaves hids =>
      rcases eval_openEnvelope c _ _ _ _ _ _ hpart with ⟨e, hopen, hpay⟩
      have hopens := eval_fetchLeaves c m objectSize refs hleaves hids
      rw [Prog.eval_bind_ok _ _ _ _ _ _ (eval_fetchRoot storage c sb _ objectSize _ hgen hpart)]
      change (openEnvelope _ manifestObjectId sb.manifestGeneration >>= _).eval Channel.run c = _
      rw [hgen, Prog.eval_bind_ok _ _ _ _ _ _ hopen, hpay,
        ManifestTreeRoot.decodeJson_encodeJson, Prog.eval_bind_ok _ _ _ _ _ _
          (show (Prog.ofExcept (.ok (m.treeRoot refs)) : Prog tgSig _).eval Channel.run c
            = (.ok _, c) from rfl), Prog.eval_bind_ok _ _ _ _ _ _ hopens,
        fromTree_treeLeaves m hm refs _ (by unfold manifestTreeLeafSpan; decide)]
      rfl

end Eval

end Crates

end TgDrive
