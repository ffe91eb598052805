import TgDrive.Core.RoundTrip
import TgDrive.Telegram.Client

/-!
# What Objects Do to a Channel

The part of the client that sends and fetches objects. Sending adds messages
that are no superblocks and touches no pin, and fetching leaves the channel
alone, however either ends: `Quiet` is the relation that covers both. What a
successful call says is that the document is there, before or after.

With this the channel is a backend that returns what it was sent.

## Main definitions

* `Channel.Quiet`: Only messages that are no superblocks were added.

## Theorems

* `wp_request`, `wp_ask`: The rules for one request.
* `wp_sendObject`: Sending an object.
* `wp_getMessagesById`, `wp_fetchObject`: Getting objects.
* `eval_getMessagesById`, `eval_fetchObject`: What there is, is got.
-/

namespace TgDrive

open Data Effect

namespace Channel

/-- Only messages that are no superblocks were added. -/
structure Quiet (c c' : Channel) : Prop where
  grows : Grows c c'
  plain : ∀ m ∈ c'.messages, m ∉ c.messages → superblockPrefix.isPrefixOf m.text = false
  pins : c'.pins = c.pins

namespace Quiet

theorem refl (c : Channel) : Quiet c c where
  grows := Grows.refl c
  plain := fun _ h hn => absurd h hn
  pins := rfl

theorem trans (c c' c'' : Channel) (h : Quiet c c') (h' : Quiet c' c'') : Quiet c c'' where
  grows := h.grows.trans c c' c'' h'.grows
  plain := by
    intro m hm hn
    by_cases hmid : m ∈ c'.messages
    · exact h.plain m hmid hn
    · exact h'.plain m hm hmid
  pins := h'.pins.trans h.pins

theorem post (c : Channel) (gap : Nat) (text : Text) (media : Option Bytes)
    (h : superblockPrefix.isPrefixOf text = false) : Quiet c (c.post gap text media) where
  grows := Grows.post c gap text media
  plain := by
    intro m hm hn
    rcases List.mem_append.mp hm with hm | hm
    · exact absurd hm hn
    · rw [List.mem_singleton.mp hm]
      exact h
  pins := rfl

/-- The pinned message stays the pinned one. -/
theorem pinned (c c' : Channel) (h : Quiet c c') : c'.pinned = c.pinned :=
  h.grows.pinned c c' h.pins

end Quiet

end Channel

/-- The text beside an object does not look like a superblock. -/
theorem caption_plain (objectId generation : Nat) (sha256 : Text) :
    superblockPrefix.isPrefixOf (caption objectId generation sha256) = false := rfl

section Rules

variable {α : Type} (Q : Except String α → Channel → Prop) (C : Channel → Prop) (c : Channel)

/-- The rule for one request: it is carried out, or fails or dies and may have
    been carried out or not. -/
theorem wp_request (e : TgOp) (f : e.Resp → Prog tgSig α)
    (hok : ∀ a c', e.Done c a c' → wp Telegram (f a) Q C c')
    (hstop : ∀ c', (c' = c ∨ ∃ a, e.Done c a c') → (∀ msg, Q (.error msg) c') ∧ C c') :
    wp Telegram (request e >>= f) Q C c :=
  (wp_perform_bind (S := tgSig) (E := Telegram) e f Q C c).mpr
    ⟨fun a c' h => hok a c' h, fun msg c' h => (hstop c' h).1 msg, fun c' h => (hstop c' h).2⟩

/-- The rule for a request that only asks. -/
theorem wp_ask (e : TgOp) (f : e.Resp → Prog tgSig α)
    (hread : ∀ a c', e.Done c a c' → c' = c)
    (hok : ∀ a, e.Done c a c → wp Telegram (f a) Q C c)
    (hstop : (∀ msg, Q (.error msg) c) ∧ C c) :
    wp Telegram (request e >>= f) Q C c := by
  refine wp_request Q C c e f (fun a c' h => ?_) (fun c' h => ?_)
  · have hc := hread a c' h
    rw [hc] at h ⊢
    exact hok a h
  · rcases h with rfl | ⟨a, h⟩
    · exact hstop
    · rw [hread a c' h]
      exact hstop

end Rules

section Crates

variable [Crates] (storage : TelegramStorage)

/-- The rule for opening an envelope. -/
theorem wp_openEnvelope {α : Type} (Q : Except String α → Channel → Prop) (C : Channel → Prop)
    (c : Channel) (encoded : Bytes) (objectId generation : Nat)
    (f : ObjectEnvelope → Prog tgSig α)
    (hok : ∀ e, ObjectEnvelope.decode encoded objectId generation = .ok e →
      wp Telegram (f e) Q C c)
    (herr : ∀ msg, Q (.error msg) c) :
    wp Telegram (openEnvelope encoded objectId generation >>= f) Q C c := by
  unfold openEnvelope
  rcases hd : ObjectEnvelope.decode encoded objectId generation with failure | e
  · exact herr _
  · exact hok e hd

/-- A message that carries an object, just sent. -/
def Channel.sent (c : Channel) (gap objectId generation : Nat) (payload : Bytes)
    (sha : Text) : Channel := c.post gap (caption objectId generation sha) (some payload)

/-- The reference to an object that is sent next. -/
def TelegramStorage.refAt (c : Channel) (gap objectId generation : Nat) (sha : Text) :
    RemoteObjectRef :=
  { chatId := storage.chatId
    messageId := c.nextId + gap
    objectId := objectId
    generation := generation
    sha256 := sha }

/-- Sending an object: one message, and the reference to it. -/
theorem wp_sendObject (objectId generation : Nat) (payload : Bytes) (sha : Text) (c : Channel) :
    wp Telegram (storage.sendObject objectId generation payload sha)
      (fun r c' => match r with
        | .ok ref => ∃ gap, ref = storage.refAt c gap objectId generation sha ∧
            c' = c.sent gap objectId generation payload sha ∧
            ∃ e, ObjectEnvelope.decode payload objectId generation = .ok e
        | .error _ => c' = c ∨ ∃ gap, c' = c.sent gap objectId generation payload sha)
      (fun c' => c' = c ∨ ∃ gap, c' = c.sent gap objectId generation payload sha) c := by
  unfold TelegramStorage.sendObject
  refine wp_openEnvelope _ _ c _ _ _ _ (fun e he => ?_) (fun msg => Or.inl rfl)
  refine wp_request _ _ c (.sendDocument _ _) _ (fun id c' h => ?_) (fun c' h => ?_)
  · rcases h with ⟨gap, rfl, rfl⟩
    exact ⟨gap, rfl, rfl, e, he⟩
  · have hmaybe : c' = c ∨ ∃ gap, c' = c.sent gap objectId generation payload sha := by
      rcases h with rfl | ⟨_, gap, _, rfl⟩
      · exact Or.inl rfl
      · exact Or.inr ⟨gap, rfl⟩
    exact ⟨fun _ => hmaybe, hmaybe⟩

omit [Crates] in
theorem Channel.Quiet.sent (c : Channel) (gap objectId generation : Nat) (payload : Bytes)
    (sha : Text) : c.Quiet (c.sent gap objectId generation payload sha) :=
  Channel.Quiet.post c gap _ _ (caption_plain objectId generation sha)

omit [Crates] in
theorem document_sent (c : Channel) (gap objectId generation : Nat) (payload : Bytes)
    (sha : Text) : (c.sent gap objectId generation payload sha).document (c.nextId + gap)
      = some payload := by
  rw [Channel.document, Channel.sent, Channel.find_post, Option.bind_some]

/-- The answer that belongs to a message: its document, or that there is no
    message. -/
def Answers (message : Option Message) (bytes : Option Bytes) : Prop :=
  match message with
  | none => bytes = none
  | some m => m.media = bytes ∧ bytes.isSome = true

omit [Crates] in
theorem wp_downloadMessageMedia (c : Channel) (message : Option Message) :
    wp Telegram (TelegramStorage.downloadMessageMedia message)
      (fun r c' => c' = c ∧ ∀ bytes, r = .ok bytes → Answers message bytes)
      (fun c' => c' = c) c := by
  cases message with
  | none => exact ⟨rfl, fun bytes hb => (Except.ok.inj hb).symm⟩
  | some m =>
      refine wp_ofOption_bind _ _ _ _ _ _ (fun media hmedia => ?_)
        (fun _ => ⟨rfl, fun bytes hb => (by cases hb)⟩)
      refine wp_ask _ _ c (.download media) _ (fun a c' h => h.2) (fun a h => ?_)
        ⟨fun msg => ⟨rfl, fun bytes hb => (by cases hb)⟩, rfl⟩
      refine ⟨rfl, fun bytes hb => ?_⟩
      rw [← Except.ok.inj hb, h.1]
      exact ⟨hmedia, rfl⟩

omit [Crates] in
/-- Downloading the documents of some messages. -/
theorem wp_downloads (c : Channel) (messages : List (Option Message)) (out : List (Option Bytes)) :
    wp Telegram (messages.foldlM (fun out message => do
        let bytes ← TelegramStorage.downloadMessageMedia message
        pure (out ++ [bytes])) out)
      (fun r c' => c' = c ∧ ∀ res, r = .ok res → ∃ more, res = out ++ more ∧
        List.Forall₂ Answers messages more) (fun c' => c' = c) c := by
  induction messages generalizing out with
  | nil => exact ⟨rfl, fun res hres => ⟨[], by rw [← Except.ok.inj hres, List.append_nil], .nil⟩⟩
  | cons message rest ih =>
      rw [List.foldlM_cons]
      refine wp_seq _ _ (fun r c' => c' = c ∧ ∀ res, r = .ok res → ∃ bytes,
        res = out ++ [bytes] ∧ Answers message bytes) _ _ _ c ?_ (fun res c' hr => ?_)
        (fun msg c' hr => ⟨hr.1, fun res hres => (by cases hres)⟩) (fun c' hc => hc)
      · refine wp_seq _ _ _ _ _ _ c (wp_downloadMessageMedia c message) (fun bytes c' hr => ?_)
          (fun msg c' hr => ⟨hr.1, fun res hres => (by cases hres)⟩) (fun c' hc => hc)
        exact ⟨hr.1, fun res hres => ⟨bytes, (Except.ok.inj hres).symm, hr.2 bytes rfl⟩⟩
      · rcases hr with ⟨rfl, hres⟩
        rcases hres res rfl with ⟨bytes, rfl, hbytes⟩
        refine wp_mono _ _ _ _ _ (fun r c2 hr => ⟨hr.1, fun res hres => ?_⟩) (fun _ hc => hc) _
          (ih (out ++ [bytes]))
        rcases hr.2 res hres with ⟨more, hmore, hall⟩
        exact ⟨bytes :: more, by rw [hmore, List.append_assoc, List.singleton_append],
          .cons hbytes hall⟩

/-- What asking for ids finds, a hundred at a time. -/
def Channel.answers (c : Channel) (ids : List Int) : List (Option Message) :=
  (chunks 100 ids).flatMap (c.lookup [])

omit [Crates] in
/-- Getting messages leaves the channel alone and answers what is found. -/
theorem wp_getMessagesById (c : Channel) (ids : List Int) :
    wp Telegram (TelegramStorage.getMessagesById ids)
      (fun r c' => c' = c ∧ ∀ res, r = .ok res → List.Forall₂ Answers (c.answers ids) res)
      (fun c' => c' = c) c := by
  have hloop : ∀ (runs : List (List Int)) (out : List (Option Bytes)),
      wp Telegram (runs.foldlM TelegramStorage.getMessagesChunk out)
        (fun r c' => c' = c ∧ ∀ res, r = .ok res → ∃ more, res = out ++ more ∧
          List.Forall₂ Answers (runs.flatMap (c.lookup [])) more) (fun c' => c' = c) c := by
    intro runs
    induction runs with
    | nil =>
        intro out
        exact ⟨rfl, fun res hres => ⟨[], by rw [← Except.ok.inj hres, List.append_nil], .nil⟩⟩
    | cons run rest ih =>
        intro out
        rw [List.foldlM_cons]
        refine wp_seq _ _ (fun r c' => c' = c ∧ ∀ res, r = .ok res → ∃ more,
          res = out ++ more ∧ List.Forall₂ Answers (c.lookup [] run) more) _ _ _ c ?_
          (fun res c' hr => ?_) (fun msg c' hr => ⟨hr.1, fun res hres => (by cases hres)⟩)
          (fun c' hc => hc)
        · refine wp_ask _ _ c (.getMessages run) _ (fun a c' h => h.2) (fun a h => ?_)
            ⟨fun msg => ⟨rfl, fun res hres => (by cases hres)⟩, rfl⟩
          rw [h.1]
          exact wp_downloads c _ out
        · rcases hr with ⟨rfl, hres⟩
          rcases hres res rfl with ⟨first, rfl, hfirst⟩
          refine wp_mono _ _ _ _ _ (fun r c2 hr => ⟨hr.1, fun res hres => ?_⟩)
            (fun _ hc => hc) _ (ih (out ++ first))
          rcases hr.2 res hres with ⟨more, hmore, hall⟩
          refine ⟨first ++ more, by rw [hmore, List.append_assoc], ?_⟩
          rw [List.flatMap_cons]
          exact List.rel_append hfirst hall
  refine wp_mono _ _ _ _ _ (fun r c' hr => ⟨hr.1, fun res hres => ?_⟩) (fun _ hc => hc) c
    (hloop (chunks 100 ids) [])
  rcases hr.2 res hres with ⟨more, hmore, hall⟩
  rw [List.nil_append] at hmore
  rw [hmore]
  exact hall

omit [Crates] in
theorem answers_found (c : Channel) (ids : List Int) :
    List.Forall₂ (fun id m => ∀ x, m = some x → c.find id = some x) ids (c.answers ids) := by
  unfold Channel.answers
  induction ids using chunks_induction 100 (by decide) with
  | hnil => exact .nil
  | hcons l hl ih =>
      have hboth := List.rel_append (c.lookup_found (l.take 100) []) ih
      simp only [List.take_append_drop] at hboth
      rw [chunks_cons 100 (by decide) l hl, List.flatMap_cons]
      exact hboth

omit [Crates] in
/-- What answers an id is the document under it. -/
theorem answers_sound (c : Channel) (ids : List Int) (res : List (Option Bytes))
    (h : List.Forall₂ Answers (c.answers ids) res) :
    List.Forall₂ (fun id b => ∀ x, b = some x → c.document id = some x) ids res := by
  have hjoin : ∀ (ids : List Int) (ms : List (Option Message)) (res : List (Option Bytes)),
      List.Forall₂ (fun id m => ∀ x, m = some x → c.find id = some x) ids ms →
      List.Forall₂ Answers ms res →
      List.Forall₂ (fun id b => ∀ x, b = some x → c.document id = some x) ids res := by
    intro ids ms res hfound
    induction hfound generalizing res with
    | nil =>
        intro hall
        cases hall
        exact .nil
    | @cons id m ids ms hid hrest ih =>
        intro hall
        cases hall with
        | @cons _ b _ res hans hall =>
            refine .cons (fun x hx => ?_) (ih res hall)
            cases m with
            | none =>
                have hnone : b = none := hans
                rw [hnone] at hx
                cases hx
            | some m =>
                rw [Channel.document, hid m rfl, Option.bind_some, hans.1, hx]
  exact hjoin ids _ res (answers_found c ids) h

/-- Fetching an object leaves the channel alone and answers the document. -/
theorem wp_fetchObject (c : Channel) (ref : RemoteObjectRef) :
    wp Telegram (TelegramStorage.fetchObject ref)
      (fun r c' => c' = c ∧ ∀ b, r = .ok b → c.document ref.messageId = some b ∧
        (∃ env, ObjectEnvelope.decode b ref.objectId ref.generation = .ok env) ∧
        sha256Hex b = ref.sha256)
      (fun c' => c' = c) c := by
  unfold TelegramStorage.fetchObject
  refine wp_seq _ _ _ _ _ _ c (wp_getMessagesById c [ref.messageId]) (fun res c' hr => ?_)
    (fun msg c' hr => ⟨hr.1, fun b hb => (by cases hb)⟩) (fun c' hc => hc)
  rcases hr with ⟨rfl, hres⟩
  have hsound := answers_sound c' _ res (hres res rfl)
  refine wp_ofOption_bind _ _ _ _ _ _ (fun payload hpayload => ?_)
    (fun _ => ⟨rfl, fun b hb => (by cases hb)⟩)
  refine wp_openEnvelope _ _ c' _ _ _ _ (fun e he => ?_) (fun msg => ⟨rfl, fun b hb => (by cases hb)⟩)
  refine wp_ensure_bind _ _ _ _ _ _ (fun hsha => ?_) (fun _ => ⟨rfl, fun b hb => (by cases hb)⟩)
  refine ⟨rfl, fun b hb => ?_⟩
  simp only [decide_eq_true_eq] at hsha
  rw [← Except.ok.inj hb]
  refine ⟨?_, ⟨e, he⟩, hsha⟩
  -- One id was asked for, so there is one answer.
  cases hsound with
  | cons hid hnil =>
      cases hnil
      rw [List.head?_cons, Option.bind_some, id_eq] at hpayload
      exact hid payload hpayload

section Eval

variable (c : Channel)

omit [Crates] in
theorem eval_downloads (messages : List (Option Message)) (out : List (Option Bytes))
    (h : ∀ m, some m ∈ messages → m.media.isSome = true) :
    (messages.foldlM (fun out message => do
        let bytes ← TelegramStorage.downloadMessageMedia message
        pure (out ++ [bytes])) out : Prog tgSig (List (Option Bytes))).eval Channel.run c
      = (.ok (out ++ messages.map (fun m => m.bind (fun m => m.media))), c) := by
  induction messages generalizing out with
  | nil => rw [List.map_nil, List.append_nil]; rfl
  | cons message rest ih =>
      have hrest := fun m hm => h m (List.mem_cons_of_mem message hm)
      have hfirst : (TelegramStorage.downloadMessageMedia message).eval Channel.run c
          = (.ok (message.bind (fun m => m.media)), c) := by
        cases message with
        | none => rfl
        | some m =>
            rcases Option.isSome_iff_exists.mp (h m List.mem_cons_self) with ⟨b, hb⟩
            rw [Option.bind_some, TelegramStorage.downloadMessageMedia, hb]
            rfl
      rw [List.foldlM_cons, Prog.eval_bind, Prog.eval_bind_ok _ _ _ _ _ _ hfirst]
      change (rest.foldlM _ _ : Prog tgSig (List (Option Bytes))).eval Channel.run c = _
      rw [ih _ hrest, List.append_assoc, List.singleton_append, List.map_cons]

omit [Crates] in
/-- What there is of given messages is got. -/
theorem eval_getMessagesById (ids : List Int)
    (h : ∀ m, some m ∈ c.answers ids → m.media.isSome = true) :
    (TelegramStorage.getMessagesById ids).eval Channel.run c
      = (.ok ((c.answers ids).map (fun m => m.bind (fun m => m.media))), c) := by
  have hloop : ∀ (runs : List (List Int)) (out : List (Option Bytes)),
      (∀ m, some m ∈ runs.flatMap (c.lookup []) → m.media.isSome = true) →
      (runs.foldlM TelegramStorage.getMessagesChunk out).eval Channel.run c
        = (.ok (out ++ (runs.flatMap (c.lookup [])).map (fun m => m.bind (fun m => m.media))),
          c) := by
    intro runs
    induction runs with
    | nil =>
        intro out _
        rw [List.flatMap_nil, List.map_nil, List.append_nil]
        rfl
    | cons run rest ih =>
        intro out hall
        rw [List.flatMap_cons] at hall
        have hfirst : (TelegramStorage.getMessagesChunk out run).eval Channel.run c
            = (.ok (out ++ (c.lookup [] run).map (fun m => m.bind (fun m => m.media))), c) :=
          eval_downloads c (c.lookup [] run) out
            fun m hm => hall m (List.mem_append_left _ hm)
        rw [List.foldlM_cons, Prog.eval_bind_ok _ _ _ _ _ _ hfirst,
          ih _ fun m hm => hall m (List.mem_append_right _ hm), List.flatMap_cons,
          List.map_append, List.append_assoc]
  have hall := hloop (chunks 100 ids) [] h
  rw [List.nil_append] at hall
  exact hall

omit [Crates] in
theorem answers_single (id : Int) : c.answers [id] = [c.find id] := by
  rw [Channel.answers, chunks_cons 100 (by decide) [id] (List.cons_ne_nil _ _)]
  change (c.lookup [] [id] ++ []) = _
  rw [c.lookup_single, List.append_nil]

/-- An object that is there and fits its reference is fetched. -/
theorem eval_fetchObject (ref : RemoteObjectRef) (b : Bytes) (e : ObjectEnvelope)
    (hb : c.document ref.messageId = some b)
    (hdec : ObjectEnvelope.decode b ref.objectId ref.generation = .ok e)
    (hsha : sha256Hex b = ref.sha256) :
    (TelegramStorage.fetchObject ref).eval Channel.run c = (.ok b, c) := by
  have hget : (TelegramStorage.getMessagesById [ref.messageId]).eval Channel.run c
      = (.ok [some b], c) := by
    rw [eval_getMessagesById c _ fun m hm => ?_, answers_single]
    · rw [List.map_singleton]
      change (Except.ok [c.document ref.messageId], c) = _
      rw [hb]
    · rw [answers_single, List.mem_singleton] at hm
      rw [Channel.document, ← hm, Option.bind_some] at hb
      rw [hb]
      rfl
  have hopen : (openEnvelope b ref.objectId ref.generation).eval Channel.run c
      = (.ok e, c) := by
    rw [openEnvelope, hdec]
    rfl
  have hensure : (Prog.ensure (decide (sha256Hex b = ref.sha256))
      "remote payload checksum mismatch" : Prog tgSig Unit).eval Channel.run c = (.ok (), c) := by
    rw [decide_eq_true hsha]
    rfl
  unfold TelegramStorage.fetchObject
  rw [Prog.eval_bind_ok _ _ _ _ _ _ hget]
  change (openEnvelope b ref.objectId ref.generation >>= _).eval Channel.run c = _
  rw [Prog.eval_bind_ok _ _ _ _ _ _ hopen, Prog.eval_bind_ok _ _ _ _ _ _ hensure]
  rfl

end Eval

end Crates

end TgDrive
