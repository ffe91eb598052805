import TgDrive.Telegram.ManifestSpec

/-!
# Committing a Manifest

What a commit does to a channel, however it ends. First come the messages of
the manifest, none of which is a superblock; `Announces` says what is then
known of the superblock that is about to be sent. `Upserts` lists how far the
sending gets: beside a pinned superblock it is one message, and otherwise the
superblock is sent, pinned and sent once more.

Everything later proofs need is read off these two. A finished commit has put
its superblock under the newest message, and a pinned superblock is never
replaced by another one.

## Main definitions

* `Message.isSuperblock`: A text that begins like a superblock.
* `Channel.pinnedSuperblock`: The superblock that is pinned.
* `Upserts`: How far the sending of a superblock gets.
* `Announces`: A manifest was sent, and this is its superblock.

## Theorems

* `wp_upsert`: Sending a superblock.
* `wp_commit`: A commit announces a superblock and sends it.
* `Upserts.pinned_kept`, `Upserts.pinned_new`: What is pinned afterwards.
-/

namespace TgDrive

open Data Effect

attribute [local irreducible] manifestObjectId manifestTreeLeafBaseObjectId manifestTreeLeafSpan
  ObjectEnvelope.encode

/-- A text that begins like a superblock. -/
def Message.isSuperblock (m : Message) : Bool := superblockPrefix.isPrefixOf m.text

/-- How far the sending of a superblock gets, and whether it is all done. -/
inductive Upserts (c : Channel) (text : Text) : Bool → Channel → Prop
  | unsent : Upserts c text false c
  | beside (m : Message) (gap : Nat) (hm : c.pinned = some m) (hp : m.isSuperblock = true) :
      Upserts c text true (c.post gap text none)
  | sent (gap : Nat) (hno : ∀ m, c.pinned = some m → m.isSuperblock = false) :
      Upserts c text false (c.post gap text none)
  | pinned (gap : Nat) (c' : Channel) (hno : ∀ m, c.pinned = some m → m.isSuperblock = false)
      (hpin : (TgOp.pin (c.nextId + gap)).Done (c.post gap text none) () c') :
      Upserts c text false c'
  | again (gap gap' : Nat) (c' : Channel)
      (hno : ∀ m, c.pinned = some m → m.isSuperblock = false)
      (hpin : (TgOp.pin (c.nextId + gap)).Done (c.post gap text none) () c') :
      Upserts c text true (c'.post gap' text none)

/-- Asking for the text of the pinned message. -/
theorem wp_pinnedSuperblockText (c : Channel) :
    wp Telegram TelegramStorage.pinnedSuperblockText
      (fun r c' => c' = c ∧ ∀ text, r = .ok text → text = c.pinned.map (fun m => m.text))
      (fun c' => c' = c) c := by
  unfold TelegramStorage.pinnedSuperblockText
  refine wp_ask _ _ c .getPinned _ (fun a c' h => h.2) (fun a h => ⟨rfl, fun text ht => ?_⟩)
    ⟨fun msg => ⟨rfl, fun text ht => (by cases ht)⟩, rfl⟩
  rw [← Except.ok.inj ht, h.1]

/-- Sending a superblock gets so far, and all the way if it succeeds. -/
theorem wp_upsert (text : Text) (c : Channel) :
    wp Telegram (TelegramStorage.upsertPinnedSuperblock text)
      (fun r c' => (∃ b, Upserts c text b c') ∧ ∀ id, r = .ok id → Upserts c text true c')
      (fun c' => ∃ b, Upserts c text b c') c := by
  have hfail : ∀ (b : Bool) (c' : Channel), Upserts c text b c' →
      (∀ msg, (∃ b, Upserts c text b c') ∧
        ∀ id, (Except.error msg : Except String Int) = .ok id → Upserts c text true c') ∧
      ∃ b, Upserts c text b c' :=
    fun b c' h => ⟨fun msg => ⟨⟨b, h⟩, fun id hid => (by cases hid)⟩, b, h⟩
  -- The way of a superblock that is to be pinned.
  have hnew : (∀ m, c.pinned = some m → m.isSuperblock = false) →
      wp Telegram (TelegramStorage.upsertPinnedSuperblock.pinNew text)
        (fun r c' => (∃ b, Upserts c text b c') ∧ ∀ id, r = .ok id → Upserts c text true c')
        (fun c' => ∃ b, Upserts c text b c') c := by
    intro hno
    unfold TelegramStorage.upsertPinnedSuperblock.pinNew
    refine wp_request _ _ c (.sendText text) _ (fun id c1 h => ?_) (fun c1 h => ?_)
    · rcases h with ⟨gap, rfl, rfl⟩
      refine wp_request _ _ _ (.pin _) _ (fun _ c2 h => ?_) (fun c2 h => ?_)
      · refine wp_request _ _ c2 (.sendText text) _ (fun _ c3 h' => ?_) (fun c3 h' => ?_)
        · rcases h' with ⟨gap', _, rfl⟩
          exact ⟨⟨true, .again gap gap' c2 hno h⟩, fun _ _ => .again gap gap' c2 hno h⟩
        · rcases h' with rfl | ⟨_, gap', _, rfl⟩
          · exact hfail false _ (.pinned gap _ hno h)
          · exact hfail true _ (.again gap gap' c2 hno h)
      · rcases h with rfl | ⟨_, h⟩
        · exact hfail false _ (.sent gap hno)
        · exact hfail false _ (.pinned gap _ hno h)
    · rcases h with rfl | ⟨_, gap, _, rfl⟩
      · exact hfail false _ .unsent
      · exact hfail false _ (.sent gap hno)
  unfold TelegramStorage.upsertPinnedSuperblock
  refine wp_ask _ _ c .getPinned _ (fun a c' h => h.2) (fun a h => ?_) (hfail false c .unsent)
  rw [h.1]
  rcases hm : c.pinned with _ | m
  · exact hnew fun m hm' => by
      rw [hm] at hm'
      cases hm'
  · simp only []
    by_cases hp : superblockPrefix.isPrefixOf m.text = true
    · -- A superblock is pinned, so this one is sent beside it.
      rw [if_pos hp]
      refine wp_request _ _ c (.sendText text) _ (fun _ c1 h => ?_) (fun c1 h => ?_)
      · rcases h with ⟨gap, _, rfl⟩
        exact ⟨⟨true, .beside m gap hm hp⟩, fun _ _ => .beside m gap hm hp⟩
      · rcases h with rfl | ⟨_, gap, _, rfl⟩
        · exact hfail false _ .unsent
        · exact hfail true _ (.beside m gap hm hp)
    · rw [if_neg hp]
      refine hnew fun m' hm' => ?_
      rw [hm] at hm'
      rw [← Option.some.inj hm']
      exact Bool.eq_false_iff.mpr hp

namespace Upserts

variable {c c' : Channel} {text : Text} {b : Bool}

theorem grows (h : Upserts c text b c') : c.Grows c' := by
  cases h with
  | unsent => exact Channel.Grows.refl c
  | beside m gap hm hp => exact Channel.Grows.post c gap _ _
  | sent gap hno => exact Channel.Grows.post c gap _ _
  | pinned gap c1 hno hpin =>
      exact (Channel.Grows.post c gap _ _).trans _ _ _ (Channel.grows_done _ _ _ _ hpin)
  | again gap gap' c1 hno hpin =>
      exact ((Channel.Grows.post c gap _ _).trans _ _ _
        (Channel.grows_done _ _ _ _ hpin)).trans _ _ _ (Channel.Grows.post c1 gap' _ _)

/-- A message of a channel after one was sent. -/
theorem mem_post (c : Channel) (gap : Nat) (text : Text) (media : Option Bytes) (m : Message)
    (h : m ∈ (c.post gap text media).messages) :
    m ∈ c.messages ∨ m = { id := c.nextId + gap, text := text, media := media } := by
  rcases List.mem_append.mp h with h | h
  · exact Or.inl h
  · exact Or.inr (List.mem_singleton.mp h)

/-- Pinning adds a notice at most. -/
theorem mem_pin (id : Int) (c c' : Channel) (h : (TgOp.pin id).Done c () c') (m : Message)
    (hm : m ∈ c'.messages) : m ∈ c.messages ∨ m.text = [] := by
  rcases h with ⟨hlt, rfl | ⟨gap, rfl⟩⟩
  · exact Or.inl hm
  · rcases mem_post _ _ _ _ m hm with hm | rfl
    · exact Or.inl hm
    · exact Or.inr rfl

/-- Nothing but the superblock and a notice is sent. -/
theorem texts (h : Upserts c text b c') (m : Message) (hm : m ∈ c'.messages)
    (hnew : m ∉ c.messages) : m.text = text ∨ m.text = [] := by
  have hpost : ∀ gap, m ∈ (c.post gap text none).messages → m.text = text := by
    intro gap hm
    rcases mem_post c gap text none m hm with hm | rfl
    · exact absurd hm hnew
    · rfl
  cases h with
  | unsent => exact absurd hm hnew
  | beside m' gap _ _ => exact Or.inl (hpost gap hm)
  | sent gap _ => exact Or.inl (hpost gap hm)
  | pinned gap c1 _ hpin =>
      rcases mem_pin _ _ _ hpin m hm with hm | hm
      · exact Or.inl (hpost gap hm)
      · exact Or.inr hm
  | again gap gap' c1 _ hpin =>
      rcases mem_post c1 gap' text none m hm with hm | rfl
      · rcases mem_pin _ _ _ hpin m hm with hm | hm
        · exact Or.inl (hpost gap hm)
        · exact Or.inr hm
      · exact Or.inl rfl

/-- A superblock that was sent all the way is the newest message. -/
theorem newest (h : Upserts c text true c') : ∃ init id,
    c'.messages = init ++ [{ id := id, text := text, media := none }] := by
  cases h with
  | beside m gap _ _ => exact ⟨_, _, rfl⟩
  | again gap gap' c1 _ _ => exact ⟨_, _, rfl⟩

/-- A message that was just pinned is the one that is pinned. -/
theorem pinned_pin (id : Int) (c c' : Channel) (h : (TgOp.pin id).Done c () c') (m : Message)
    (hm : c.find id = some m) : c'.pinned = some m := by
  have hpinned : ∀ hlt, (c.pin id hlt).pinned = some m := by
    intro hlt
    change (id :: c.pins).findSome? c.find = some m
    rw [List.findSome?_cons, hm]
  rcases h with ⟨hlt, rfl | ⟨gap, rfl⟩⟩
  · exact hpinned hlt
  · rw [(Channel.Grows.post (c.pin id hlt) gap [] none).pinned _ _ rfl]
    exact hpinned hlt

/-- A pinned superblock stays pinned. -/
theorem pinned_kept (h : Upserts c text b c') (m : Message) (hm : c.pinned = some m)
    (hp : m.isSuperblock = true) : c'.pinned = some m := by
  have hno : ¬∀ m, c.pinned = some m → m.isSuperblock = false := by
    intro hno
    rw [hno m hm] at hp
    cases hp
  cases h with
  | unsent => exact hm
  | beside m' gap _ _ => exact ((Channel.Grows.post c gap text none).pinned _ _ rfl).trans hm
  | sent gap hno' => exact absurd hno' hno
  | pinned gap c1 hno' _ => exact absurd hno' hno
  | again gap gap' c1 hno' _ => exact absurd hno' hno

/-- Where no superblock was pinned, nothing new is pinned or the one that was
    sent is. -/
theorem pinned_new (h : Upserts c text b c')
    (hno : ∀ m, c.pinned = some m → m.isSuperblock = false) :
    (b = false ∧ c'.pinned = c.pinned) ∨ ∃ id,
      c'.pinned = some { id := id, text := text, media := none } := by
  cases h with
  | unsent => exact Or.inl ⟨rfl, rfl⟩
  | beside m gap hm hp =>
      rw [hno m hm] at hp
      cases hp
  | sent gap _ => exact Or.inl ⟨rfl, (Channel.Grows.post c gap text none).pinned _ _ rfl⟩
  | pinned gap c1 _ hpin => exact Or.inr ⟨_, pinned_pin _ _ _ hpin _ (c.find_post gap text none)⟩
  | again gap gap' c1 _ hpin =>
      refine Or.inr ⟨c.nextId + gap, ?_⟩
      rw [(Channel.Grows.post c1 gap' text none).pinned _ _ rfl]
      exact pinned_pin _ _ _ hpin _ (c.find_post gap text none)

/-- Sending a superblock that posts no superblock does nothing that shows. -/
theorem quiet (h : Upserts c text b c') (htext : superblockPrefix.isPrefixOf text = true)
    (hplain : ∀ m ∈ c'.messages, m ∉ c.messages → m.isSuperblock = false) : c' = c := by
  -- Every stage but the first has the superblock among its messages.
  have hposted : ∀ gap, c.Grows (c.post gap text none) →
      (c.post gap text none).Grows c' → False := by
    intro gap _ hg
    rcases hg.messages with ⟨more, hmore, _⟩
    have hmem : ({ id := c.nextId + gap, text := text, media := none } : Message) ∈
        c'.messages := by
      rw [hmore]
      exact List.mem_append_left _ (List.mem_append_right _ List.mem_cons_self)
    have hnew : ({ id := c.nextId + gap, text := text, media := none } : Message) ∉
        c.messages := by
      intro hold
      have hlt := c.below _ hold
      change c.nextId + gap < c.nextId at hlt
      omega
    have hfalse := hplain _ hmem hnew
    rw [Message.isSuperblock, htext] at hfalse
    cases hfalse
  cases h with
  | unsent => rfl
  | beside m gap _ _ =>
      exact (hposted gap (Channel.Grows.post c gap _ _) (Channel.Grows.refl _)).elim
  | sent gap _ => exact (hposted gap (Channel.Grows.post c gap _ _) (Channel.Grows.refl _)).elim
  | pinned gap c1 _ hpin =>
      exact (hposted gap (Channel.Grows.post c gap _ _) (Channel.grows_done _ _ _ _ hpin)).elim
  | again gap gap' c1 _ hpin =>
      exact (hposted gap (Channel.Grows.post c gap _ _)
        ((Channel.grows_done _ _ _ _ hpin).trans _ _ _ (Channel.Grows.post c1 gap' _ _))).elim

end Upserts

section Crates

variable [Crates] (storage : TelegramStorage)

/-- The superblock that is pinned, if there is one that can be read. -/
def Channel.pinnedSuperblock (c : Channel) : Option Superblock :=
  (c.pinned.map (fun m => m.text)).bind (fun text => (Superblock.decodeText text).toOption)

/-- A text that is a superblock begins like one. -/
theorem isPrefixOf_of_decodeText (text : Text) (sb : Superblock)
    (h : Superblock.decodeText text = .ok sb) : superblockPrefix.isPrefixOf text = true := by
  unfold Superblock.decodeText at h
  rcases hs : stripPrefix superblockPrefix text with _ | json
  · rw [hs] at h
    cases h
  · rw [stripPrefix_eq_some _ _ _ hs]
    exact List.isPrefixOf_iff_prefix.mpr (List.prefix_append _ _)

theorem isPrefixOf_encodeText (sb : Superblock) :
    superblockPrefix.isPrefixOf sb.encodeText = true :=
  isPrefixOf_of_decodeText _ sb (Superblock.decodeText_encodeText sb)

/-- A manifest was sent to a channel, and this is the superblock to follow. -/
structure Announces (m : Manifest) (deviceSize logicalSectorSize objectSize : Nat)
    (c c' : Channel) (sb : Superblock) : Prop where
  quiet : c.Quiet c'
  names : sb.Names c' m
  fresh : c.nextId ≤ sb.currentManifestMessageId
  below : sb.currentManifestMessageId < c'.nextId
  generation : sb.manifestGeneration = m.generation
  uuid : sb.deviceUuid = m.deviceUuid
  deviceSize : sb.deviceSize = deviceSize
  objectSize : sb.objectSize = objectSize
  previousId : sb.previousManifestMessageId
    = c'.pinnedSuperblock.map (fun p => p.currentManifestMessageId)
  previousHash : sb.previousManifestHash = c'.pinnedSuperblock.map (fun p => p.manifestHash)
  previousGeneration : sb.previousManifestGeneration
    = c'.pinnedSuperblock.map (fun p => p.manifestGeneration)

/-- The superblock of a manifest that is stored names it. -/
theorem names_superblockFor (m : Manifest) (deviceSize logicalSectorSize objectSize now : Nat)
    (c : Channel) (ref : RemoteObjectRef) (previous : Option Superblock)
    (hstored : Stored c ref.messageId ref.generation ref.sha256 m m.encoding) :
    (TelegramStorage.superblockFor m deviceSize logicalSectorSize objectSize now ref
      previous).Names c m := by
  unfold TelegramStorage.superblockFor
  unfold Manifest.encoding at hstored
  by_cases htree : TelegramStorage.usesTree m = true
  · rw [if_pos htree] at hstored ⊢
    exact hstored
  · rw [if_neg htree] at hstored ⊢
    exact hstored

theorem announces_superblockFor (m : Manifest) (deviceSize logicalSectorSize objectSize now : Nat)
    (c c' : Channel) (ref : RemoteObjectRef) (hq : c.Quiet c') (hfresh : c.nextId ≤ ref.messageId)
    (hbelow : ref.messageId < c'.nextId)
    (hstored : Stored c' ref.messageId ref.generation ref.sha256 m m.encoding)
    (hgen : ref.generation = m.generation) :
    Announces m deviceSize logicalSectorSize objectSize c c'
      (TelegramStorage.superblockFor m deviceSize logicalSectorSize objectSize now ref
        c'.pinnedSuperblock) := by
  unfold TelegramStorage.superblockFor
  unfold Manifest.encoding at hstored
  by_cases htree : TelegramStorage.usesTree m = true
  · rw [if_pos htree] at hstored ⊢
    exact {
      quiet := hq
      names := hstored
      fresh := hfresh
      below := hbelow
      generation := hgen
      uuid := rfl
      deviceSize := rfl
      objectSize := rfl
      previousId := rfl
      previousHash := rfl
      previousGeneration := rfl }
  · rw [if_neg htree] at hstored ⊢
    exact {
      quiet := hq
      names := hstored
      fresh := hfresh
      below := hbelow
      generation := hgen
      uuid := rfl
      deviceSize := rfl
      objectSize := rfl
      previousId := rfl
      previousHash := rfl
      previousGeneration := rfl }

/-- What a commit leaves that did not succeed: messages of the manifest, and
    how far its superblock got. -/
def CommitStopped (m : Manifest) (deviceSize logicalSectorSize objectSize : Nat)
    (c c' : Channel) : Prop :=
  c.Quiet c' ∨ ∃ c1 sb b, Announces m deviceSize logicalSectorSize objectSize c c1 sb ∧
    Upserts c1 sb.encodeText b c'

/-- The same, and that the manifest is named also where messages are lost that
    are older than the commit. -/
def CommitLeft (m : Manifest) (deviceSize logicalSectorSize objectSize : Nat)
    (c c' : Channel) : Prop :=
  c.Quiet c' ∨ ∃ c1 sb b, Announces m deviceSize logicalSectorSize objectSize c c1 sb ∧
    (∀ d, c1.KeepsFrom c.nextId d → sb.Names d m) ∧ Upserts c1 sb.encodeText b c'

theorem CommitLeft.stopped {m : Manifest} {deviceSize logicalSectorSize objectSize : Nat}
    {c c' : Channel} (h : CommitLeft m deviceSize logicalSectorSize objectSize c c') :
    CommitStopped m deviceSize logicalSectorSize objectSize c c' := by
  rcases h with hq | ⟨c1, sb, b, hann, _, hup⟩
  · exact Or.inl hq
  · exact Or.inr ⟨c1, sb, b, hann, hup⟩

/-- A commit announces a superblock and sends it, all the way if it succeeds,
    and shares no message with what was there before. -/
theorem wp_commit_left (m : Manifest) (deviceSize logicalSectorSize objectSize : Nat)
    (c : Channel) :
    wp Telegram (storage.commit m deviceSize logicalSectorSize objectSize)
      (fun r c' => CommitLeft m deviceSize logicalSectorSize objectSize c c' ∧
        ∀ sb, r = .ok sb → ∃ c1,
          Announces m deviceSize logicalSectorSize objectSize c c1 sb ∧
          Upserts c1 sb.encodeText true c')
      (CommitLeft m deviceSize logicalSectorSize objectSize c) c := by
  unfold TelegramStorage.commit
  refine wp_seq _ _ _ _ _ _ c (wp_sendManifest storage m objectSize c) (fun ref c1 hr => ?_)
    (fun msg c1 hr => ⟨Or.inl hr.1, fun sb hsb => (by cases hsb)⟩) (fun c1 hc => Or.inl hc)
  rcases hr with ⟨hq, href⟩
  rcases href ref rfl with ⟨hfresh, hbelow, hstored, hgen⟩
  have hstop : (∀ msg, CommitLeft m deviceSize logicalSectorSize objectSize c c1 ∧
      ∀ sb, (Except.error msg : Except String Superblock) = .ok sb → ∃ c2,
        Announces m deviceSize logicalSectorSize objectSize c c2 sb ∧
        Upserts c2 sb.encodeText true c1) ∧
      CommitLeft m deviceSize logicalSectorSize objectSize c c1 :=
    ⟨fun msg => ⟨Or.inl hq, fun sb hsb => (by cases hsb)⟩, Or.inl hq⟩
  refine wp_seq _ _ _ _ _ _ c1 (wp_pinnedSuperblockText c1) (fun text c' hr => ?_)
    (fun msg c' hr => ?_) (fun c' hc => ?_)
  rotate_left
  · rw [hr.1]
    exact hstop.1 msg
  · rw [hc]
    exact hstop.2
  rw [hr.1, hr.2 text rfl]
  refine wp_ask _ _ c1 .now _ (fun a c' h => h) (fun now _ => ?_) hstop
  -- The superblock follows the one that is pinned.
  have hann := announces_superblockFor m deviceSize logicalSectorSize objectSize now c c1 ref hq
    hfresh hbelow (hstored c1 (Channel.KeepsFrom.refl _ c1)) hgen
  have hnames := fun d hd => names_superblockFor m deviceSize logicalSectorSize objectSize now d
    ref c1.pinnedSuperblock (hstored d hd)
  refine wp_seq _ _ _ _ _ _ c1 (wp_upsert _ c1) (fun id c2 hr => ?_) (fun msg c2 hr => ?_)
    (fun c2 hc => ?_)
  · rcases hr with ⟨⟨b, hb⟩, hok⟩
    refine ⟨Or.inr ⟨c1, _, b, hann, hnames, hb⟩, fun sb hsb => ?_⟩
    rw [← Except.ok.inj hsb]
    exact ⟨c1, hann, hok id rfl⟩
  · rcases hr with ⟨⟨b, hb⟩, _⟩
    exact ⟨Or.inr ⟨c1, _, b, hann, hnames, hb⟩, fun sb hsb => (by cases hsb)⟩
  · rcases hc with ⟨b, hb⟩
    exact Or.inr ⟨c1, _, b, hann, hnames, hb⟩

/-- A commit announces a superblock and sends it, and all the way if it
    succeeds. -/
theorem wp_commit (m : Manifest) (deviceSize logicalSectorSize objectSize : Nat) (c : Channel) :
    wp Telegram (storage.commit m deviceSize logicalSectorSize objectSize)
      (fun r c' => CommitStopped m deviceSize logicalSectorSize objectSize c c' ∧
        ∀ sb, r = .ok sb → ∃ c1,
          Announces m deviceSize logicalSectorSize objectSize c c1 sb ∧
          Upserts c1 sb.encodeText true c')
      (CommitStopped m deviceSize logicalSectorSize objectSize c) c :=
  wp_mono _ _ _ _ _ (fun _ _ hr => ⟨hr.1.stopped, hr.2⟩) (fun _ hc => hc.stopped) c
    (wp_commit_left storage m deviceSize logicalSectorSize objectSize c)

/-- The commit of a device, which keeps the superblock to itself. -/
theorem wp_commitManifest (m : Manifest) (deviceSize logicalSectorSize objectSize : Nat)
    (c : Channel) :
    wp Telegram (storage.commitManifest m deviceSize logicalSectorSize objectSize)
      (fun r c' => CommitStopped m deviceSize logicalSectorSize objectSize c c' ∧
        (r = .ok () → ∃ c1 sb, Announces m deviceSize logicalSectorSize objectSize c c1 sb ∧
          Upserts c1 sb.encodeText true c'))
      (CommitStopped m deviceSize logicalSectorSize objectSize c) c := by
  unfold TelegramStorage.commitManifest
  refine wp_seq _ _ _ _ _ _ c (wp_commit storage m deviceSize logicalSectorSize objectSize c)
    (fun sb c' hr => ⟨hr.1, fun _ => ?_⟩) (fun msg c' hr => ⟨hr.1, fun h => (by cases h)⟩)
    (fun c' hc => hc)
  rcases hr.2 sb rfl with ⟨c1, hann, hup⟩
  exact ⟨c1, sb, hann, hup⟩

/-- The same of the commit of a device, however it ends. -/
theorem wp_commitManifest_left (m : Manifest) (deviceSize logicalSectorSize objectSize : Nat)
    (c : Channel) :
    wp Telegram (storage.commitManifest m deviceSize logicalSectorSize objectSize)
      (fun _ c' => CommitLeft m deviceSize logicalSectorSize objectSize c c')
      (CommitLeft m deviceSize logicalSectorSize objectSize c) c := by
  unfold TelegramStorage.commitManifest
  exact wp_seq _ _ _ _ _ _ c (wp_commit_left storage m deviceSize logicalSectorSize objectSize c)
    (fun _ _ hr => hr.1) (fun _ _ hr => hr.1) (fun _ hc => hc)

/-- The superblock of a successful commit has the generation of its manifest. -/
theorem commit_generation (m : Manifest) (deviceSize logicalSectorSize objectSize : Nat)
    (c c' : Channel) (sb : Superblock)
    (h : Exec Telegram (storage.commit m deviceSize logicalSectorSize objectSize) c
      (.done (.ok sb)) c') : sb.manifestGeneration = m.generation := by
  have hpost := wp_done _ _ _ _ _ _ (wp_commit storage m deviceSize logicalSectorSize objectSize
    c) h
  rcases hpost.2 sb rfl with ⟨c1, hann, _⟩
  exact hann.generation

section Eval

/-- Sending a part of a manifest whose sizes fit, to a channel that answers. -/
theorem eval_sendEnvelope (objectId generation objectSize : Nat) (payload : Bytes) (c : Channel)
    (hid : objectId < 2 ^ 64) (hgen : generation < 2 ^ 64) (hsize : objectSize < 2 ^ 32)
    (hlen : objectHeaderLen + payload.length < 2 ^ 64) :
    (storage.sendEnvelope objectId generation objectSize payload).eval Channel.run c
      = (.ok (storage.refAt c 0 objectId generation
          (sha256Hex (envelopeOf objectId generation objectSize payload))),
        c.sent 0 objectId generation (envelopeOf objectId generation objectSize payload)
          (sha256Hex (envelopeOf objectId generation objectSize payload))) ∧
    ∃ e, ObjectEnvelope.decode (envelopeOf objectId generation objectSize payload) objectId
      generation = .ok e := by
  have hdec : ObjectEnvelope.decode (envelopeOf objectId generation objectSize payload) objectId
      generation = .ok _ := decode_encode {
    objectId := objectId
    generation := generation
    objectSize := objectSize
    flags := 0
    payload := payload } {
    objectId := hid
    generation := hgen
    objectSize := hsize
    flags := Nat.two_pow_pos 32
    length := hlen }
  refine ⟨?_, _, hdec⟩
  change (storage.sendObject objectId generation
    (envelopeOf objectId generation objectSize payload) _).eval Channel.run c = _
  unfold TelegramStorage.sendObject openEnvelope
  rw [hdec, Prog.eval_bind_ok _ _ _ c c _ rfl]
  change (Except.ok _, _) = _
  rw [TelegramStorage.refAt, Nat.cast_zero, Int.add_zero]
  rfl

omit [Crates] in
/-- A superblock is sent to a channel that answers. -/
theorem eval_upsert_isOk (text : Text) (c : Channel) :
    ((TelegramStorage.upsertPinnedSuperblock text).eval Channel.run c).1.isOk = true := by
  have hnew : ((TelegramStorage.upsertPinnedSuperblock.pinNew text).eval Channel.run c).1.isOk
      = true := by
    have hlt : c.nextId < (c.post 0 text none).nextId := by
      change c.nextId < c.nextId + 0 + 1
      omega
    unfold TelegramStorage.upsertPinnedSuperblock.pinNew
    rw [Prog.eval_bind_ok _ _ _ c (c.post 0 text none) c.nextId rfl]
    rw [Prog.eval_bind_ok Channel.run (request (.pin c.nextId)) _ _ (((c.post 0 text none).pin c.nextId
      hlt).post 0 [] none) () (by
        refine (Prog.eval_perform (S := tgSig) Channel.run (.pin c.nextId) _).trans ?_
        rw [Channel.run, dif_pos hlt])]
    rfl
  unfold TelegramStorage.upsertPinnedSuperblock
  rw [Prog.eval_bind_ok _ _ _ c c c.pinned rfl]
  rcases c.pinned with _ | m
  · exact hnew
  · simp only []
    by_cases hp : superblockPrefix.isPrefixOf m.text = true
    · rw [if_pos hp]
      rfl
    · rw [if_neg hp]
      exact hnew

/-- A manifest of one object that fits is committed on a channel that answers. -/
theorem eval_commit_isOk (m : Manifest) (deviceSize logicalSectorSize objectSize : Nat)
    (c : Channel) (hflat : TelegramStorage.usesTree m = false) (hid : manifestObjectId < 2 ^ 64)
    (hgen : m.generation < 2 ^ 64) (hsize : objectSize < 2 ^ 32)
    (hlen : objectHeaderLen + m.encodeJson.length < 2 ^ 64) :
    ((storage.commit m deviceSize logicalSectorSize objectSize).eval Channel.run c).1.isOk
      = true := by
  rcases eval_sendEnvelope storage manifestObjectId m.generation objectSize m.encodeJson c hid
    hgen hsize hlen with ⟨hsend, e, hdec⟩
  unfold TelegramStorage.commit TelegramStorage.sendManifest
  rw [hflat, if_neg Bool.false_ne_true]
  -- The manifest is sent and fetched back.
  have hfetch := eval_fetchObject (c.sent 0 manifestObjectId m.generation
      (envelopeOf manifestObjectId m.generation objectSize m.encodeJson)
      (sha256Hex (envelopeOf manifestObjectId m.generation objectSize m.encodeJson)))
    (storage.refAt c 0 manifestObjectId m.generation
      (sha256Hex (envelopeOf manifestObjectId m.generation objectSize m.encodeJson))) _ e
    (document_sent c 0 _ _ _ _) hdec rfl
  have hmanifest := Prog.eval_bind_ok Channel.run _ (fun ref => do
    let _ ← TelegramStorage.fetchObject ref
    pure ref) _ _ _ hsend
  rw [Prog.eval_bind_ok _ _ _ _ _ _ hfetch] at hmanifest
  rw [Prog.eval_bind_ok _ _ _ _ _ _ hmanifest]
  unfold TelegramStorage.pinnedSuperblockText
  generalize c.sent 0 manifestObjectId m.generation _ _ = c1
  rw [Prog.eval_bind_ok _ _ _ c1 c1 (c1.pinned.map (fun m => m.text)) rfl,
    Prog.eval_bind_ok _ _ _ c1 c1 0 rfl, Prog.eval_bind]
  generalize TelegramStorage.superblockFor _ _ _ _ _ _ _ = sb
  have hup := eval_upsert_isOk sb.encodeText c1
  rcases hr : (TelegramStorage.upsertPinnedSuperblock sb.encodeText).eval Channel.run c1 with
    ⟨msg | id, c2⟩
  · rw [hr] at hup
    cases hup
  · rw [hr]
    rfl

theorem eval_commitManifest_isOk (m : Manifest) (deviceSize logicalSectorSize objectSize : Nat)
    (c : Channel) (hflat : TelegramStorage.usesTree m = false) (hid : manifestObjectId < 2 ^ 64)
    (hgen : m.generation < 2 ^ 64) (hsize : objectSize < 2 ^ 32)
    (hlen : objectHeaderLen + m.encodeJson.length < 2 ^ 64) :
    ((storage.commitManifest m deviceSize logicalSectorSize objectSize).eval Channel.run c).1.isOk
      = true := by
  have hok := eval_commit_isOk storage m deviceSize logicalSectorSize objectSize c hflat hid hgen
    hsize hlen
  unfold TelegramStorage.commitManifest
  rw [Prog.eval_bind]
  rcases hr : (storage.commit m deviceSize logicalSectorSize objectSize).eval Channel.run c with
    ⟨msg | sb, c'⟩
  · rw [hr] at hok
    cases hok
  · rw [hr]
    rfl

end Eval

end Crates

end TgDrive
