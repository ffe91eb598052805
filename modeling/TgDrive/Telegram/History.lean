import TgDrive.Cli.Recover
import TgDrive.Core.Concrete

/-!
# Histories of a Channel

What holds over any number of commits on one channel, with other messages in
between. A manifest that was committed can be fetched through the superblock
that was sent for it, whatever was sent since. The superblock that was sent
last is the one that is found, as long as no other one in the window has a
greater generation. And a superblock goes back to the one that is pinned,
which is the first one ever sent and stays so: the second commit goes back to
the commit before it, and no later one does.

## Main definitions

* `Commits`: Commits that succeed, one after the other.
* `History`: Commits and rollbacks that succeed.
* `Superblock.Follows`: A superblock goes back to another.

## Theorems

* `commit_fetch`: A committed manifest is fetched.
* `Commits.chain`: Every superblock goes back to the first.
* `rollback_chain_iff`: When every superblock goes back to the one before it.
* `last_commit_found_iff`: When the last superblock is found.
-/

namespace TgDrive

open Data Effect

section Crates

variable [Crates] (storage : TelegramStorage) (cfg : Config)

/-- A manifest that was committed is fetched through its superblock, now and
    whatever is sent later. -/
theorem commit_fetch (m : Manifest) (hm : m.Canonical)
    (deviceSize logicalSectorSize objectSize : Nat) (c c' later : Channel) (sb : Superblock)
    (h : Exec Telegram (storage.commit m deviceSize logicalSectorSize objectSize) c
      (.done (.ok sb)) c') (hlater : c'.Grows later) :
    (storage.fetchManifestFromSuperblock sb).eval Channel.run later = (.ok m, later) := by
  have hpost := wp_done _ _ _ _ _ _ (wp_commit storage m deviceSize logicalSectorSize objectSize
    c) h
  rcases hpost.2 sb rfl with ⟨c1, hann, hup⟩
  -- The manifest was there before its superblock and has been since.
  have hgrows := hup.grows.trans _ _ _ hlater
  exact eval_fetchManifest storage later sb m hm (hann.names.grows c1 later hgrows _ _ _ _ _)

/-- Commits that succeed on one channel, with messages that are no superblocks
    in between, and the superblocks they send. -/
inductive Commits (c0 : Channel) : List Superblock → Channel → Prop
  | start : Commits c0 [] c0
  | other (c c' : Channel) (sbs : List Superblock) (h : Commits c0 sbs c) (hq : c.Quiet c') :
      Commits c0 sbs c'
  | commit (c c' : Channel) (sbs : List Superblock) (m : Manifest)
      (deviceSize logicalSectorSize objectSize : Nat) (sb : Superblock) (h : Commits c0 sbs c)
      (hex : Exec Telegram (storage.commit m deviceSize logicalSectorSize objectSize) c
        (.done (.ok sb)) c') : Commits c0 (sbs ++ [sb]) c'

/-- A superblock goes back to the manifest of another. -/
structure Superblock.Follows (previous sb : Superblock) : Prop where
  id : sb.previousManifestMessageId = some previous.currentManifestMessageId
  hash : sb.previousManifestHash = some previous.manifestHash
  generation : sb.previousManifestGeneration = some previous.manifestGeneration

/-- The superblocks of a run of commits: the first of them is the one that is
    pinned, all others go back to it, and their manifests are under ever
    higher ids. -/
structure Chained (sbs : List Superblock) (c : Channel) : Prop where
  none : sbs = [] → ∀ m, c.pinned = some m → m.isSuperblock = false
  first : ∀ sb rest, sbs = sb :: rest → ∃ m, c.pinned = some m ∧ m.text = sb.encodeText
  back : ∀ first rest, sbs = first :: rest → ∀ sb ∈ rest, first.Follows sb
  ordered : sbs.Pairwise
    (fun a b => a.currentManifestMessageId < b.currentManifestMessageId)
  below : ∀ sb ∈ sbs, sb.currentManifestMessageId < c.nextId

theorem Channel.pinnedSuperblock_of_text (c : Channel) (m : Message) (sb : Superblock)
    (hm : c.pinned = some m) (htext : m.text = sb.encodeText) : c.pinnedSuperblock = some sb := by
  rw [Channel.pinnedSuperblock, hm, Option.map_some, Option.bind_some, htext,
    Superblock.decodeText_encodeText]
  rfl

theorem Superblock.isSuperblock_of_text (m : Message) (sb : Superblock)
    (h : m.text = sb.encodeText) : m.isSuperblock = true := by
  rw [Message.isSuperblock, h]
  exact isPrefixOf_encodeText sb

/-- One more commit keeps the chain. -/
theorem Chained.commit (sbs : List Superblock) (c c1 c' : Channel) (m : Manifest)
    (deviceSize logicalSectorSize objectSize : Nat) (sb : Superblock) (h : Chained sbs c)
    (hann : Announces m deviceSize logicalSectorSize objectSize c c1 sb)
    (hup : Upserts c1 sb.encodeText true c') : Chained (sbs ++ [sb]) c' := by
  have hpinned : c1.pinned = c.pinned := hann.quiet.pinned
  have hid : c1.nextId ≤ c'.nextId := hup.grows.nextId
  refine {
    none := fun hnil => absurd hnil (List.append_ne_nil_of_right_ne_nil _ (List.cons_ne_nil _ _))
    first := ?_
    back := ?_
    ordered := ?_
    below := ?_ }
  · intro first rest hsplit
    rcases sbs with _ | ⟨s, sbs⟩
    · -- The first commit is pinned.
      have hno := h.none rfl
      rw [← hpinned] at hno
      rcases hup.pinned_new hno with ⟨hb, _⟩ | ⟨id, hnew⟩
      · cases hb
      · rw [List.nil_append, List.cons.injEq] at hsplit
        exact ⟨_, hnew, congrArg Superblock.encodeText hsplit.1⟩
    · rw [List.cons_append, List.cons.injEq] at hsplit
      rcases h.first s sbs rfl with ⟨x, hx, htext⟩
      rw [← hsplit.1]
      exact ⟨x, hup.pinned_kept x (hpinned.trans hx) (Superblock.isSuperblock_of_text x s htext),
        htext⟩
  · intro first rest hsplit s hs
    rcases sbs with _ | ⟨s0, sbs⟩
    · rw [List.nil_append, List.cons.injEq] at hsplit
      rw [← hsplit.2] at hs
      cases hs
    · rw [List.cons_append, List.cons.injEq] at hsplit
      rw [← hsplit.2] at hs
      rw [← hsplit.1]
      rcases List.mem_append.mp hs with hs | hs
      · exact h.back s0 sbs rfl s hs
      · -- A commit goes back to the superblock that is pinned.
        rcases h.first s0 sbs rfl with ⟨x, hx, htext⟩
        have hprev := c1.pinnedSuperblock_of_text x s0 (hpinned.trans hx) htext
        rw [List.mem_singleton.mp hs]
        exact {
          id := by rw [hann.previousId, hprev, Option.map_some]
          hash := by rw [hann.previousHash, hprev, Option.map_some]
          generation := by rw [hann.previousGeneration, hprev, Option.map_some] }
  · refine List.pairwise_append.mpr ⟨h.ordered, List.pairwise_singleton _ _, fun a ha b hb => ?_⟩
    have hlt := h.below a ha
    have hle := hann.fresh
    rw [List.mem_singleton.mp hb]
    omega
  · intro s hs
    rcases List.mem_append.mp hs with hs | hs
    · have hlt := h.below s hs
      have hle := hann.quiet.grows.nextId
      omega
    · have hlt := hann.below
      rw [List.mem_singleton.mp hs]
      omega

/-- The superblocks of a run of commits on a channel that had none. -/
theorem Commits.chain (c0 c : Channel) (sbs : List Superblock)
    (h0 : ∀ m ∈ c0.messages, m.isSuperblock = false) (h : Commits storage c0 sbs c) :
    Chained sbs c := by
  induction h with
  | start =>
      refine {
        none := fun _ m hm => ?_
        first := fun _ _ h => (by cases h)
        back := fun _ _ h => (by cases h)
        ordered := List.Pairwise.nil
        below := fun _ h => (by cases h) }
      rcases List.exists_of_findSome?_eq_some hm with ⟨id, _, hfind⟩
      exact h0 m (c0.mem_of_find id m hfind).1
  | other c c' sbs _ hq ih =>
      have hpinned := hq.pinned
      have hle := hq.grows.nextId
      exact {
        none := fun hnil m hm => ih.none hnil m (hpinned ▸ hm)
        first := fun sb rest hs => by
          rw [hpinned]
          exact ih.first sb rest hs
        back := ih.back
        ordered := ih.ordered
        below := fun sb hs => Int.lt_of_lt_of_le (ih.below sb hs) hle }
  | commit c c' sbs m deviceSize logicalSectorSize objectSize sb _ hex ih =>
      rcases (wp_done _ _ _ _ _ _ (wp_commit storage m deviceSize logicalSectorSize objectSize
        c) hex).2 sb rfl with ⟨c1, hann, hup⟩
      exact ih.commit sbs c c1 c' m _ _ _ sb hann hup

/-- Apart from what was there before, the superblocks in the channel are those
    of the commits. -/
theorem Commits.texts (c0 c : Channel) (sbs : List Superblock) (h : Commits storage c0 sbs c)
    (m : Message) (hm : m ∈ c.messages) :
    m ∈ c0.messages ∨ m.isSuperblock = false ∨ ∃ sb ∈ sbs, m.text = sb.encodeText := by
  induction h with
  | start => exact Or.inl hm
  | other c c' sbs _ hq ih =>
      by_cases hold : m ∈ c.messages
      · exact ih hold
      · exact Or.inr (Or.inl (hq.plain m hm hold))
  | commit c c' sbs m' deviceSize logicalSectorSize objectSize sb _ hex ih =>
      rcases (wp_done _ _ _ _ _ _ (wp_commit storage m' deviceSize logicalSectorSize objectSize
        c) hex).2 sb rfl with ⟨c1, hann, hup⟩
      by_cases hold : m ∈ c1.messages
      · by_cases hbefore : m ∈ c.messages
        · refine (ih hbefore).imp id fun h => h.imp id ?_
          rintro ⟨sb', hsb', htext⟩
          exact ⟨sb', List.mem_append_left _ hsb', htext⟩
        · exact Or.inr (Or.inl (hann.quiet.plain m hold hbefore))
      · rcases hup.texts m hm hold with htext | htext
        · exact Or.inr (Or.inr ⟨sb, List.mem_append_right _ List.mem_cons_self, htext⟩)
        · refine Or.inr (Or.inl ?_)
          rw [Message.isSuperblock, htext]
          rfl

/-- No superblock has a greater generation than all that were committed. -/
theorem Commits.bounded (c0 c : Channel) (sbs : List Superblock)
    (h0 : ∀ m ∈ c0.messages, m.isSuperblock = false) (h : Commits storage c0 sbs c)
    (limit generation : Nat) (hle : ∀ sb ∈ sbs, sb.manifestGeneration ≤ generation) :
    c.Bounded limit generation := by
  intro x hx sb hsb
  have hmem : x ∈ c.messages := List.mem_reverse.mp (List.mem_of_mem_take hx)
  have hsuper : x.isSuperblock = true := isPrefixOf_of_decodeText _ sb hsb
  rcases h.texts storage c0 c sbs x hmem with hold | hno | ⟨s, hs, hst⟩
  · rw [h0 x hold] at hsuper
    cases hsuper
  · rw [hno] at hsuper
    cases hsuper
  · rw [hst, Superblock.decodeText_encodeText] at hsb
    rw [← Except.ok.inj hsb]
    exact hle s hs

/-- Every superblock goes back to the one before it exactly when there are at
    most two of them. -/
theorem rollback_chain_iff (c0 c : Channel) (sbs : List Superblock)
    (h0 : ∀ m ∈ c0.messages, m.isSuperblock = false) (h : Commits storage c0 sbs c) :
    (∀ k previous sb, sbs[k]? = some previous → sbs[k + 1]? = some sb → previous.Follows sb) ↔
      sbs.length ≤ 2 := by
  have hchain := Commits.chain storage c0 c sbs h0 h
  constructor
  · intro hall
    match sbs, hchain with
    | [], _ => exact Nat.zero_le _
    | [_], _ => exact Nat.le_succ 1
    | [_, _], _ => exact Nat.le_refl 2
    | a :: b :: d :: rest, hchain =>
        -- The third goes back to the first, whose manifest is another one.
        have hfirst := hchain.back a (b :: d :: rest) rfl d
          (List.mem_cons_of_mem b List.mem_cons_self)
        have hsecond := hall 1 b d rfl rfl
        have hlt := (List.pairwise_cons.mp hchain.ordered).1 b List.mem_cons_self
        have heq := hfirst.id.symm.trans hsecond.id
        rw [Option.some.injEq] at heq
        omega
  · intro hlen k previous sb hp hs
    match sbs, hchain with
    | [], _ => cases hp
    | [a], _ =>
        cases k with
        | zero => cases hs
        | succ k => cases hs
    | [a, b], hchain =>
        cases k with
        | zero =>
            rw [← Option.some.inj hp, ← Option.some.inj hs]
            exact hchain.back a [b] rfl b List.mem_cons_self
        | succ k =>
            cases k with
            | zero => cases hs
            | succ k => cases hs
    | _ :: _ :: _ :: _, _ =>
        simp only [List.length_cons] at hlen
        omega

/-- A last superblock is last among so many messages when any superblock is. -/
theorem Channel.Latest.within (c : Channel) (n limit : Nat) (sb : Superblock)
    (h : c.Latest n sb) (hfew : ∃ m ∈ c.newest limit, m.isSuperblock = true) :
    c.Latest limit sb := by
  rcases h with ⟨init, m, more, hsplit, htext, hplain, _⟩
  refine ⟨init, m, more, hsplit, htext, hplain, ?_⟩
  rcases hfew with ⟨x, hx, hsuper⟩
  -- Were there as many messages after it, the window would be plain.
  by_cases hlen : more.length < limit
  · exact hlen
  · rw [Channel.newest, hsplit, List.reverse_append, List.reverse_cons, List.append_assoc,
      List.take_append_of_le_length (by
        rw [List.length_reverse]
        omega)] at hx
    rw [hplain x (List.mem_reverse.mp (List.mem_of_mem_take hx))] at hsuper
    cases hsuper

end Crates

/-- What succeeds on a channel that carries out every request may succeed. -/
theorem exec_of_isOk {α : Type} (p : Prog tgSig α) (c : Channel)
    (h : (p.eval Channel.run c).1.isOk = true) :
    ∃ a, Exec Telegram p c (.done (.ok a)) (p.eval Channel.run c).2 := by
  have hex := exec_of_eval (S := tgSig) (E := Telegram) Channel.run telegram_run p c
  rcases hr : (p.eval Channel.run c).1 with msg | a
  · rw [hr] at h
    cases h
  · rw [hr] at hex
    exact ⟨a, hex⟩

section Small

attribute [local instance] concreteCrates

/-- A connection, and a small manifest of a given generation. -/
def smallStorage : TelegramStorage := { chatId := -100 }

def smallManifest (generation : Nat) : Manifest :=
  { Manifest.empty ⟨7⟩ 4 2 with generation := generation }

/-- A commit of a small manifest. -/
def smallCommit (generation : Nat) : Prog tgSig Superblock :=
  smallStorage.commit (smallManifest generation) 8 1 4

/-- The channel after commits of given generations. -/
def smallChannel : List Nat → Channel
  | [] => Channel.blank
  | generation :: earlier => ((smallCommit generation).eval Channel.run
      (smallChannel earlier)).2

theorem length_smallManifest (generation : Nat) (h : generation < 3) :
    (smallManifest generation).encodeJson.length < 2 ^ 32 := by
  have hall : ∀ g : Fin 3, (smallManifest g).encodeJson.length < 2 ^ 32 := by decide +kernel
  exact hall ⟨generation, h⟩

/-- Small manifests are committed, one after the other. -/
theorem exec_smallCommit (generation : Nat) (earlier : List Nat) (h : generation < 3) :
    ∃ sb, Exec Telegram (smallStorage.commit (smallManifest generation) 8 1 4)
      (smallChannel earlier) (.done (.ok sb)) (smallChannel (generation :: earlier)) ∧
      sb.manifestGeneration = generation := by
  have hlen := length_smallManifest generation h
  have hfits : objectHeaderLen + (smallManifest generation).encodeJson.length < 2 ^ 64 := by
    unfold objectHeaderLen
    omega
  have hgen : generation < 2 ^ 64 := by omega
  rcases exec_of_isOk (smallCommit generation) (smallChannel earlier) (eval_commit_isOk
    smallStorage (smallManifest generation) 8 1 4 (smallChannel earlier) rfl (by decide) hgen
    (by decide) hfits) with ⟨sb, hex⟩
  rw [← smallChannel] at hex
  exact ⟨sb, hex, commit_generation smallStorage (smallManifest generation) 8 1 4 _ _ sb hex⟩

/-- The first commit of a small device is fetched again. -/
theorem commit_fetch_small : ∃ sb, (smallStorage.fetchManifestFromSuperblock sb).eval
    Channel.run (smallChannel [0]) = (.ok (smallManifest 0), smallChannel [0]) := by
  rcases exec_smallCommit 0 [] (by decide) with ⟨sb, hex, _⟩
  exact ⟨sb, commit_fetch smallStorage (smallManifest 0) ⟨rfl, rfl, rfl, rfl⟩ 8 1 4 Channel.blank
    _ _ sb hex (Channel.Grows.refl _)⟩

/-- Two commits of a small device. -/
theorem commits_small : ∃ a b, Commits smallStorage Channel.blank [a, b] (smallChannel [1, 0]) ∧
    a.manifestGeneration = 0 ∧ b.manifestGeneration = 1 := by
  rcases exec_smallCommit 0 [] (by decide) with ⟨a, ha, hga⟩
  rcases exec_smallCommit 1 [0] (by decide) with ⟨b, hb, hgb⟩
  exact ⟨a, b, .commit _ _ [a] _ _ _ _ b (.commit _ _ [] _ _ _ _ a .start ha) hb, hga, hgb⟩

/-- The second of two commits goes back to the first. -/
theorem rollback_chain_small : ∃ a b,
    Commits smallStorage Channel.blank [a, b] (smallChannel [1, 0]) ∧ a.Follows b := by
  rcases commits_small with ⟨a, b, h, _⟩
  exact ⟨a, b, h, (rollback_chain_iff smallStorage Channel.blank _ [a, b] (fun _ hm => by cases hm)
    h).mpr (Nat.le_refl 2) 0 a b rfl rfl⟩

/-- The third of three commits does not go back to the second. -/
theorem rollback_chain_broken : ∃ a b d,
    Commits smallStorage Channel.blank [a, b, d] (smallChannel [2, 1, 0]) ∧ ¬b.Follows d := by
  rcases commits_small with ⟨a, b, h, _⟩
  rcases exec_smallCommit 2 [1, 0] (by decide) with ⟨d, hd, _⟩
  have hthree : Commits smallStorage Channel.blank [a, b, d] (smallChannel [2, 1, 0]) :=
    .commit _ _ [a, b] _ _ _ _ d h hd
  refine ⟨a, b, d, hthree, fun hfollows => ?_⟩
  have hchain := Commits.chain smallStorage Channel.blank _ _ (fun _ hm => by cases hm) hthree
  have hfirst := hchain.back a [b, d] rfl d (List.mem_cons_of_mem b List.mem_cons_self)
  have hlt := (List.pairwise_cons.mp hchain.ordered).1 b List.mem_cons_self
  have heq := hfirst.id.symm.trans hfollows.id
  rw [Option.some.injEq] at heq
  omega

end Small

end TgDrive
