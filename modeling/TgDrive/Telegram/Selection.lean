import TgDrive.Telegram.CommitSpec

/-!
# Which Superblock Is Found

The search for the newest superblock, as a function of the channel. It looks
at a window of newest messages, takes the superblock with the greatest
generation and the newest of those, and falls back to the pinned message when
the window has none.

So the superblock that was sent last is found when it is in the window and no
other one in the window has a greater generation, and that is also the only
way. `Bounded` is the second half of it.

## Main definitions

* `Channel.superblockText`: The superblock that is found.
* `Channel.Bounded`: No superblock in the window is above a generation.
* `Channel.Latest`: A superblock is the last one that was sent.

## Theorems

* `bestSuperblock_sound`: What the search of the window finds.
* `superblockText_iff`: When the last superblock is found.
* `superblockText_pinned`: When the pinned superblock is found.
* `superblockText_cases`: Whatever is found is undominated or pinned.
-/

namespace TgDrive

open Data Effect

section Crates

variable [Crates]

namespace Channel

/-- The superblock that is found in a window of newest messages, or pinned. -/
def superblockText (c : Channel) (limit : Nat) : Option Text :=
  match bestSuperblock none (c.newest limit) with
  | some (_, text) => some text
  | none => (c.pinned.map (fun m => m.text)).bind (fun text =>
      match Superblock.decodeText text with
      | .ok _ => some text
      | .error _ => none)

/-- No superblock in the window is above a generation. -/
def Bounded (c : Channel) (limit generation : Nat) : Prop :=
  ∀ m ∈ c.newest limit, ∀ sb, Superblock.decodeText m.text = .ok sb →
    sb.manifestGeneration ≤ generation

/-- A superblock is the last one that was sent, fewer than so many messages
    ago. -/
def Latest (c : Channel) (limit : Nat) (sb : Superblock) : Prop :=
  ∃ init m more, c.messages = init ++ m :: more ∧ m.text = sb.encodeText ∧
    (∀ x ∈ more, x.isSuperblock = false) ∧ more.length < limit

end Channel

/-- The search asks and finds what the channel says. -/
theorem wp_recoverSuperblockText (c : Channel) (limit : Nat) :
    wp Telegram (TelegramStorage.recoverSuperblockText limit)
      (fun r c' => c' = c ∧ ∀ text, r = .ok text → text = c.superblockText limit)
      (fun c' => c' = c) c := by
  unfold TelegramStorage.recoverSuperblockText
  refine wp_ask _ _ c (.iterMessages limit) _ (fun a c' h => h.2) (fun a h => ?_)
    ⟨fun msg => ⟨rfl, fun text ht => (by cases ht)⟩, rfl⟩
  rw [h.1]
  unfold Channel.superblockText
  rcases bestSuperblock none (c.newest limit) with _ | ⟨g, t⟩
  · refine wp_seq _ _ _ _ _ _ c (wp_pinnedSuperblockText c) (fun text c' hr => ?_)
      (fun msg c' hr => ⟨hr.1, fun text ht => (by cases ht)⟩) (fun c' hc => hc)
    refine ⟨hr.1, fun found hfound => ?_⟩
    rw [← Except.ok.inj hfound]
    exact congrArg (fun o => Option.bind o _) (hr.2 text rfl)
  · exact ⟨rfl, fun text ht => (Except.ok.inj ht).symm⟩

/-- The search on a channel that answers. -/
theorem eval_recoverSuperblockText (c : Channel) (limit : Nat) :
    (TelegramStorage.recoverSuperblockText limit).eval Channel.run c
      = (.ok (c.superblockText limit), c) := by
  unfold TelegramStorage.recoverSuperblockText Channel.superblockText
  rw [Prog.eval_bind_ok _ _ _ c c (c.newest limit) rfl]
  rcases bestSuperblock none (c.newest limit) with _ | ⟨g, t⟩
  · rfl
  · rfl

/-- Messages that are no superblocks do not count. -/
theorem bestSuperblock_skip (best : Option (Nat × Text)) (skip rest : List Message)
    (h : ∀ m ∈ skip, m.isSuperblock = false) :
    bestSuperblock best (skip ++ rest) = bestSuperblock best rest := by
  induction skip with
  | nil => rfl
  | cons m skip ih =>
      have hm : ∀ sb, Superblock.decodeText m.text ≠ .ok sb := by
        intro sb hsb
        have hp := isPrefixOf_of_decodeText _ sb hsb
        rw [show superblockPrefix.isPrefixOf m.text = false from h m List.mem_cons_self] at hp
        cases hp
      rw [List.cons_append, bestSuperblock]
      rcases hd : Superblock.decodeText m.text with msg | sb
      · exact ih fun x hx => h x (List.mem_cons_of_mem m hx)
      · exact absurd hd (hm sb)

/-- Nothing is better than what is at least as good as everything. -/
theorem bestSuperblock_keep (g : Nat) (t : Text) (messages : List Message)
    (h : ∀ m ∈ messages, ∀ sb, Superblock.decodeText m.text = .ok sb →
      sb.manifestGeneration ≤ g) :
    bestSuperblock (some (g, t)) messages = some (g, t) := by
  induction messages with
  | nil => rfl
  | cons m rest ih =>
      have hrest := ih fun x hx => h x (List.mem_cons_of_mem m hx)
      rw [bestSuperblock]
      rcases hd : Superblock.decodeText m.text with msg | sb
      · exact hrest
      · have hle := h m List.mem_cons_self sb hd
        simp only [improves, decide_eq_true_eq]
        rw [if_neg (by omega)]
        exact hrest

/-- What the search of a window finds: the first of the superblocks with the
    greatest generation, unless an earlier find is at least as good. -/
theorem bestSuperblock_sound (messages : List Message) (best : Option (Nat × Text)) (g : Nat)
    (t : Text) (h : bestSuperblock best messages = some (g, t)) :
    (best = some (g, t) ∨ ∃ pre m post sb, messages = pre ++ m :: post ∧ m.text = t ∧
      Superblock.decodeText t = .ok sb ∧ sb.manifestGeneration = g ∧
      ∀ x ∈ pre, ∀ sb', Superblock.decodeText x.text = .ok sb' → sb'.manifestGeneration < g) ∧
    (∀ m ∈ messages, ∀ sb, Superblock.decodeText m.text = .ok sb →
      sb.manifestGeneration ≤ g) ∧
    ∀ g' t', best = some (g', t') → g' ≤ g ∧ (best ≠ some (g, t) → g' < g) := by
  induction messages generalizing best with
  | nil =>
      have hbest : best = some (g, t) := h
      refine ⟨Or.inl hbest, fun m hm => (by cases hm), fun g' t' hg' => ?_⟩
      rw [hbest, Option.some.injEq, Prod.mk.injEq] at hg'
      exact ⟨Nat.le_of_eq hg'.1.symm, fun hne => absurd hbest hne⟩
  | cons m rest ih =>
      rw [bestSuperblock] at h
      rcases hd : Superblock.decodeText m.text with msg | sb
      · -- A message that is no superblock.
        rw [hd] at h
        rcases ih best h with ⟨hfound, hmax, hbest⟩
        refine ⟨hfound.imp id fun hf => ?_, fun x hx sb' hsb' => ?_, hbest⟩
        · rcases hf with ⟨pre, x, post, sb', hsplit, hrest⟩
          refine ⟨m :: pre, x, post, sb', by rw [hsplit]; rfl, hrest.1, hrest.2.1, hrest.2.2.1,
            fun y hy sb'' hsb'' => ?_⟩
          rcases List.mem_cons.mp hy with rfl | hy
          · rw [hd] at hsb''
            cases hsb''
          · exact hrest.2.2.2 y hy sb'' hsb''
        · rcases List.mem_cons.mp hx with rfl | hx
          · rw [hd] at hsb'
            cases hsb'
          · exact hmax x hx sb' hsb'
      · simp only [hd] at h
        by_cases himp : improves best sb = true
        · -- The new best one.
          rw [if_pos himp] at h
          rcases ih _ h with ⟨hfound, hmax, hbest⟩
          have hsb := hbest _ _ rfl
          have hold : ∀ g' t', best = some (g', t') → g' < g := by
            intro g' t' hg'
            rw [hg'] at himp
            simp only [improves, decide_eq_true_eq] at himp
            omega
          refine ⟨Or.inr ?_, fun x hx sb' hsb' => ?_, fun g' t' hg' =>
            ⟨Nat.le_of_lt (hold g' t' hg'), fun _ => hold g' t' hg'⟩⟩
          · rcases hfound with hfound | ⟨pre, x, post, sb', hsplit, htext, hsb', hg, hpre⟩
            · rw [Option.some.injEq, Prod.mk.injEq] at hfound
              exact ⟨[], m, rest, sb, rfl, hfound.2, hfound.2 ▸ hd, hfound.1,
                fun x hx => (by cases hx)⟩
            · by_cases hsame : (some (sb.manifestGeneration, m.text) : Option (Nat × Text))
                  = some (g, t)
              · rw [Option.some.injEq, Prod.mk.injEq] at hsame
                exact ⟨[], m, rest, sb, rfl, hsame.2, hsame.2 ▸ hd, hsame.1,
                  fun x hx => (by cases hx)⟩
              · refine ⟨m :: pre, x, post, sb', by rw [hsplit]; rfl, htext, hsb', hg,
                  fun y hy sb'' hsb'' => ?_⟩
                rcases List.mem_cons.mp hy with rfl | hy
                · rw [hd, Except.ok.injEq] at hsb''
                  rw [← hsb'']
                  exact hsb.2 hsame
                · exact hpre y hy sb'' hsb''
          · rcases List.mem_cons.mp hx with rfl | hx
            · rw [hd, Except.ok.injEq] at hsb'
              rw [← hsb']
              exact hsb.1
            · exact hmax x hx sb' hsb'
        · rw [if_neg himp] at h
          rcases ih best h with ⟨hfound, hmax, hbest⟩
          -- The best one so far was good enough.
          rcases hb : best with _ | ⟨g0, t0⟩
          · rw [hb] at himp
            exact absurd rfl himp
          · have hle : sb.manifestGeneration ≤ g0 := by
              rw [hb] at himp
              simp only [improves, decide_eq_true_eq] at himp
              omega
            have hg0 := hbest g0 t0 hb
            rw [← hb]
            refine ⟨?_, fun x hx sb' hsb' => ?_, hbest⟩
            · rcases hfound with hfound | ⟨pre, x, post, sb', hsplit, htext, hsb', hg, hpre⟩
              · exact Or.inl hfound
              · by_cases hsame : best = some (g, t)
                · exact Or.inl hsame
                · refine Or.inr ⟨m :: pre, x, post, sb', by rw [hsplit]; rfl, htext, hsb', hg,
                    fun y hy sb'' hsb'' => ?_⟩
                  rcases List.mem_cons.mp hy with rfl | hy
                  · rw [hd, Except.ok.injEq] at hsb''
                    have hlt := hg0.2 hsame
                    rw [← hsb'']
                    omega
                  · exact hpre y hy sb'' hsb''
            · rcases List.mem_cons.mp hx with rfl | hx
              · rw [hd, Except.ok.injEq] at hsb'
                rw [← hsb']
                omega
              · exact hmax x hx sb' hsb'

theorem bestSuperblock_none (messages : List Message)
    (h : bestSuperblock none messages = none) :
    ∀ m ∈ messages, ∀ sb, Superblock.decodeText m.text ≠ .ok sb := by
  have hsome : ∀ (l : List Message) (p : Nat × Text), bestSuperblock (some p) l ≠ none := by
    intro l
    induction l with
    | nil => exact fun p hp => (by cases hp)
    | cons m rest ih =>
        intro p hp
        rw [bestSuperblock] at hp
        rcases hd : Superblock.decodeText m.text with msg | sb
        · rw [hd] at hp
          exact ih p hp
        · simp only [hd] at hp
          by_cases himp : improves (some p) sb = true
          · rw [if_pos himp] at hp
            exact ih _ hp
          · rw [if_neg himp] at hp
            exact ih _ hp
  induction messages with
  | nil => exact fun m hm => (by cases hm)
  | cons m rest ih =>
      rw [bestSuperblock] at h
      rcases hd : Superblock.decodeText m.text with msg | sb
      · rw [hd] at h
        intro x hx
        rcases List.mem_cons.mp hx with rfl | hx
        · intro sb hsb
          rw [hd] at hsb
          cases hsb
        · exact ih h x hx
      · simp only [hd, improves, if_true] at h
        exact absurd h (hsome _ _)

namespace Channel

variable {c c' : Channel} {limit : Nat} {sb : Superblock}

omit [Crates] in
/-- A message of the window was in it before, or is new. -/
theorem Grows.newest (h : Grows c c') (limit : Nat) (m : Message) (hm : m ∈ c'.newest limit) :
    m ∈ c.newest limit ∨ (m ∈ c'.messages ∧ m ∉ c.messages) := by
  rcases h.messages with ⟨more, hmore, hids⟩
  have hmem : m ∈ c'.messages := List.mem_reverse.mp (List.mem_of_mem_take hm)
  rw [Channel.newest, hmore, List.reverse_append, List.take_append] at hm
  rcases List.mem_append.mp hm with hm | hm
  · refine Or.inr ⟨hmem, fun hold => ?_⟩
    have hnew := hids m (List.mem_reverse.mp (List.mem_of_mem_take hm))
    have hlt := c.below m hold
    omega
  · refine Or.inl (List.Sublist.subset ?_ hm)
    exact List.take_sublist_take_left (Nat.sub_le _ _)

/-- A channel where only plain messages were added stays bounded. -/
theorem Bounded.quiet (generation : Nat) (h : c.Bounded limit generation) (hc : c.Grows c')
    (hplain : ∀ m ∈ c'.messages, m ∉ c.messages → m.isSuperblock = false) :
    c'.Bounded limit generation := by
  intro m hm sb hsb
  rcases hc.newest limit m hm with hm | ⟨hm, hnew⟩
  · exact h m hm sb hsb
  · have hp := isPrefixOf_of_decodeText _ sb hsb
    rw [show superblockPrefix.isPrefixOf m.text = false from hplain m hm hnew] at hp
    cases hp

/-- The window of a channel with a last superblock. -/
theorem Latest.window (h : c.Latest limit sb) : ∃ skip m post,
    c.newest limit = skip ++ m :: post ∧ m.text = sb.encodeText ∧
    ∀ x ∈ skip, x.isSuperblock = false := by
  rcases h with ⟨init, m, more, hsplit, htext, hplain, hlen⟩
  refine ⟨more.reverse, m, init.reverse.take (limit - (more.length + 1)), ?_, htext,
    fun x hx => hplain x (List.mem_reverse.mp hx)⟩
  rw [newest, hsplit, List.reverse_append, List.reverse_cons, List.append_assoc,
    List.take_append, List.length_reverse, List.take_of_length_le (by
      rw [List.length_reverse]
      omega), List.singleton_append]
  rw [show limit - more.length = (limit - (more.length + 1)) + 1 by omega,
    List.take_succ_cons]

/-- Nothing in the window has a greater generation than what is found. -/
theorem superblockText_bounded (text : Text) (h : c.superblockText limit = some text)
    (hdec : Superblock.decodeText text = .ok sb) : c.Bounded limit sb.manifestGeneration := by
  rcases hb : bestSuperblock none (c.newest limit) with _ | ⟨g, t⟩
  · -- The window has no superblock at all.
    exact fun m hm sb' hsb' => absurd hsb' (bestSuperblock_none _ hb m hm sb')
  · rcases bestSuperblock_sound _ _ g t hb with ⟨hwhere, hmax, _⟩
    rw [superblockText, hb, Option.some.injEq] at h
    have hg : sb.manifestGeneration = g := by
      rcases hwhere with hwhere | ⟨_, _, _, sb', _, _, hsb', hg, _⟩
      · cases hwhere
      · rw [h, hdec, Except.ok.injEq] at hsb'
        rw [hsb', hg]
    rw [hg]
    exact hmax

/-- The last superblock is found exactly when the window has none with a
    greater generation. -/
theorem superblockText_iff (h : c.Latest limit sb) :
    c.superblockText limit = some sb.encodeText ↔ c.Bounded limit sb.manifestGeneration := by
  rcases h.window with ⟨skip, m, post, hsplit, htext, hskip⟩
  have hdec := Superblock.decodeText_encodeText sb
  constructor
  · exact fun hfound => superblockText_bounded _ hfound hdec
  · intro hbound
    have hkeep := bestSuperblock_keep sb.manifestGeneration m.text post fun x hx sb' hsb' => by
      refine hbound x ?_ sb' hsb'
      rw [hsplit]
      exact List.mem_append_right skip (List.mem_cons_of_mem m hx)
    rw [superblockText, hsplit, bestSuperblock_skip none skip _ hskip, bestSuperblock, htext,
      hdec]
    simp only [improves, if_true]
    rw [htext] at hkeep
    rw [hkeep]

/-- When the window has no superblock, the pinned one is found. -/
theorem superblockText_pinned (h : ∀ m ∈ c.newest limit, m.isSuperblock = false) (m : Message)
    (hm : c.pinned = some m) (htext : m.text = sb.encodeText) :
    c.superblockText limit = some sb.encodeText := by
  have hnone := bestSuperblock_skip none (c.newest limit) [] h
  rw [List.append_nil] at hnone
  rw [superblockText, hnone, bestSuperblock, hm, Option.map_some, Option.bind_some, htext,
    Superblock.decodeText_encodeText]

/-- A superblock just sent is the last one. -/
theorem latest_of_upserts (hlimit : 0 < limit) (h : Upserts c sb.encodeText true c') :
    c'.Latest limit sb := by
  rcases h.newest with ⟨init, id, hmsgs⟩
  exact ⟨init, _, [], hmsgs, rfl, fun x hx => (by cases hx), hlimit⟩

/-- Plain messages, and not too many, leave the last superblock the last one. -/
theorem Latest.quiet (n : Nat) (h : c.Latest n sb) (hc : c.Grows c')
    (hnone : ∀ m ∈ c'.messages, m ∉ c.messages → m.isSuperblock = false)
    (hlen : c'.messages.length + n ≤ c.messages.length + limit) : c'.Latest limit sb := by
  rcases h with ⟨init, m, more, hsplit, htext, hplain, hn⟩
  rcases hc.messages with ⟨new, hnew, hids⟩
  refine ⟨init, m, more ++ new, by rw [hnew, hsplit, List.append_assoc, List.cons_append], htext,
    fun x hx => ?_, ?_⟩
  · rcases List.mem_append.mp hx with hx | hx
    · exact hplain x hx
    · refine hnone x (by rw [hnew]; exact List.mem_append_right _ hx) fun hold => ?_
      have hlt := c.below x hold
      have hge := hids x hx
      omega
  · rw [hnew, List.length_append] at hlen
    rw [List.length_append]
    omega

end Channel

end Crates

end TgDrive
