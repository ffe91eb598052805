import TgDrive.Core.Primitives
import TgDrive.Effect.Exec
import Mathlib.Data.List.Forall2
import Mathlib.Data.List.Nodup

/-!
# The Channel

A Telegram channel as its clients see it: a list of messages with increasing
ids, and the messages that were pinned. What is assumed of Telegram is what
`Telegram` says, and no more than the client library documents. A message that
is sent gets an id above all others and keeps its text and its document;
pinning may leave a notice in the channel; iterating gives the newest messages
first; asking for ids gives each message once. Every request may fail, and one
that fails may have been carried out all the same.

No request deletes anything. Deletion is a matter of one command and stands
with it, so that everything a client does by the requests here makes the
channel grow, which `exec_grows` proves once for all programs.

## Main definitions

* `Message`, `Channel`: The messages of a channel.
* `Channel.post`, `Channel.pin`: Sending and pinning.
* `TgOp`: The requests of a client.
* `Telegram`: The environment they run in.
* `Channel.run`: A channel that carries out every request.
* `Channel.Grows`: Messages are only added.

## Theorems

* `Channel.Grows.find`: What is found stays found.
* `exec_grows`: Whatever a client does, the channel grows.
* `telegram_run`: A channel that carries out every request is one that may be.
-/

namespace TgDrive

open Data Effect

structure Message where
  id : Int
  text : Text
  media : Option Bytes
  deriving DecidableEq

/-- A channel: its messages, oldest first, the ids that were pinned, newest
    first, and the first id that is free. -/
structure Channel where
  messages : List Message
  pins : List Int
  nextId : Int
  ordered : messages.Pairwise (fun a b => a.id < b.id)
  below : ∀ m ∈ messages, m.id < nextId
  pinsBelow : ∀ i ∈ pins, i < nextId

namespace Channel

/-- A channel nobody wrote to. -/
def blank : Channel where
  messages := []
  pins := []
  nextId := 1
  ordered := List.Pairwise.nil
  below := fun _ h => (by cases h)
  pinsBelow := fun _ h => (by cases h)

/-- Send a message. It gets an id that is free, not always the first. -/
def post (c : Channel) (gap : Nat) (text : Text) (media : Option Bytes) : Channel where
  messages := c.messages ++ [{ id := c.nextId + gap, text := text, media := media }]
  pins := c.pins
  nextId := c.nextId + gap + 1
  ordered := by
    refine List.pairwise_append.mpr ⟨c.ordered, List.pairwise_singleton _ _, ?_⟩
    intro a ha b hb
    have hlt := c.below a ha
    rw [List.mem_singleton.mp hb]
    change a.id < c.nextId + gap
    omega
  below := by
    intro m hm
    rcases List.mem_append.mp hm with hm | hm
    · have hlt := c.below m hm
      omega
    · rw [List.mem_singleton.mp hm]
      change c.nextId + gap < c.nextId + gap + 1
      omega
  pinsBelow := by
    intro i hi
    have hlt := c.pinsBelow i hi
    omega

/-- Pin a message that was sent. -/
def pin (c : Channel) (id : Int) (h : id < c.nextId) : Channel :=
  { c with
    pins := id :: c.pins
    pinsBelow := by
      intro i hi
      rcases List.mem_cons.mp hi with rfl | hi
      · exact h
      · exact c.pinsBelow i hi }

/-- The message with an id. -/
def find (c : Channel) (id : Int) : Option Message :=
  c.messages.find? (fun m => decide (m.id = id))

/-- The message pinned last, of those that are still there. -/
def pinned (c : Channel) : Option Message := c.pins.findSome? c.find

/-- The newest messages, newest first. -/
def newest (c : Channel) (limit : Nat) : List Message := c.messages.reverse.take limit

/-- The messages with given ids. An id asked for twice is found once. -/
def lookup (c : Channel) : List Int → List Int → List (Option Message)
  | _, [] => []
  | seen, id :: rest =>
      (if id ∈ seen then none else c.find id) :: c.lookup (id :: seen) rest

/-- The document under a message id. -/
def document (c : Channel) (id : Int) : Option Bytes := (c.find id).bind (fun m => m.media)

end Channel

/-- The requests of a client. -/
inductive TgOp : Type
  | sendDocument (caption : Text) (document : Bytes)
  | sendText (text : Text)
  | pin (id : Int)
  | getPinned
  | getMessages (ids : List Int)
  | download (document : Bytes)
  | iterMessages (limit : Nat)
  | now

abbrev TgOp.Resp : TgOp → Type
  | .sendDocument _ _ => Int
  | .sendText _ => Int
  | .pin _ => Unit
  | .getPinned => Option Message
  | .getMessages _ => List (Option Message)
  | .download _ => Bytes
  | .iterMessages _ => List Message
  | .now => Nat

abbrev tgSig : Signature := { Op := TgOp, Resp := TgOp.Resp }

/-- A request that is carried out, with its answer. -/
def TgOp.Done : (e : TgOp) → Channel → e.Resp → Channel → Prop
  | .sendDocument caption document, c, id, c' =>
      ∃ gap : Nat, id = c.nextId + gap ∧ c' = c.post gap caption (some document)
  | .sendText text, c, id, c' => ∃ gap : Nat, id = c.nextId + gap ∧ c' = c.post gap text none
  | .pin id, c, _, c' => ∃ h, c' = c.pin id h ∨ ∃ gap, c' = (c.pin id h).post gap [] none
  | .getPinned, c, a, c' => a = c.pinned ∧ c' = c
  | .getMessages ids, c, a, c' => a = c.lookup [] ids ∧ c' = c
  | .download document, c, a, c' => a = document ∧ c' = c
  | .iterMessages limit, c, a, c' => a = c.newest limit ∧ c' = c
  | .now, c, _, c' => c' = c

/-- Telegram: a request is carried out, or fails, and then it may have been
    carried out or not. -/
def Telegram : Env tgSig Channel where
  step e c r c' := match r with
    | .ok a => e.Done c a c'
    | .error _ => c' = c ∨ ∃ a, e.Done c a c'
  crash e c c' := c' = c ∨ ∃ a, e.Done c a c'

/-- A channel that carries out every request, gives the first free id and
    leaves a notice when a message is pinned. -/
def Channel.run : (e : TgOp) → Channel → Except String e.Resp × Channel
  | .sendDocument caption document, c => (.ok c.nextId, c.post 0 caption (some document))
  | .sendText text, c => (.ok c.nextId, c.post 0 text none)
  | .pin id, c =>
      if h : id < c.nextId then (.ok (), (c.pin id h).post 0 [] none)
      else (.error "MESSAGE_ID_INVALID", c)
  | .getPinned, c => (.ok c.pinned, c)
  | .getMessages ids, c => (.ok (c.lookup [] ids), c)
  | .download document, c => (.ok document, c)
  | .iterMessages limit, c => (.ok (c.newest limit), c)
  | .now, c => (.ok 0, c)

/-- A channel that carries out every request is one that Telegram may be. -/
theorem telegram_run (e : TgOp) (c : Channel) :
    Telegram.step e c (c.run e).1 (c.run e).2 := by
  cases e with
  | sendDocument caption document => exact ⟨0, (Int.add_zero _).symm, rfl⟩
  | sendText text => exact ⟨0, (Int.add_zero _).symm, rfl⟩
  | pin id =>
      by_cases h : id < c.nextId
      · simp only [Channel.run, h, dif_pos]
        exact ⟨h, Or.inr ⟨0, rfl⟩⟩
      · simp only [Channel.run, h, dif_neg, not_false_eq_true]
        exact Or.inl rfl
  | getPinned => exact ⟨rfl, rfl⟩
  | getMessages ids => exact ⟨rfl, rfl⟩
  | download document => exact ⟨rfl, rfl⟩
  | iterMessages limit => exact ⟨rfl, rfl⟩
  | now => exact rfl

namespace Channel

/-- Messages and pins are only added, the messages under ids that were free. -/
structure Grows (c c' : Channel) : Prop where
  messages : ∃ more, c'.messages = c.messages ++ more ∧ ∀ m ∈ more, c.nextId ≤ m.id
  pins : ∃ more, c'.pins = more ++ c.pins
  nextId : c.nextId ≤ c'.nextId

namespace Grows

theorem refl (c : Channel) : Grows c c where
  messages := ⟨[], (List.append_nil _).symm, fun _ h => (by cases h)⟩
  pins := ⟨[], rfl⟩
  nextId := Int.le_refl _

theorem trans (c c' c'' : Channel) (h : Grows c c') (h' : Grows c' c'') : Grows c c'' where
  messages := by
    rcases h.messages with ⟨more, hm, hnew⟩
    rcases h'.messages with ⟨more', hm', hnew'⟩
    refine ⟨more ++ more', by rw [hm', hm, List.append_assoc], fun m hmem => ?_⟩
    rcases List.mem_append.mp hmem with hmem | hmem
    · exact hnew m hmem
    · exact Int.le_trans h.nextId (hnew' m hmem)
  pins := by
    rcases h.pins with ⟨more, hp⟩
    rcases h'.pins with ⟨more', hp'⟩
    exact ⟨more' ++ more, by rw [hp', hp, List.append_assoc]⟩
  nextId := Int.le_trans h.nextId h'.nextId

theorem post (c : Channel) (gap : Nat) (text : Text) (media : Option Bytes) :
    Grows c (c.post gap text media) where
  messages := by
    refine ⟨_, rfl, fun m hm => ?_⟩
    rw [List.mem_singleton.mp hm]
    change c.nextId ≤ c.nextId + gap
    omega
  pins := ⟨[], rfl⟩
  nextId := by
    change c.nextId ≤ c.nextId + gap + 1
    omega

theorem pin (c : Channel) (id : Int) (h : id < c.nextId) : Grows c (c.pin id h) where
  messages := ⟨[], (List.append_nil _).symm, fun _ h => (by cases h)⟩
  pins := ⟨[id], rfl⟩
  nextId := Int.le_refl _

/-- What is found stays found. -/
theorem find (c c' : Channel) (h : Grows c c') (id : Int) (m : Message)
    (hm : c.find id = some m) : c'.find id = some m := by
  rcases h.messages with ⟨more, hmore, _⟩
  rw [Channel.find, hmore, List.find?_append]
  change (c.find id).or _ = some m
  rw [hm, Option.some_or]

/-- Under an id that was not free nothing new is found. -/
theorem find_old (c c' : Channel) (h : Grows c c') (id : Int) (hid : id < c.nextId) :
    c'.find id = c.find id := by
  rcases h.messages with ⟨more, hmore, hnew⟩
  have hnone : more.find? (fun m => decide (m.id = id)) = none := by
    rw [List.find?_eq_none]
    intro m hm
    have hle := hnew m hm
    simp only [decide_eq_true_eq]
    omega
  rw [Channel.find, hmore, List.find?_append, hnone, Option.or_none, Channel.find]

/-- Pins that were there pin the same message, unless there are new ones. -/
theorem pinned (c c' : Channel) (h : Grows c c') (hpins : c'.pins = c.pins) :
    c'.pinned = c.pinned := by
  have hsame : ∀ pins : List Int, (∀ i ∈ pins, i < c.nextId) →
      pins.findSome? c'.find = pins.findSome? c.find := by
    intro pins hold
    induction pins with
    | nil => rfl
    | cons i pins ih =>
        rw [List.findSome?_cons, List.findSome?_cons,
          h.find_old c c' i (hold i List.mem_cons_self),
          ih fun j hj => hold j (List.mem_cons_of_mem i hj)]
  rw [Channel.pinned, hpins, hsame c.pins c.pinsBelow, Channel.pinned]

theorem document (c c' : Channel) (h : Grows c c') (id : Int) (b : Bytes)
    (hb : c.document id = some b) : c'.document id = some b := by
  rcases hm : c.find id with _ | m
  · rw [Channel.document, hm] at hb
    cases hb
  · rw [Channel.document, hm] at hb
    rw [Channel.document, h.find c c' id m hm]
    exact hb

end Grows

/-- A request that is carried out makes the channel grow. -/
theorem grows_done (e : TgOp) (c c' : Channel) (a : e.Resp) (h : e.Done c a c') :
    Grows c c' := by
  cases e with
  | sendDocument caption document =>
      rcases h with ⟨gap, _, rfl⟩
      exact Grows.post c gap _ _
  | sendText text =>
      rcases h with ⟨gap, _, rfl⟩
      exact Grows.post c gap _ _
  | pin id =>
      rcases h with ⟨hlt, rfl | ⟨gap, rfl⟩⟩
      · exact Grows.pin c id hlt
      · exact Grows.trans _ _ _ (Grows.pin c id hlt) (Grows.post _ gap _ _)
  | getPinned => exact h.2 ▸ Grows.refl c
  | getMessages ids => exact h.2 ▸ Grows.refl c
  | download document => exact h.2 ▸ Grows.refl c
  | iterMessages limit => exact h.2 ▸ Grows.refl c
  | now =>
      have heq : c' = c := h
      exact heq ▸ Grows.refl c

end Channel

/-- Whatever a client does, the channel grows. -/
theorem exec_grows {α : Type} (p : Prog tgSig α) (c c' : Channel) (o : Outcome α)
    (h : Exec Telegram p c o c') : c.Grows c' := by
  have hmaybe : ∀ e : TgOp, ∀ c c' : Channel, (c' = c ∨ ∃ a, e.Done c a c') → c.Grows c' := by
    intro e c c' hc
    rcases hc with rfl | ⟨a, ha⟩
    · exact Channel.Grows.refl _
    · exact Channel.grows_done e c c' a ha
  induction h with
  | pure a c => exact Channel.Grows.refl c
  | fail msg c => exact Channel.Grows.refl c
  | step e k c c1 c2 r o hstep _ ih =>
      refine Channel.Grows.trans _ _ _ ?_ ih
      cases r with
      | ok a => exact Channel.grows_done e c c1 a hstep
      | error msg => exact hmaybe e c c1 hstep
  | crash e k c c1 hcrash => exact hmaybe e c c1 hcrash

namespace Channel

theorem nodup_ids (c : Channel) : (c.messages.map (fun m => m.id)).Nodup := by
  rw [List.Nodup, List.pairwise_map]
  exact c.ordered.imp fun h => Int.ne_of_lt h

/-- A message is found under its id. -/
theorem find_mem (c : Channel) (m : Message) (h : m ∈ c.messages) : c.find m.id = some m := by
  rcases hf : c.find m.id with _ | m'
  · rw [Channel.find, List.find?_eq_none] at hf
    exact absurd (hf m h) (by simp only [decide_true, not_true_eq_false, not_false_eq_true])
  · have hid := List.find?_some hf
    simp only [decide_eq_true_eq] at hid
    rw [List.inj_on_of_nodup_map c.nodup_ids (List.mem_of_find?_eq_some hf) h hid]

/-- What is found under an id is a message with that id. -/
theorem mem_of_find (c : Channel) (id : Int) (m : Message) (h : c.find id = some m) :
    m ∈ c.messages ∧ m.id = id := by
  have hid := List.find?_some h
  simp only [decide_eq_true_eq] at hid
  exact ⟨List.mem_of_find?_eq_some h, hid⟩

/-- A message just sent is found. -/
theorem find_post (c : Channel) (gap : Nat) (text : Text) (media : Option Bytes) :
    (c.post gap text media).find (c.nextId + gap)
      = some { id := c.nextId + gap, text := text, media := media } :=
  (c.post gap text media).find_mem { id := c.nextId + gap, text := text, media := media }
    (List.mem_append_right _ List.mem_cons_self)

/-- Asking for one message. -/
theorem lookup_single (c : Channel) (id : Int) : c.lookup [] [id] = [c.find id] := by
  simp only [lookup, List.not_mem_nil, if_false]

/-- What a lookup finds is what is there. -/
theorem lookup_found (c : Channel) (ids seen : List Int) :
    List.Forall₂ (fun id m => ∀ x, m = some x → c.find id = some x) ids (c.lookup seen ids) := by
  induction ids generalizing seen with
  | nil => exact .nil
  | cons id rest ih =>
      rw [lookup]
      refine .cons (fun x hx => ?_) (ih _)
      by_cases hseen : id ∈ seen
      · rw [if_pos hseen] at hx
        cases hx
      · rwa [if_neg hseen] at hx

/-- A lookup of different ids finds each. -/
theorem lookup_nodup (c : Channel) (ids seen : List Int) (h : (seen ++ ids).Nodup) :
    c.lookup seen ids = ids.map c.find := by
  induction ids generalizing seen with
  | nil => rfl
  | cons id rest ih =>
      have hnot : id ∉ seen := by
        intro hin
        exact (List.nodup_append.mp h).2.2 id hin id List.mem_cons_self rfl
      have hrest : ((id :: seen) ++ rest).Nodup :=
        (List.perm_middle.nodup_iff).mp h
      rw [lookup, if_neg hnot, ih _ hrest, List.map_cons]

end Channel

end TgDrive
