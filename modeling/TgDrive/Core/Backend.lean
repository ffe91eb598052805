import TgDrive.Core.Format
import TgDrive.Effect.Exec
import Mathlib.Logic.Function.Basic
import Mathlib.Logic.Relation

/-!
# Remote Backends

The two traits a block device talks to, as one signature of calls: sending an
object, fetching one or several, and committing a manifest. A backend is an
environment for these calls, so it may fail at each of them, and a crash may
strike in the middle.

`Returns` is all that is assumed of a backend anywhere in the core: there is a
reading `raw` of its state that says which bytes a message id stands for, what
was sent is what is read, what is fetched was there, and nothing that is there
changes.

## Main definitions

* `Call`: The calls of `RemoteBackend` and `ManifestCommitter`.
* `Backend`: An environment for the calls.
* `Returns`: A backend that returns the bytes it was sent.
* `Echoes`: References repeat what they were asked to refer to.
* `Called`: What calls out of a class can lead to.
* `Serves`: A backend that serves what it has.
* `MemoryBackend`: The backend that keeps objects in a table.

## Theorems

* `Returns.called_keeps`: What is there stays there over any calls.
* `MemoryBackend.returns`: The memory backend returns the bytes it was sent.
-/

namespace TgDrive

open Effect

inductive Call : Type
  | sendObject (objectId generation : Nat) (payload : Bytes) (sha256 : Text)
  | fetchObject (reference : RemoteObjectRef)
  | getMessagesById (ids : List Int)
  | commitManifest (manifest : Manifest) (deviceSize logicalSectorSize objectSize : Nat)

abbrev Call.Resp : Call → Type
  | .sendObject _ _ _ _ => RemoteObjectRef
  | .fetchObject _ => Bytes
  | .getMessagesById _ => List (Option Bytes)
  | .commitManifest _ _ _ _ => Unit

/-- The calls as operations of an environment. -/
abbrev remoteSig : Signature := { Op := Call, Resp := Call.Resp }

abbrev Backend (ρ : Type) := Env remoteSig ρ

variable {ρ : Type}

/-- A backend that returns the bytes it was sent, under a reading of its state
    that says which bytes a message id stands for. -/
structure Returns (B : Backend ρ) (raw : ρ → Int → Option Bytes) : Prop where
  sent : ∀ objectId generation payload sha (ref : RemoteObjectRef) s s',
    B.step (.sendObject objectId generation payload sha) s (.ok ref) s' →
    raw s' ref.messageId = some payload
  fetched : ∀ ref (b : Bytes) s s', B.step (.fetchObject ref) s (.ok b) s' →
    raw s ref.messageId = some b
  got : ∀ ids (out : List (Option Bytes)) s s', B.step (.getMessagesById ids) s (.ok out) s' →
    ∀ p ∈ ids.zip out, ∀ b, p.2 = some b → raw s p.1 = some b
  keeps : ∀ c s r s', B.step c s r s' → ∀ i b, raw s i = some b → raw s' i = some b
  crashKeeps : ∀ c s s', B.crash c s s' → ∀ i b, raw s i = some b → raw s' i = some b

/-- The references a backend hands out name the object, the generation and the
    checksum it was given. -/
def Echoes (B : Backend ρ) : Prop :=
  ∀ objectId generation payload sha (ref : RemoteObjectRef) s s',
    B.step (.sendObject objectId generation payload sha) s (.ok ref) s' →
    ref.objectId = objectId ∧ ref.generation = generation ∧ ref.sha256 = sha

/-- One call out of a class, whatever came of it. -/
def CallStep (B : Backend ρ) (p : Call → Prop) (s s' : ρ) : Prop :=
  ∃ c, p c ∧ ((∃ r, B.step c s r s') ∨ B.crash c s s')

/-- Any number of calls out of a class. -/
def Called (B : Backend ρ) (p : Call → Prop) : ρ → ρ → Prop :=
  Relation.ReflTransGen (CallStep B p)

theorem Called.of_step (B : Backend ρ) (p : Call → Prop) (c : Call) (hc : p c) (s s' : ρ)
    (r : Except String c.Resp) (h : B.step c s r s') : Called B p s s' :=
  Relation.ReflTransGen.single ⟨c, hc, Or.inl ⟨r, h⟩⟩

theorem Called.of_crash (B : Backend ρ) (p : Call → Prop) (c : Call) (hc : p c) (s s' : ρ)
    (h : B.crash c s s') : Called B p s s' :=
  Relation.ReflTransGen.single ⟨c, hc, Or.inr h⟩

theorem Called.mono (B : Backend ρ) (p q : Call → Prop) (hpq : ∀ c, p c → q c) (s s' : ρ)
    (h : Called B p s s') : Called B q s s' := by
  induction h with
  | refl => exact .refl
  | tail _ hstep ih =>
      rcases hstep with ⟨c, hc, hdo⟩
      exact .tail ih ⟨c, hpq c hc, hdo⟩

/-- What is there stays there, whatever is called. -/
theorem Returns.called_keeps (B : Backend ρ) (raw : ρ → Int → Option Bytes) (h : Returns B raw)
    (p : Call → Prop) (s s' : ρ) (hs : Called B p s s') (i : Int) (b : Bytes)
    (hi : raw s i = some b) : raw s' i = some b := by
  induction hs with
  | refl => exact hi
  | tail _ hstep ih =>
      rcases hstep with ⟨c, _, ⟨r, hr⟩ | hc⟩
      · exact h.keeps c _ r _ hr i b ih
      · exact h.crashKeeps c _ _ hc i b ih

/-- The calls that only read. -/
def Call.isRead : Call → Prop
  | .fetchObject _ => True
  | .getMessagesById _ => True
  | _ => False

/-- A backend that serves every object it has, to a reference that fits it. -/
def Serves [Sha256] (B : Backend ρ) (raw : ρ → Int → Option Bytes) : Prop :=
  ∀ (ref : RemoteObjectRef) s r s' b e, B.step (.fetchObject ref) s r s' →
    raw s ref.messageId = some b →
    ObjectEnvelope.decode b ref.objectId ref.generation = .ok e →
    sha256Hex b = ref.sha256 → ∃ b', r = .ok b'

/-- The backend that keeps its objects in a table. No message sits under an
    id that was not handed out yet. -/
structure MemoryBackend where
  chatId : Int
  nextMessageId : Int
  messages : Int → Option Bytes
  fresh : ∀ i, nextMessageId ≤ i → messages i = none

namespace MemoryBackend

def new (chatId : Int) : MemoryBackend :=
  { chatId := chatId
    nextMessageId := 1
    messages := fun _ => none
    fresh := fun _ _ => rfl }

/-- Add a message under the next id. -/
def insert (s : MemoryBackend) (payload : Bytes) : MemoryBackend where
  chatId := s.chatId
  nextMessageId := s.nextMessageId + 1
  messages := Function.update s.messages s.nextMessageId (some payload)
  fresh := by
    intro i hi
    rw [Function.update_of_ne (by omega)]
    exact s.fresh i (by omega)

/-- The answers of the memory backend. It is no committer. -/
def run : (c : Call) → MemoryBackend → Except String c.Resp × MemoryBackend
  | .sendObject objectId generation payload sha256, s =>
      (.ok {
        chatId := s.chatId
        messageId := s.nextMessageId
        objectId := objectId
        generation := generation
        sha256 := sha256 }, s.insert payload)
  | .fetchObject reference, s =>
      match s.messages reference.messageId with
      | some payload => (.ok payload, s)
      | none => (.error s!"message {reference.messageId} not found", s)
  | .getMessagesById ids, s => (.ok (ids.map s.messages), s)
  | .commitManifest _ _ _ _, s => (.error "the memory backend commits no manifest", s)

/-- The memory backend as an environment. -/
def backend : Backend MemoryBackend := Env.ofRun run

theorem insert_keeps (s : MemoryBackend) (payload : Bytes) (i : Int) (b : Bytes)
    (h : s.messages i = some b) : (s.insert payload).messages i = some b := by
  have hne : i ≠ s.nextMessageId := by
    intro hi
    rw [s.fresh i (by omega)] at h
    exact absurd h (by simp only [reduceCtorEq, not_false_eq_true])
  change Function.update s.messages s.nextMessageId (some payload) i = some b
  rw [Function.update_of_ne hne, h]

/-- A call either leaves the memory backend alone or adds a message to it. -/
theorem run_state (c : Call) (s : MemoryBackend) :
    (run c s).2 = s ∨ ∃ payload, (run c s).2 = s.insert payload := by
  cases c with
  | sendObject objectId generation payload sha256 => exact Or.inr ⟨payload, rfl⟩
  | fetchObject reference =>
      refine Or.inl ?_
      rcases hm : s.messages reference.messageId with _ | b
      · simp only [run, hm]
      · simp only [run, hm]
  | getMessagesById ids => exact Or.inl rfl
  | commitManifest m a b c => exact Or.inl rfl

/-- The memory backend returns the bytes it was sent. -/
theorem returns : Returns backend MemoryBackend.messages where
  sent := by
    intro objectId generation payload sha ref s s' hs
    have hrun : run (.sendObject objectId generation payload sha) s = (.ok ref, s') := hs
    simp only [run, Prod.mk.injEq, Except.ok.injEq] at hrun
    rw [← hrun.1, ← hrun.2]
    exact Function.update_self _ _ _
  fetched := by
    intro ref b s s' hs
    have hrun : run (.fetchObject ref) s = (.ok b, s') := hs
    rcases hm : s.messages ref.messageId with _ | b'
    · simp only [run, hm, Prod.mk.injEq, reduceCtorEq, false_and] at hrun
    · simp only [run, hm, Prod.mk.injEq, Except.ok.injEq] at hrun
      rw [hrun.1]
  got := by
    intro ids out s s' hs p hp b hb
    have hrun : run (.getMessagesById ids) s = (.ok out, s') := hs
    simp only [run, Prod.mk.injEq, Except.ok.injEq] at hrun
    rw [← hrun.1, List.zip_map_right] at hp
    rcases List.mem_map.mp hp with ⟨q, hq, rfl⟩
    rcases List.mem_iff_getElem.mp hq with ⟨n, hn, hqn⟩
    rw [List.getElem_zip] at hqn
    rw [← hqn] at hb ⊢
    exact hb
  keeps := by
    intro c s r s' hs i b hi
    have hrun : run c s = (r, s') := hs
    have hst := run_state c s
    rw [hrun] at hst
    rcases hst with heq | ⟨payload, heq⟩
    · rw [← hi, ← heq]
    · rw [← insert_keeps s payload i b hi, ← heq]
  crashKeeps := by
    intro c s s' hs
    exact False.elim hs

/-- The references of the memory backend repeat what they refer to. -/
theorem echoes : Echoes backend := by
  intro objectId generation payload sha ref s s' hs
  have hrun : run (.sendObject objectId generation payload sha) s = (.ok ref, s') := hs
  simp only [run, Prod.mk.injEq, Except.ok.injEq] at hrun
  rw [← hrun.1]
  exact ⟨rfl, rfl, rfl⟩

/-- The memory backend serves what it has. -/
theorem serves [Sha256] : Serves backend MemoryBackend.messages := by
  intro ref s r s' b e hs hraw _ _
  have hrun : run (.fetchObject ref) s = (r, s') := hs
  simp only [run, hraw, Prod.mk.injEq] at hrun
  exact ⟨b, hrun.1.symm⟩

end MemoryBackend

end TgDrive
