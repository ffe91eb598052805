import TgDrive.Data.Span
import TgDrive.Effect.Meets
import TgDrive.Nbd.Transmission

/-!
# A Connection to a Flat Array

What the server does for a client when the device behind it is a flat array
and anything may fail. The stream may end or break at any byte, in both
directions, a call to the device may fail, and the process may die in the
middle of an operation; a write that is interrupted leaves some of its objects
old and some of them new.

The client may send any bytes. Whatever comes of the connection, the bytes it
took off the stream are whole requests, but for the last: all of them were
answered as the array has it, and of the last one either nothing went back, or
a part of the reply did and then its effect is there. `Served` says this, and
it is kept from one request to the next.

## Main definitions

* `Stream`, `StreamEnv`: The stream of a connection.
* `FlatEnv`: The stream together with a flat array.
* `SentRequest.after`, `SentRequest.answer`: A request to a flat array.
* `replies`, `arrayAfterAll`: A list of them.
* `Served`, `Finished`: What a connection came to.

## Theorems

* `wp_readRequest`: Reading a header off any stream.
* `wp_serveRequest`: Serving one request.
* `wp_transmission`: Serving all of them.
-/

namespace TgDrive

open Data Effect

/-- The stream of a connection: what the client sends from here on, and what
    was sent to it. -/
structure Stream where
  input : Bytes
  output : Bytes

inductive StreamOp : Type
  | readExact (n : Nat)
  | writeAll (bytes : Bytes)
  | flushStream

abbrev StreamOp.Resp : StreamOp → Type
  | .readExact _ => Bytes
  | _ => Unit

abbrev streamSig : Signature := { Op := StreamOp, Resp := StreamOp.Resp }

/-- A stream that may break at any byte. Only a stream that is at its end says
    so, and what was being written may have gone out in part. -/
def StreamEnv : Env streamSig Stream where
  step
    | .readExact n, s, r, s' =>
        (n ≤ s.input.length ∧ r = .ok (s.input.take n) ∧
          s' = { s with input := s.input.drop n }) ∨
        ∃ msg k, r = .error msg ∧ (msg = unexpectedEof → s.input.length < n) ∧
          s' = { s with input := s.input.drop k }
    | .writeAll bytes, s, r, s' =>
        (r = .ok () ∧ s' = { s with output := s.output ++ bytes }) ∨
        ∃ msg k, r = .error msg ∧ s' = { s with output := s.output ++ bytes.take k }
    | .flushStream, s, _, s' => s' = s
  crash
    | .readExact _, s, s' => ∃ k, s' = { s with input := s.input.drop k }
    | .writeAll bytes, s, s' => ∃ k, s' = { s with output := s.output ++ bytes.take k }
    | .flushStream, s, s' => s' = s

/-- A flat array behind a stream, cut into objects of a size. A call may fail,
    and a write that does not end leaves each object old or new. -/
def FlatEnv (size : Nat) : Env nbdSig (Stream × (Nat → UInt8)) where
  step
    | .readExact n, s, r, s' => StreamEnv.step (.readExact n) s.1 r s'.1 ∧ s'.2 = s.2
    | .writeAll bytes, s, r, s' => StreamEnv.step (.writeAll bytes) s.1 r s'.1 ∧ s'.2 = s.2
    | .flushStream, s, r, s' => StreamEnv.step .flushStream s.1 r s'.1 ∧ s'.2 = s.2
    | .readAt offset len, s, r, s' => (∀ b, r = .ok b → b = span s.2 offset len) ∧ s' = s
    | .writeAt offset bytes, s, r, s' =>
        (r = .ok () → s'.2 = splice s.2 offset bytes) ∧
        Mixed size s.2 (splice s.2 offset bytes) s'.2 ∧ s'.1 = s.1
    | .flush, s, _, s' => s' = s
  crash
    | .readExact n, s, s' => StreamEnv.crash (.readExact n) s.1 s'.1 ∧ s'.2 = s.2
    | .writeAll bytes, s, s' => StreamEnv.crash (.writeAll bytes) s.1 s'.1 ∧ s'.2 = s.2
    | .flushStream, s, s' => StreamEnv.crash .flushStream s.1 s'.1 ∧ s'.2 = s.2
    | .readAt _ _, s, s' => s' = s
    | .writeAt offset bytes, s, s' =>
        Mixed size s.2 (splice s.2 offset bytes) s'.2 ∧ s'.1 = s.1
    | .flush, s, s' => s' = s

/-- The header of a request, as a client sends it. -/
structure SentHeader where
  flags : Nat
  command : Nat
  handle : Nat
  offset : Nat
  length : Nat
  flags_lt : flags < 256 ^ 2
  command_lt : command < 256 ^ 2
  handle_lt : handle < 256 ^ 8
  offset_lt : offset < 256 ^ 8
  length_lt : length < 256 ^ 4

namespace SentHeader

/-- How many bytes follow a header. -/
def follows (h : SentHeader) : Nat := if h.command = cmdWrite then h.length else 0

/-- A header with the bytes that follow it. -/
def sent (h : SentHeader) (payload : Bytes) (hp : payload.length = h.follows) : SentRequest where
  flags := h.flags
  command := h.command
  handle := h.handle
  offset := h.offset
  length := h.length
  payload := payload
  flags_lt := h.flags_lt
  command_lt := h.command_lt
  handle_lt := h.handle_lt
  offset_lt := h.offset_lt
  length_lt := h.length_lt
  framed := hp

def encode (h : SentHeader) : Bytes :=
  toBe 4 reqMagic ++ (toBe 2 h.flags ++ (toBe 2 h.command ++ (toBe 8 h.handle ++
    (toBe 8 h.offset ++ toBe 4 h.length))))

def request (h : SentHeader) : NbdRequest :=
  { command := h.command, handle := h.handle, offset := h.offset, length := h.length }

theorem encode_sent (h : SentHeader) (payload : Bytes) (hp : payload.length = h.follows) :
    (h.sent payload hp).encode = h.encode ++ payload := rfl

end SentHeader

namespace SentRequest

variable (options : NbdServerOptions)

/-- What a request that was served makes of the array. -/
def after (r : SentRequest) (a : Nat → UInt8) : Nat → UInt8 :=
  if r.command = cmdWrite ∧ r.InBounds options then splice a r.offset r.payload else a

/-- What goes back for a request: its reply, with the bytes of the array that
    it asks for. Nothing goes back when the client takes its leave. -/
def answer (r : SentRequest) (a : Nat → UInt8) : Bytes :=
  if r.command = cmdDisc then [] else r.reply options (fun _ => span a) []

end SentRequest

section Spec

variable (options : NbdServerOptions)

/-- The array after a list of requests. -/
def arrayAfterAll : List SentRequest → (Nat → UInt8) → (Nat → UInt8)
  | [], a => a
  | r :: rest, a => arrayAfterAll rest (r.after options a)

/-- What goes back for a list of requests, one after the other. -/
def replies : List SentRequest → (Nat → UInt8) → Bytes
  | [], _ => []
  | r :: rest, a => r.answer options a ++ replies rest (r.after options a)

/-- What a connection came to, with objects of a size: some of the bytes that
    were sent are requests that were served, and perhaps a last one was begun.
    Of that one either nothing went back, or its effect is there. -/
inductive Served (size : Nat) (input : Bytes) (a : Nat → UInt8) :
    Bytes → (Nat → UInt8) → Prop
  | between (reqs : List SentRequest) (rest : Bytes)
      (hin : input = reqs.flatMap SentRequest.encode ++ rest) (hlast : untilDisc reqs = reqs) :
      Served size input a (replies options reqs a) (arrayAfterAll options reqs a)
  | working (reqs : List SentRequest) (r : SentRequest) (rest : Bytes) (c : Nat → UInt8)
      (hin : input = reqs.flatMap SentRequest.encode ++ (r.encode ++ rest))
      (hlast : ∀ q ∈ reqs, q.command ≠ cmdDisc)
      (hmixed : Mixed size (arrayAfterAll options reqs a)
        (r.after options (arrayAfterAll options reqs a)) c) :
      Served size input a (replies options reqs a) c
  | replying (reqs : List SentRequest) (r : SentRequest) (rest front : Bytes)
      (hin : input = reqs.flatMap SentRequest.encode ++ (r.encode ++ rest))
      (hlast : ∀ q ∈ reqs, q.command ≠ cmdDisc)
      (hfront : front <+: r.answer options (arrayAfterAll options reqs a)) :
      Served size input a (replies options reqs a ++ front)
        (r.after options (arrayAfterAll options reqs a))

/-- A connection that ended without an error has served every request of its
    stream: the last of them ended it, or less than a header is left. -/
def Finished (input : Bytes) (a : Nat → UInt8) (output : Bytes) (c : Nat → UInt8) : Prop :=
  ∃ reqs rest, input = reqs.flatMap SentRequest.encode ++ rest ∧
    output = replies options reqs a ∧ c = arrayAfterAll options reqs a ∧
    ((∃ r, reqs.getLast? = some r ∧ r.command = cmdDisc) ∨ rest.length < 28)

variable {options} {size : Nat} {input : Bytes} {a : Nat → UInt8}

/-- Nothing was served yet. -/
theorem Served.none : Served options size input a [] a :=
  .between [] input rfl rfl

/-- A request before those that were served. -/
theorem Served.cons (r : SentRequest) (hdisc : r.command ≠ cmdDisc) (out : Bytes)
    (c : Nat → UInt8) (h : Served options size input (r.after options a) out c) :
    Served options size (r.encode ++ input) a (r.answer options a ++ out) c := by
  have hall : ∀ reqs : List SentRequest, (∀ q ∈ reqs, q.command ≠ cmdDisc) →
      ∀ q ∈ r :: reqs, q.command ≠ cmdDisc := by
    intro reqs hreqs q hq
    rcases List.mem_cons.mp hq with hq | hq
    · rwa [hq]
    · exact hreqs q hq
  cases h with
  | between reqs rest hin hlast =>
      refine .between (r :: reqs) rest ?_ ?_
      · rw [hin, List.flatMap_cons, List.append_assoc]
      · rw [untilDisc, if_neg hdisc, hlast]
  | working reqs q rest c hin hlast hmixed =>
      refine .working (r :: reqs) q rest c ?_ (hall reqs hlast) hmixed
      rw [hin, List.flatMap_cons, List.append_assoc]
  | replying reqs q rest front hin hlast hfront =>
      rw [← List.append_assoc]
      refine .replying (r :: reqs) q rest front ?_ (hall reqs hlast) hfront
      rw [hin, List.flatMap_cons, List.append_assoc]

theorem Finished.cons (r : SentRequest) (out : Bytes) (c : Nat → UInt8)
    (h : Finished options input (r.after options a) out c) :
    Finished options (r.encode ++ input) a (r.answer options a ++ out) c := by
  rcases h with ⟨reqs, rest, hin, hout, hc, hend⟩
  refine ⟨r :: reqs, rest, ?_, ?_, hc, ?_⟩
  · rw [hin, List.flatMap_cons, List.append_assoc]
  · rw [hout, replies]
  · rcases hend with ⟨q, hq, hdisc⟩ | hshort
    · exact Or.inl ⟨q, by rw [List.getLast?_cons, hq, Option.getD_some], hdisc⟩
    · exact Or.inr hshort

end Spec

section Rules

variable {α : Type} {size : Nat} {f : Bytes → Prog nbdSig α} {g : Unit → Prog nbdSig α}
  {Q : Except String α → Stream × (Nat → UInt8) → Prop} {C : Stream × (Nat → UInt8) → Prop}
  {input output : Bytes} {a : Nat → UInt8}

/-- The rule for reading so many bytes: they are there, or the stream broke or
    is at its end. -/
theorem wp_readExact (n : Nat)
    (hok : ∀ front rest, front.length = n → input = front ++ rest →
      wp (FlatEnv size) (f front) Q C (⟨rest, output⟩, a))
    (herr : ∀ msg rest, (msg = unexpectedEof → input.length < n) →
      Q (.error msg) (⟨rest, output⟩, a))
    (hcrash : ∀ rest, C (⟨rest, output⟩, a)) :
    wp (FlatEnv size) (nbd (.readExact n) >>= f) Q C (⟨input, output⟩, a) := by
  refine (wp_perform_bind (S := nbdSig) (E := FlatEnv size) (NbdOp.readExact n) f Q C _).mpr
    ⟨fun b s' hstep => ?_, fun msg s' hstep => ?_, fun s' hc => ?_⟩
  · rcases s' with ⟨s1, c⟩
    rcases hstep with ⟨⟨hle, hr, hs⟩ | ⟨msg, k, hr, _⟩, hc⟩
    · have hc' : c = a := hc
      have hs' : s1 = ⟨input.drop n, output⟩ := hs
      rw [hc', hs', Except.ok.inj hr]
      exact hok _ _ (List.length_take_of_le hle) (List.take_append_drop n input).symm
    · exact absurd hr (by simp only [reduceCtorEq, not_false_eq_true])
  · rcases s' with ⟨s1, c⟩
    rcases hstep with ⟨⟨_, hr, _⟩ | ⟨msg', k, hr, heof, hs⟩, hc⟩
    · exact absurd hr (by simp only [reduceCtorEq, not_false_eq_true])
    · have hc' : c = a := hc
      have hs' : s1 = ⟨input.drop k, output⟩ := hs
      rw [hc', hs', Except.error.inj hr]
      exact herr _ _ heof
  · rcases s' with ⟨s1, c⟩
    rcases hc with ⟨⟨k, hs⟩, hc⟩
    have hc' : c = a := hc
    have hs' : s1 = ⟨input.drop k, output⟩ := hs
    rw [hc', hs']
    exact hcrash _

/-- The rule for writing bytes: all of them go out, or some of them and no
    more follows. -/
theorem wp_writeAll (bytes : Bytes)
    (hok : wp (FlatEnv size) (g ()) Q C (⟨input, output ++ bytes⟩, a))
    (hpart : ∀ front, front <+: bytes → (∀ msg, Q (.error msg) (⟨input, output ++ front⟩, a)) ∧
      C (⟨input, output ++ front⟩, a)) :
    wp (FlatEnv size) (nbd (.writeAll bytes) >>= g) Q C (⟨input, output⟩, a) := by
  refine (wp_perform_bind (S := nbdSig) (E := FlatEnv size) (NbdOp.writeAll bytes) g Q C _).mpr
    ⟨fun u s' hstep => ?_, fun msg s' hstep => ?_, fun s' hc => ?_⟩
  · rcases s' with ⟨s1, c⟩
    rcases hstep with ⟨⟨_, hs⟩ | ⟨msg, k, hr, _⟩, hc⟩
    · have hc' : c = a := hc
      have hs' : s1 = ⟨input, output ++ bytes⟩ := hs
      rw [hc', hs']
      exact hok
    · exact absurd hr (by simp only [reduceCtorEq, not_false_eq_true])
  · rcases s' with ⟨s1, c⟩
    rcases hstep with ⟨⟨hr, _⟩ | ⟨msg', k, hr, hs⟩, hc⟩
    · exact absurd hr (by simp only [reduceCtorEq, not_false_eq_true])
    · have hc' : c = a := hc
      have hs' : s1 = ⟨input, output ++ bytes.take k⟩ := hs
      rw [hc', hs']
      exact (hpart _ (List.take_prefix k bytes)).1 msg
  · rcases s' with ⟨s1, c⟩
    rcases hc with ⟨⟨k, hs⟩, hc⟩
    have hc' : c = a := hc
    have hs' : s1 = ⟨input, output ++ bytes.take k⟩ := hs
    rw [hc', hs']
    exact (hpart _ (List.take_prefix k bytes)).2

/-- The rule for flushing the stream, which changes nothing. -/
theorem wp_flushStream (hok : wp (FlatEnv size) (g ()) Q C (⟨input, output⟩, a))
    (herr : ∀ msg, Q (.error msg) (⟨input, output⟩, a)) (hcrash : C (⟨input, output⟩, a)) :
    wp (FlatEnv size) (nbd .flushStream >>= g) Q C (⟨input, output⟩, a) := by
  refine (wp_perform_bind (S := nbdSig) (E := FlatEnv size) NbdOp.flushStream g Q C _).mpr
    ⟨fun u s' hstep => ?_, fun msg s' hstep => ?_, fun s' hc => ?_⟩
  · rw [Prod.ext hstep.1 hstep.2]
    exact hok
  · rw [Prod.ext hstep.1 hstep.2]
    exact herr msg
  · rw [Prod.ext hc.1 hc.2]
    exact hcrash

/-- The rule for a read of the array. -/
theorem wp_flatRead (offset len : Nat)
    (hok : wp (FlatEnv size) (f (span a offset len)) Q C (⟨input, output⟩, a))
    (herr : ∀ msg, Q (.error msg) (⟨input, output⟩, a)) (hcrash : C (⟨input, output⟩, a)) :
    wp (FlatEnv size) (nbd (.readAt offset len) >>= f) Q C (⟨input, output⟩, a) := by
  refine (wp_perform_bind (S := nbdSig) (E := FlatEnv size) (NbdOp.readAt offset len) f Q C _).mpr
    ⟨fun b s' hstep => ?_, fun msg s' hstep => ?_, fun s' hc => ?_⟩
  · have hs' : s' = (⟨input, output⟩, a) := hstep.2
    rw [hs', hstep.1 b rfl]
    exact hok
  · have hs' : s' = (⟨input, output⟩, a) := hstep.2
    rw [hs']
    exact herr msg
  · have hs' : s' = (⟨input, output⟩, a) := hc
    rw [hs']
    exact hcrash

/-- The rule for a write to the array. -/
theorem wp_flatWrite (offset : Nat) (bytes : Bytes)
    (hok : wp (FlatEnv size) (g ()) Q C (⟨input, output⟩, splice a offset bytes))
    (hstop : ∀ c, Mixed size a (splice a offset bytes) c →
      (∀ msg, Q (.error msg) (⟨input, output⟩, c)) ∧ C (⟨input, output⟩, c)) :
    wp (FlatEnv size) (nbd (.writeAt offset bytes) >>= g) Q C (⟨input, output⟩, a) := by
  refine (wp_perform_bind (S := nbdSig) (E := FlatEnv size) (NbdOp.writeAt offset bytes) g Q C
    _).mpr ⟨fun u s' hstep => ?_, fun msg s' hstep => ?_, fun s' hc => ?_⟩
  · rcases s' with ⟨s1, c⟩
    rcases hstep with ⟨hwhole, _, hs⟩
    have hs' : s1 = ⟨input, output⟩ := hs
    have hc' : c = splice a offset bytes := hwhole rfl
    rw [hs', hc']
    exact hok
  · rcases s' with ⟨s1, c⟩
    rcases hstep with ⟨_, hmixed, hs⟩
    have hs' : s1 = ⟨input, output⟩ := hs
    rw [hs']
    exact (hstop c hmixed).1 msg
  · rcases s' with ⟨s1, c⟩
    rcases hc with ⟨hmixed, hs⟩
    have hs' : s1 = ⟨input, output⟩ := hs
    rw [hs']
    exact (hstop c hmixed).2

/-- The rule for a flush of the array, which changes nothing. -/
theorem wp_flatFlush (hok : wp (FlatEnv size) (g ()) Q C (⟨input, output⟩, a))
    (herr : ∀ msg, Q (.error msg) (⟨input, output⟩, a)) (hcrash : C (⟨input, output⟩, a)) :
    wp (FlatEnv size) (nbd .flush >>= g) Q C (⟨input, output⟩, a) := by
  refine (wp_perform_bind (S := nbdSig) (E := FlatEnv size) NbdOp.flush g Q C _).mpr
    ⟨fun u s' hstep => ?_, fun msg s' hstep => ?_, fun s' hc => ?_⟩
  · have hs' : s' = (⟨input, output⟩, a) := hstep
    rw [hs']
    exact hok
  · have hs' : s' = (⟨input, output⟩, a) := hstep
    rw [hs']
    exact herr msg
  · have hs' : s' = (⟨input, output⟩, a) := hc
    rw [hs']
    exact hcrash

/-- The rule for reading an integer. -/
theorem wp_readInt {f : Nat → Prog nbdSig α} (n : Nat)
    (hok : ∀ v rest, v < 256 ^ n → input = toBe n v ++ rest →
      wp (FlatEnv size) (f v) Q C (⟨rest, output⟩, a))
    (herr : ∀ msg rest, (msg = unexpectedEof → input.length < n) →
      Q (.error msg) (⟨rest, output⟩, a))
    (hcrash : ∀ rest, C (⟨rest, output⟩, a)) :
    wp (FlatEnv size) (readInt n >>= f) Q C (⟨input, output⟩, a) := by
  unfold readInt
  rw [bind_assoc]
  refine wp_readExact n (fun front rest hlen hin => ?_) herr hcrash
  refine hok _ rest ?_ ?_
  · have hlt := fromBe_lt front
    rwa [hlen] at hlt
  · rw [hin, ← hlen, toBe_fromBe]

/-- Reading a header: what it took is a header, or the stream broke or ended
    before one was there. -/
theorem wp_readRequest {f : Except String NbdRequest → Prog nbdSig α}
    (hok : ∀ (h : SentHeader) rest, input = h.encode ++ rest →
      wp (FlatEnv size) (f (.ok h.request)) Q C (⟨rest, output⟩, a))
    (herr : ∀ msg rest, (msg = unexpectedEof → input.length < 28) →
      wp (FlatEnv size) (f (.error msg)) Q C (⟨rest, output⟩, a))
    (hcrash : ∀ rest, C (⟨rest, output⟩, a)) :
    wp (FlatEnv size) (NbdRequest.read.attempt >>= f) Q C (⟨input, output⟩, a) := by
  rw [wp_bind, wp_attempt]
  unfold NbdRequest.read
  have hshort : ∀ (n k : Nat) (front rest : Bytes), front.length = k → input = front ++ rest →
      n + k ≤ 28 → ∀ msg rest', (msg = unexpectedEof → rest.length < n) →
      wp (FlatEnv size) (f (.error msg)) Q C (⟨rest', output⟩, a) := by
    intro n k front rest hlen hin hle msg rest' heof
    refine herr msg rest' fun hmsg => ?_
    have hlt := heof hmsg
    rw [hin, List.length_append]
    omega
  refine wp_readInt 4 (fun magic rest1 hmagic h1 => ?_)
    (hshort 4 0 [] input rfl rfl (by omega)) hcrash
  refine wp_ensure_bind _ _ _ _ _ _ (fun hm => ?_) (fun _ => herr _ _ fun hmsg => ?_)
  · have hm' : magic = reqMagic := of_decide_eq_true hm
    rw [hm'] at h1
    -- Each field that is there moves the point where the stream may end.
    refine wp_readInt 2 (fun flags rest2 hflags h2 => ?_)
      (hshort 2 4 _ rest1 (length_toBe 4 _) h1 (by omega)) hcrash
    rw [h2, ← List.append_assoc] at h1
    refine wp_readInt 2 (fun command rest3 hcommand h3 => ?_)
      (hshort 2 6 _ rest2 (by simp only [List.length_append, length_toBe]) h1 (by omega)) hcrash
    rw [h3, ← List.append_assoc] at h1
    refine wp_readInt 8 (fun handle rest4 hhandle h4 => ?_)
      (hshort 8 8 _ rest3 (by simp only [List.length_append, length_toBe]) h1 (by omega)) hcrash
    rw [h4, ← List.append_assoc] at h1
    refine wp_readInt 8 (fun offset rest5 hoffset h5 => ?_)
      (hshort 8 16 _ rest4 (by simp only [List.length_append, length_toBe]) h1 (by omega)) hcrash
    rw [h5, ← List.append_assoc] at h1
    refine wp_readInt 4 (fun length rest6 hlength h6 => ?_)
      (hshort 4 24 _ rest5 (by simp only [List.length_append, length_toBe]) h1 (by omega)) hcrash
    rw [h6, ← List.append_assoc] at h1
    refine hok {
      flags := flags
      command := command
      handle := handle
      offset := offset
      length := length
      flags_lt := hflags
      command_lt := hcommand
      handle_lt := hhandle
      offset_lt := hoffset
      length_lt := hlength } rest6 ?_
    rw [h1, SentHeader.encode]
    simp only [List.append_assoc]
  · exact absurd hmsg (by decide)

/-- The rule for the header of a reply. -/
theorem wp_writeReply (error handle : Nat)
    (hok : wp (FlatEnv size) (g ()) Q C
      (⟨input, output ++ (toBe 4 repMagic ++ toBe 4 error ++ toBe 8 handle)⟩, a))
    (hpart : ∀ front, front <+: toBe 4 repMagic ++ toBe 4 error ++ toBe 8 handle →
      (∀ msg, Q (.error msg) (⟨input, output ++ front⟩, a)) ∧ C (⟨input, output ++ front⟩, a)) :
    wp (FlatEnv size) (writeReply error handle >>= g) Q C (⟨input, output⟩, a) := by
  unfold writeReply writeInt
  simp only [bind_assoc]
  refine wp_writeAll (toBe 4 repMagic) (wp_writeAll (toBe 4 error) (wp_writeAll (toBe 8 handle)
    ?_ fun front hfront => ?_) fun front hfront => ?_) fun front hfront => ?_
  · simp only [List.append_assoc] at hok ⊢
    exact hok
  · rw [List.append_assoc, List.append_assoc]
    refine hpart _ ?_
    rw [List.append_assoc]
    exact (List.prefix_append_right_inj _).mpr ((List.prefix_append_right_inj _).mpr hfront)
  · rw [List.append_assoc]
    refine hpart _ ?_
    rw [List.append_assoc]
    exact (List.prefix_append_right_inj _).mpr (hfront.trans (List.prefix_append _ _))
  · refine hpart _ ?_
    rw [List.append_assoc]
    exact hfront.trans (List.prefix_append _ _)

/-- A payload is read to its end and forgotten. -/
theorem wp_discardPayload (rounds n : Nat) (hrounds : n ≤ rounds)
    (hok : ∀ payload rest, payload.length = n → input = payload ++ rest →
      wp (FlatEnv size) (g ()) Q C (⟨rest, output⟩, a))
    (herr : ∀ msg rest, Q (.error msg) (⟨rest, output⟩, a))
    (hcrash : ∀ rest, C (⟨rest, output⟩, a)) :
    wp (FlatEnv size) (discardPayload rounds n >>= g) Q C (⟨input, output⟩, a) := by
  induction rounds generalizing n input with
  | zero =>
      rw [Nat.le_zero.mp hrounds] at hok ⊢
      exact hok [] input rfl rfl
  | succ rounds ih =>
      cases n with
      | zero => exact hok [] input rfl rfl
      | succ n =>
          unfold discardPayload
          simp only [bind_assoc]
          refine wp_readExact _ (fun front rest hlen hin => ?_) (fun msg rest _ => herr msg rest)
            hcrash
          refine ih _ (by omega) fun payload rest' hpayload hrest => ?_
          refine hok (front ++ payload) rest' ?_ ?_
          · rw [List.length_append, hlen, hpayload]
            omega
          · rw [hin, hrest, List.append_assoc]

end Rules

section Serve

variable (options : NbdServerOptions) {size : Nat}

/-- What a request came to that did not end: it is not all there, or nothing
    went back for it, or some of its reply did and its effect is there. -/
inductive Stopped (size : Nat) (h : SentHeader) (input output : Bytes) (a : Nat → UInt8) :
    Stream × (Nat → UInt8) → Prop
  | early (rest : Bytes) : Stopped size h input output a (⟨rest, output⟩, a)
  | working (payload rest : Bytes) (hp : payload.length = h.follows) (c : Nat → UInt8)
      (hin : input = payload ++ rest)
      (hmixed : Mixed size a ((h.sent payload hp).after options a) c) :
      Stopped size h input output a (⟨rest, output⟩, c)
  | replying (payload rest front : Bytes) (hp : payload.length = h.follows)
      (hin : input = payload ++ rest) (hfront : front <+: (h.sent payload hp).answer options a) :
      Stopped size h input output a
        (⟨rest, output ++ front⟩, (h.sent payload hp).after options a)

/-- How serving a request ends: it is answered and done, or it stopped. -/
def RequestServed (size : Nat) (h : SentHeader) (input output : Bytes) (a : Nat → UInt8)
    (res : Except String Bool) (s : Stream × (Nat → UInt8)) : Prop :=
  match res with
  | .ok done => ∃ payload rest, ∃ hp : payload.length = h.follows, input = payload ++ rest ∧
      s = (⟨rest, output ++ (h.sent payload hp).answer options a⟩,
        (h.sent payload hp).after options a) ∧ (done = true ↔ h.command = cmdDisc)
  | .error _ => Stopped options size h input output a s

variable {options}

/-- The answer to a request that does not end the connection. -/
theorem SentRequest.answer_of (r : SentRequest) (hdisc : r.command ≠ cmdDisc)
    (a : Nat → UInt8) : r.answer options a = toBe 4 repMagic ++ toBe 4 (r.error options) ++
      toBe 8 r.handle ++ r.data options (fun _ => span a) [] := by
  rw [SentRequest.answer, if_neg hdisc]
  rfl

section Reply

variable {input output : Bytes} {a c : Nat → UInt8} (h : SentHeader) (payload rest : Bytes)
  (hp : payload.length = h.follows) (hin : input = payload ++ rest) (hdisc : h.command ≠ cmdDisc)
  (hc : (h.sent payload hp).after options a = c)

include hin hdisc hc

/-- The header of a reply, once the effect of the request is there. -/
theorem wp_reply (error : Nat) (herror : (h.sent payload hp).error options = error)
    (g : Unit → Prog nbdSig Bool)
    (hg : wp (FlatEnv size) (g ()) (RequestServed options size h input output a)
      (Stopped options size h input output a)
      (⟨rest, output ++ (toBe 4 repMagic ++ toBe 4 error ++ toBe 8 h.handle)⟩, c)) :
    wp (FlatEnv size) (writeReply error h.handle >>= g)
      (RequestServed options size h input output a)
      (Stopped options size h input output a) (⟨rest, output⟩, c) := by
  refine wp_writeReply error h.handle hg fun front hfront => ?_
  have hans : front <+: (h.sent payload hp).answer options a := by
    rw [SentRequest.answer_of _ hdisc, herror]
    exact hfront.trans (List.prefix_append _ _)
  rw [← hc]
  exact ⟨fun _ => .replying payload rest front hp hin hans,
    .replying payload rest front hp hin hans⟩

/-- The end of a request whose whole answer was written. -/
theorem wp_replied (sent : Bytes) (hsent : (h.sent payload hp).answer options a = sent) :
    wp (FlatEnv size) (nbd .flushStream >>= fun _ => pure false)
      (RequestServed options size h input output a) (Stopped options size h input output a)
      (⟨rest, output ++ sent⟩, c) := by
  rw [← hsent, ← hc]
  refine wp_flushStream ?_ (fun _ => ?_) ?_
  · exact ⟨payload, rest, hp, hin, rfl, fun hd => absurd hd Bool.false_ne_true,
      fun hd => absurd hd hdisc⟩
  · exact .replying payload rest _ hp hin (List.prefix_refl _)
  · exact .replying payload rest _ hp hin (List.prefix_refl _)

/-- A reply without data, sent at once. -/
theorem wp_answered (error : Nat) (herror : (h.sent payload hp).error options = error)
    (hdata : (h.sent payload hp).data options (fun _ => span a) [] = []) :
    wp (FlatEnv size) (writeReply error h.handle >>= fun _ => nbd .flushStream >>= fun _ =>
        pure false)
      (RequestServed options size h input output a) (Stopped options size h input output a)
      (⟨rest, output⟩, c) := by
  refine wp_reply h payload rest hp hin hdisc hc error herror _ ?_
  refine wp_replied h payload rest hp hin hdisc hc _ ?_
  rw [SentRequest.answer_of _ hdisc, hdata, herror, List.append_nil]
  rfl

/-- A reply without data, kept in the stream's buffer. -/
theorem wp_answered_unsent (error : Nat) (herror : (h.sent payload hp).error options = error)
    (hdata : (h.sent payload hp).data options (fun _ => span a) [] = []) :
    wp (FlatEnv size) (writeReply error h.handle >>= fun _ => pure false)
      (RequestServed options size h input output a) (Stopped options size h input output a)
      (⟨rest, output⟩, c) := by
  refine wp_reply h payload rest hp hin hdisc hc error herror _ ?_
  refine ⟨payload, rest, hp, hin, ?_, fun hd => absurd hd Bool.false_ne_true,
    fun hd => absurd hd hdisc⟩
  rw [SentRequest.answer_of _ hdisc, hdata, herror, List.append_nil, hc]
  rfl

end Reply

section Commands

variable {input output : Bytes} {a : Nat → UInt8} (h : SentHeader)

/-- A header of anything but a write stands alone. -/
theorem SentHeader.follows_none (hwrite : h.command ≠ cmdWrite) :
    ([] : Bytes).length = h.follows := by
  rw [SentHeader.follows, if_neg hwrite]
  rfl

/-- A request that is no write inside the device leaves the array alone. -/
theorem SentHeader.after_kept (payload : Bytes) (hp : payload.length = h.follows)
    (hnot : ¬(h.command = cmdWrite ∧ (h.sent payload hp).InBounds options)) :
    (h.sent payload hp).after options a = a := if_neg hnot

/-- Only a read inside the device gets data. -/
theorem SentHeader.data_none (payload : Bytes) (hp : payload.length = h.follows)
    (hnot : ¬(h.command = cmdRead ∧ (h.sent payload hp).InBounds options)) :
    (h.sent payload hp).data options (fun _ => span a) [] = [] := if_neg hnot

/-- Serving a read. -/
theorem wp_serveRead (hread : h.command = cmdRead) :
    wp (FlatEnv size) (serveRequest options h.request) (RequestServed options size h input output a)
      (Stopped options size h input output a) (⟨input, output⟩, a) := by
  have hdisc : h.command ≠ cmdDisc := by rw [hread]; decide
  have hwrite : h.command ≠ cmdWrite := by rw [hread]; decide
  have hp := h.follows_none hwrite
  have hc : (h.sent [] hp).after options a = a := h.after_kept [] hp fun hw => hwrite hw.1
  have hnil : input = [] ++ input := rfl
  unfold serveRequest
  rw [if_pos (show h.request.command = cmdRead from hread),
    show boundsOk options.deviceSize h.request.offset h.request.length
      = decide ((h.sent [] hp).InBounds options) from boundsOk_iff options (h.sent [] hp)]
  by_cases hin : (h.sent [] hp).InBounds options
  · have herror : (h.sent [] hp).error options = 0 :=
      (if_pos (Or.inl hread)).trans (if_pos hin)
    have hans : (h.sent [] hp).answer options a = (toBe 4 repMagic ++ toBe 4 0 ++
        toBe 8 h.handle) ++ span a h.offset h.length := by
      rw [SentRequest.answer_of _ hdisc, herror]
      exact congrArg _ (if_pos ⟨hread, hin⟩)
    rw [decide_eq_true hin, Bool.not_true, if_neg Bool.false_ne_true]
    refine wp_flatRead h.offset h.length ?_ (fun _ => .early input) (.early input)
    refine wp_reply h [] input hp hnil hdisc hc 0 herror _ ?_
    refine wp_writeAll _ ?_ fun front hfront => ?_
    · rw [List.append_assoc]
      exact wp_replied h [] input hp hnil hdisc hc _ hans
    · have hpre : (toBe 4 repMagic ++ toBe 4 0 ++ toBe 8 h.handle) ++ front <+:
          (h.sent [] hp).answer options a := by
        rw [hans]
        exact (List.prefix_append_right_inj _).mpr hfront
      have hstop : Stopped options size h input output a _ := .replying [] input _ hp hnil hpre
      rw [hc] at hstop
      rw [List.append_assoc]
      exact ⟨fun _ => hstop, hstop⟩
  · rw [decide_eq_false hin, Bool.not_false, if_pos rfl]
    exact wp_answered_unsent h [] input hp hnil hdisc hc errInvalid
      ((if_pos (Or.inl hread)).trans (if_neg hin)) (h.data_none [] hp fun hr => hin hr.2)

/-- Serving a write, whose payload is read whether it is wanted or not. -/
theorem wp_serveWrite (hwrite : h.command = cmdWrite) :
    wp (FlatEnv size) (serveRequest options h.request) (RequestServed options size h input output a)
      (Stopped options size h input output a) (⟨input, output⟩, a) := by
  have hdisc : h.command ≠ cmdDisc := by rw [hwrite]; decide
  have hread : h.command ≠ cmdRead := by rw [hwrite]; decide
  have hfollows : h.follows = h.length := if_pos hwrite
  have hp0 : (List.replicate h.follows (0 : UInt8)).length = h.follows := List.length_replicate
  unfold serveRequest
  rw [if_neg (show ¬h.request.command = cmdRead from hread),
    if_pos (show h.request.command = cmdWrite from hwrite),
    show boundsOk options.deviceSize h.request.offset h.request.length
      = decide ((h.sent _ hp0).InBounds options) from boundsOk_iff options (h.sent _ hp0)]
  by_cases hin : (h.sent _ hp0).InBounds options
  · rw [decide_eq_true hin, Bool.not_true, if_neg Bool.false_ne_true]
    refine wp_readExact h.length (fun payload rest hlen hpay => ?_)
      (fun _ rest _ => .early rest) .early
    have hp : payload.length = h.follows := hlen.trans hfollows.symm
    have hc : (h.sent payload hp).after options a = splice a h.offset payload :=
      if_pos ⟨hwrite, hin⟩
    refine wp_flatWrite h.offset payload ?_ fun c hmixed => ?_
    · exact wp_answered h payload rest hp hpay hdisc hc 0
        ((if_pos (Or.inr hwrite)).trans (if_pos hin)) (h.data_none payload hp fun hr => hread hr.1)
    · rw [← hc] at hmixed
      exact ⟨fun _ => .working payload rest hp c hpay hmixed,
        .working payload rest hp c hpay hmixed⟩
  · rw [decide_eq_false hin, Bool.not_false, if_pos rfl]
    refine wp_discardPayload h.length h.length (Nat.le_refl _) (fun payload rest hlen hpay => ?_)
      (fun _ rest => .early rest) .early
    have hp : payload.length = h.follows := hlen.trans hfollows.symm
    exact wp_answered_unsent h payload rest hp hpay hdisc
      (h.after_kept payload hp fun hw => hin hw.2) errInvalid
      ((if_pos (Or.inr hwrite)).trans (if_neg hin)) (h.data_none payload hp fun hr => hread hr.1)

/-- Serving a request to a flat array. -/
theorem wp_serveRequest :
    wp (FlatEnv size) (serveRequest options h.request) (RequestServed options size h input output a)
      (Stopped options size h input output a) (⟨input, output⟩, a) := by
  by_cases hread : h.command = cmdRead
  · exact wp_serveRead h hread
  by_cases hwrite : h.command = cmdWrite
  · exact wp_serveWrite h hwrite
  have hp := h.follows_none hwrite
  have hc : (h.sent [] hp).after options a = a := h.after_kept [] hp fun hw => hwrite hw.1
  have hnil : input = [] ++ input := rfl
  have hdata : (h.sent [] hp).data options (fun _ => span a) [] = [] :=
    h.data_none [] hp fun hr => hread hr.1
  have hnot : ¬(h.command = cmdRead ∨ h.command = cmdWrite) := by
    rintro (hr | hw)
    · exact hread hr
    · exact hwrite hw
  unfold serveRequest
  rw [if_neg (show ¬h.request.command = cmdRead from hread),
    if_neg (show ¬h.request.command = cmdWrite from hwrite)]
  by_cases hflush : h.command = cmdFlush
  · have hdisc : h.command ≠ cmdDisc := by rw [hflush]; decide
    rw [if_pos (show h.request.command = cmdFlush from hflush)]
    refine wp_flatFlush ?_ (fun _ => .early input) (.early input)
    exact wp_answered h [] input hp hnil hdisc hc 0 ((if_neg hnot).trans (if_pos hflush)) hdata
  rw [if_neg (show ¬h.request.command = cmdFlush from hflush)]
  by_cases hdisc : h.command = cmdDisc
  · -- The device is flushed, and nothing goes back.
    rw [if_pos (show h.request.command = cmdDisc from hdisc)]
    refine wp_flatFlush ?_ (fun _ => .early input) (.early input)
    have hans : (h.sent [] hp).answer options a = [] := if_pos hdisc
    refine ⟨[], input, hp, hnil, ?_, fun _ => hdisc, fun _ => rfl⟩
    rw [hans, List.append_nil, hc]
  · have herror : (h.sent [] hp).error options = errUnsupported :=
      (if_neg hnot).trans (if_neg hflush)
    rw [if_neg (show ¬h.request.command = cmdDisc from hdisc)]
    by_cases htrim : h.request.command = cmdTrim ∨ h.request.command = cmdWriteZeroes
    · rw [if_pos htrim]
      exact wp_answered h [] input hp hnil hdisc hc errUnsupported herror hdata
    · rw [if_neg htrim]
      exact wp_answered h [] input hp hnil hdisc hc errUnsupported herror hdata

end Commands

/-- A request that stopped is the last one that was begun. -/
theorem Stopped.served (h : SentHeader) (input output : Bytes) (a : Nat → UInt8)
    (s : Stream × (Nat → UInt8)) (hs : Stopped options size h input output a s) :
    ∃ out, s.1.output = output ++ out ∧ Served options size (h.encode ++ input) a out s.2 := by
  cases hs with
  | early rest => exact ⟨[], (List.append_nil output).symm, Served.none⟩
  | working payload rest hp c hin hmixed =>
      refine ⟨[], (List.append_nil output).symm, ?_⟩
      refine Served.working [] (h.sent payload hp) rest c ?_ (fun q hq => ?_) hmixed
      · rw [hin, h.encode_sent, List.append_assoc]
        rfl
      · exact absurd hq List.not_mem_nil
  | replying payload rest front hp hin hfront =>
      refine ⟨front, rfl, ?_⟩
      refine Served.replying [] (h.sent payload hp) rest front ?_ (fun q hq => ?_) hfront
      · rw [hin, h.encode_sent, List.append_assoc]
        rfl
      · exact absurd hq List.not_mem_nil

/-- The requests of a client, whatever bytes it sends and whatever fails. -/
theorem wp_transmission (rounds : Nat) : ∀ (input output : Bytes) (a : Nat → UInt8),
    wp (FlatEnv size) (transmission options rounds)
      (fun res s => ∃ out, s.1.output = output ++ out ∧ Served options size input a out s.2 ∧
        (res = .ok () → Finished options input a out s.2))
      (fun s => ∃ out, s.1.output = output ++ out ∧ Served options size input a out s.2)
      (⟨input, output⟩, a) := by
  induction rounds with
  | zero =>
      intro input output a
      exact ⟨[], (List.append_nil output).symm, Served.none, fun hc => by cases hc⟩
  | succ rounds ih =>
      intro input output a
      have hnone : ∀ rest, ∃ out, (⟨rest, output⟩ : Stream).output = output ++ out ∧
          Served options size input a out a :=
        fun _ => ⟨[], (List.append_nil output).symm, Served.none⟩
      unfold transmission
      refine wp_readRequest (fun h rest hin => ?_) (fun msg rest heof => ?_) hnone
      · rw [hin]
        refine wp_seq _ _ _ _ _ _ _ (wp_serveRequest h) (fun done s hs => ?_)
          (fun msg s hs => ?_) (fun s hs => hs.served h rest output a s)
        · rcases hs with ⟨payload, rest', hp, hrest, rfl, hdone⟩
          have hencode : h.encode ++ rest = (h.sent payload hp).encode ++ rest' := by
            rw [hrest, h.encode_sent, List.append_assoc]
          rw [hencode]
          by_cases hd : done = true
          · -- The client took its leave.
            have hlast : untilDisc [h.sent payload hp] = [h.sent payload hp] := by
              rw [untilDisc, if_pos (show (h.sent payload hp).command = cmdDisc from hdone.mp hd)]
            have hone : [h.sent payload hp].flatMap SentRequest.encode ++ rest'
                = (h.sent payload hp).encode ++ rest' := by
              rw [List.flatMap_singleton]
            rw [if_pos hd]
            refine ⟨_, rfl, ?_, fun _ => ?_⟩
            · have hserved : Served options size _ a _ _ :=
                .between [h.sent payload hp] rest' hone.symm hlast
              rw [replies, replies, List.append_nil] at hserved
              exact hserved
            · refine ⟨[h.sent payload hp], rest', hone.symm, ?_, rfl, Or.inl ⟨_, rfl, hdone.mp hd⟩⟩
              rw [replies, replies, List.append_nil]
          · have hdisc : (h.sent payload hp).command ≠ cmdDisc := fun hc => hd (hdone.mpr hc)
            rw [if_neg hd]
            refine wp_mono _ _ _ _ _ (fun res s hs => ?_) (fun s hs => ?_) _
              (ih rest' (output ++ (h.sent payload hp).answer options a)
                ((h.sent payload hp).after options a))
            · rcases hs with ⟨out, hout, hserved, hfin⟩
              refine ⟨_, ?_, hserved.cons _ hdisc, fun hr => (hfin hr).cons _⟩
              rw [hout, List.append_assoc]
            · rcases hs with ⟨out, hout, hserved⟩
              refine ⟨_, ?_, hserved.cons _ hdisc⟩
              rw [hout, List.append_assoc]
        · rcases hs.served h rest output a s with ⟨out, hout, hserved⟩
          exact ⟨out, hout, hserved, fun hc => by cases hc⟩
      · by_cases hmsg : msg = unexpectedEof
        · simp only [if_pos hmsg]
          refine ⟨[], (List.append_nil output).symm, Served.none, fun _ => ?_⟩
          exact ⟨[], input, rfl, rfl, rfl, Or.inr (heof hmsg)⟩
        · simp only [if_neg hmsg]
          exact ⟨[], (List.append_nil output).symm, Served.none, fun hc => by cases hc⟩

end Serve

end TgDrive
