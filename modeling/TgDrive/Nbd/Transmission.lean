import TgDrive.Nbd.Server

/-!
# The Transmission Phase

What the server does with a stream of requests, wherever the stream is cut.
`expect` says it for a list of requests: which calls reach the device and
which bytes go back. The server does exactly this for the requests that lie
wholly in what it was sent, so no byte of a payload is ever taken for part of
a header.

The proof goes through the requests one at a time. A header that is there is
read back as it was written; one that is cut off ends the connection; and
what is read after a header is what the command says and nothing else.

## Main definitions

* `SentRequest`: A request as a client frames it.
* `SentRequest.call`, `SentRequest.reply`: What it asks for and gets.
* `expect`: What a list of requests leads to.
* `complete`: The requests wholly in a prefix.

## Theorems

* `eval_readRequest`, `eval_readRequest_cut`: Reading a header.
* `eval_serveRequest`: Serving a request that is there.
* `eval_serveRequest_cut`: Serving a write whose payload is cut off.
* `transmission_exact`: The server does what is expected of it.
-/

namespace TgDrive

open Data Effect

/-- A request as a client sends it: the fields fit their widths, and a write
    is followed by as many bytes as it says. -/
structure SentRequest where
  flags : Nat
  command : Nat
  handle : Nat
  offset : Nat
  length : Nat
  payload : Bytes
  flags_lt : flags < 256 ^ 2
  command_lt : command < 256 ^ 2
  handle_lt : handle < 256 ^ 8
  offset_lt : offset < 256 ^ 8
  length_lt : length < 256 ^ 4
  framed : payload.length = if command = cmdWrite then length else 0

namespace SentRequest

variable (options : NbdServerOptions) (answer : List NbdCall → Nat → Nat → Bytes)

def header (r : SentRequest) : Bytes :=
  toBe 4 reqMagic ++ (toBe 2 r.flags ++ (toBe 2 r.command ++ (toBe 8 r.handle ++
    (toBe 8 r.offset ++ toBe 4 r.length))))

def encode (r : SentRequest) : Bytes := r.header ++ r.payload

/-- The request as the server reads it. -/
def request (r : SentRequest) : NbdRequest :=
  { command := r.command, handle := r.handle, offset := r.offset, length := r.length }

/-- Whether the range of a request is inside the device. -/
def InBounds (r : SentRequest) : Prop := r.offset + r.length ≤ options.deviceSize

instance (r : SentRequest) : Decidable (r.InBounds options) :=
  inferInstanceAs (Decidable (_ ≤ _))

/-- What a request asks of the device. -/
def call (r : SentRequest) : Option NbdCall :=
  if r.command = cmdRead then
    if r.InBounds options then some (.read r.offset r.length) else none
  else if r.command = cmdWrite then
    if r.InBounds options then some (.write r.offset r.payload) else none
  else if r.command = cmdFlush ∨ r.command = cmdDisc then some .flush
  else none

/-- The error in the reply to a request. -/
def error (r : SentRequest) : Nat :=
  if r.command = cmdRead ∨ r.command = cmdWrite then
    if r.InBounds options then 0 else errInvalid
  else if r.command = cmdFlush then 0
  else errUnsupported

/-- The data after the reply to a request. -/
def data (calls : List NbdCall) (r : SentRequest) : Bytes :=
  if r.command = cmdRead ∧ r.InBounds options then answer calls r.offset r.length else []

/-- The reply to a request, with the data after it. -/
def reply (calls : List NbdCall) (r : SentRequest) : Bytes :=
  toBe 4 repMagic ++ toBe 4 (r.error options) ++ toBe 8 r.handle ++ r.data options answer calls

theorem length_header (r : SentRequest) : r.header.length = 28 := by
  simp only [header, List.length_append, length_toBe]

theorem length_encode (r : SentRequest) : r.encode.length = 28 + r.payload.length := by
  rw [encode, List.length_append, length_header]

end SentRequest

section Spec

variable (options : NbdServerOptions) (answer : List NbdCall → Nat → Nat → Bytes)

/-- What a list of requests leads to, after some calls: the bytes that go
    back, and all calls. -/
def expect : List SentRequest → List NbdCall → Bytes × List NbdCall
  | [], calls => ([], calls)
  | r :: rest, calls =>
      if r.command = cmdDisc then ([], calls ++ [.flush])
      else
        let later := expect rest (calls ++ (r.call options).toList)
        (r.reply options answer calls ++ later.1, later.2)

/-- The requests up to the one that ends the connection. -/
def untilDisc : List SentRequest → List SentRequest
  | [] => []
  | r :: rest => if r.command = cmdDisc then [r] else r :: untilDisc rest

/-- The requests that lie wholly in the first `n` bytes of their stream. -/
def complete : Nat → List SentRequest → List SentRequest
  | _, [] => []
  | n, r :: rest =>
      if r.encode.length ≤ n then r :: complete (n - r.encode.length) rest else []

/-- All requests lie in the whole stream. -/
theorem complete_all (reqs : List SentRequest) (n : Nat)
    (h : (reqs.flatMap SentRequest.encode).length ≤ n) : complete n reqs = reqs := by
  induction reqs generalizing n with
  | nil => rfl
  | cons r rest ih =>
      rw [List.flatMap_cons, List.length_append] at h
      rw [complete, if_pos (by omega), ih _ (by omega)]

/-- The calls that are expected are those of the requests, in order. -/
theorem calls_expect (reqs : List SentRequest) (calls : List NbdCall) :
    (expect options answer reqs calls).2
      = calls ++ (untilDisc reqs).filterMap (SentRequest.call options) := by
  induction reqs generalizing calls with
  | nil => exact (List.append_nil calls).symm
  | cons r rest ih =>
      unfold expect untilDisc
      by_cases hdisc : r.command = cmdDisc
      · have hcall : r.call options = some .flush := by
          unfold SentRequest.call
          rw [hdisc]
          rfl
        rw [if_pos hdisc, if_pos hdisc, List.filterMap_cons, hcall]
        rfl
      · rw [if_neg hdisc, if_neg hdisc]
        simp only [ih, List.filterMap_cons]
        rcases r.call options with _ | call
        · simp only [Option.toList_none, List.append_nil]
        · simp only [Option.toList_some, List.append_assoc, List.singleton_append]

end Spec

section Eval

variable (answer : List NbdCall → Nat → Nat → Bytes) (s : Connection)

/-- Reading what is there. -/
theorem eval_readExact (a rest : Bytes) (n : Nat) (hn : a.length = n)
    (h : s.input = a ++ rest) :
    (nbd (.readExact n)).eval (nbdRun answer) s = (.ok a, { s with input := rest }) := by
  refine (Prog.eval_perform (S := nbdSig) (nbdRun answer) (.readExact n) s).trans ?_
  have hle : n ≤ s.input.length := by
    rw [h, List.length_append]
    omega
  rw [nbdRun, if_pos hle, h, ← hn, List.take_left, List.drop_left]

/-- Reading more than there is. -/
theorem eval_readExact_short (n : Nat) (h : s.input.length < n) :
    (nbd (.readExact n)).eval (nbdRun answer) s
      = (.error unexpectedEof, { s with input := [] }) := by
  refine (Prog.eval_perform (S := nbdSig) (nbdRun answer) (.readExact n) s).trans ?_
  rw [nbdRun, if_neg (by omega)]

/-- Reading an integer that was written. -/
theorem eval_readInt (n v : Nat) (rest : Bytes) (hv : v < 256 ^ n)
    (h : s.input = toBe n v ++ rest) :
    (readInt n).eval (nbdRun answer) s = (.ok v, { s with input := rest }) := by
  unfold readInt
  rw [Prog.eval_bind_ok _ _ _ _ _ _ (eval_readExact answer s (toBe n v) rest n
    (length_toBe n v) h), fromBe_toBe, Nat.mod_eq_of_lt hv]
  rfl

/-- Reading an integer that is cut off. -/
theorem eval_readInt_short (n : Nat) (h : s.input.length < n) :
    (readInt n).eval (nbdRun answer) s = (.error unexpectedEof, { s with input := [] }) := by
  unfold readInt
  rw [Prog.eval_bind_error _ _ _ _ _ _ (eval_readExact_short answer s n h)]

/-- Writing appends to the output. -/
theorem eval_writeAll (bytes : Bytes) :
    (nbd (.writeAll bytes)).eval (nbdRun answer) s
      = (.ok (), { s with output := s.output ++ bytes }) :=
  Prog.eval_perform (S := nbdSig) (nbdRun answer) (.writeAll bytes) s

theorem eval_writeAt (offset : Nat) (bytes : Bytes) :
    (nbd (.writeAt offset bytes)).eval (nbdRun answer) s
      = (.ok (), { s with calls := s.calls ++ [.write offset bytes] }) :=
  Prog.eval_perform (S := nbdSig) (nbdRun answer) (.writeAt offset bytes) s

theorem eval_writeReply (error handle : Nat) :
    (writeReply error handle).eval (nbdRun answer) s
      = (.ok (), { s with
          output := s.output ++ (toBe 4 repMagic ++ toBe 4 error ++ toBe 8 handle) }) := by
  unfold writeReply writeInt
  rw [Prog.eval_bind_ok _ _ _ _ _ _ (eval_writeAll answer s _),
    Prog.eval_bind_ok _ _ _ _ _ _ (eval_writeAll answer _ _), eval_writeAll]
  simp only [List.append_assoc]

/-- A header that is there is read. -/
theorem eval_readRequest (r : SentRequest) (rest : Bytes) (h : s.input = r.header ++ rest) :
    NbdRequest.read.eval (nbdRun answer) s = (.ok r.request, { s with input := rest }) := by
  unfold NbdRequest.read
  simp only [SentRequest.header, List.append_assoc] at h
  rw [Prog.eval_bind_ok _ _ _ _ _ _ (eval_readInt answer s 4 reqMagic _ (by decide) h),
    Prog.eval_bind_ok _ _ _ _ _ () (by rw [decide_eq_true rfl]; rfl),
    Prog.eval_bind_ok _ _ _ _ _ _ (eval_readInt answer _ 2 r.flags _ r.flags_lt rfl),
    Prog.eval_bind_ok _ _ _ _ _ _ (eval_readInt answer _ 2 r.command _ r.command_lt rfl),
    Prog.eval_bind_ok _ _ _ _ _ _ (eval_readInt answer _ 8 r.handle _ r.handle_lt rfl),
    Prog.eval_bind_ok _ _ _ _ _ _ (eval_readInt answer _ 8 r.offset _ r.offset_lt rfl),
    Prog.eval_bind_ok _ _ _ _ _ _ (eval_readInt answer _ 4 r.length _ r.length_lt rfl)]
  rfl

/-- Cutting a stream inside its first piece leaves less than the piece, and
    cutting it later leaves the piece. -/
theorem take_append_cases (a b : Bytes) (k : Nat) :
    ((a ++ b).take k).length < a.length ∨ (a ++ b).take k = a ++ b.take (k - a.length) := by
  by_cases hk : k < a.length
  · refine Or.inl ?_
    rw [List.length_take, List.length_append]
    omega
  · refine Or.inr ?_
    rw [List.take_append, List.take_of_length_le (by omega)]

/-- A header that is cut off is not read. -/
theorem eval_readRequest_cut (r : SentRequest) (k : Nat) (hk : k < 28)
    (h : s.input = r.header.take k) :
    NbdRequest.read.eval (nbdRun answer) s
      = (.error unexpectedEof, { s with input := [] }) := by
  unfold NbdRequest.read
  rw [SentRequest.header] at h
  -- The cut is inside one of the six fields.
  rcases take_append_cases (toBe 4 reqMagic) _ k with hcut | hthere
  · rw [← h, length_toBe] at hcut
    rw [Prog.eval_bind_error _ _ _ _ _ _ (eval_readInt_short answer s 4 hcut)]
  rw [hthere] at h
  rw [Prog.eval_bind_ok _ _ _ _ _ _ (eval_readInt answer s 4 reqMagic _ (by decide) h),
    Prog.eval_bind_ok _ _ _ _ _ () (by rw [decide_eq_true rfl]; rfl)]
  rw [length_toBe]
  rcases take_append_cases (toBe 2 r.flags) _ (k - 4) with hcut | hthere
  · rw [length_toBe] at hcut
    rw [Prog.eval_bind_error _ _ _ _ _ _ (eval_readInt_short answer _ 2 hcut)]
  rw [hthere, Prog.eval_bind_ok _ _ _ _ _ _ (eval_readInt answer _ 2 r.flags _ r.flags_lt rfl),
    length_toBe]
  rcases take_append_cases (toBe 2 r.command) _ (k - 4 - 2) with hcut | hthere
  · rw [length_toBe] at hcut
    rw [Prog.eval_bind_error _ _ _ _ _ _ (eval_readInt_short answer _ 2 hcut)]
  rw [hthere,
    Prog.eval_bind_ok _ _ _ _ _ _ (eval_readInt answer _ 2 r.command _ r.command_lt rfl),
    length_toBe]
  rcases take_append_cases (toBe 8 r.handle) _ (k - 4 - 2 - 2) with hcut | hthere
  · rw [length_toBe] at hcut
    rw [Prog.eval_bind_error _ _ _ _ _ _ (eval_readInt_short answer _ 8 hcut)]
  rw [hthere,
    Prog.eval_bind_ok _ _ _ _ _ _ (eval_readInt answer _ 8 r.handle _ r.handle_lt rfl),
    length_toBe]
  rcases take_append_cases (toBe 8 r.offset) (toBe 4 r.length) (k - 4 - 2 - 2 - 8) with
    hcut | hthere
  · rw [length_toBe] at hcut
    rw [Prog.eval_bind_error _ _ _ _ _ _ (eval_readInt_short answer _ 8 hcut)]
  rw [hthere,
    Prog.eval_bind_ok _ _ _ _ _ _ (eval_readInt answer _ 8 r.offset _ r.offset_lt rfl),
    length_toBe]
  rw [Prog.eval_bind_error _ _ _ _ _ _ (eval_readInt_short answer _ 4 (by
    rw [List.length_take, length_toBe]
    omega))]

/-- A payload that is there is discarded. -/
theorem eval_discardPayload (rounds n : Nat) (payload rest : Bytes) (hr : n ≤ rounds)
    (hn : payload.length = n) (h : s.input = payload ++ rest) :
    (discardPayload rounds n).eval (nbdRun answer) s = (.ok (), { s with input := rest }) := by
  induction rounds generalizing n payload s with
  | zero =>
      have hzero : n = 0 := Nat.le_zero.mp hr
      rw [hzero] at hn ⊢
      rw [List.length_eq_zero_iff.mp hn, List.nil_append] at h
      rw [← h]
      rfl
  | succ rounds ih =>
      cases n with
      | zero =>
          rw [List.length_eq_zero_iff.mp hn, List.nil_append] at h
          rw [← h]
          rfl
      | succ n =>
          unfold discardPayload
          have htake : (payload.take (min (n + 1) 8192)).length = min (n + 1) 8192 := by
            rw [List.length_take]
            omega
          have hsplit : s.input = payload.take (min (n + 1) 8192) ++
              (payload.drop (min (n + 1) 8192) ++ rest) := by
            rw [h, ← List.append_assoc, List.take_append_drop]
          rw [Prog.eval_bind_ok _ _ _ _ _ _ (eval_readExact answer s _ _ _ htake hsplit)]
          exact ih _ _ _ (by omega) (by rw [List.length_drop]; omega) rfl

/-- A payload that is cut off ends the connection. -/
theorem eval_discardPayload_cut (rounds n : Nat) (hr : n ≤ rounds) (h : s.input.length < n) :
    (discardPayload rounds n).eval (nbdRun answer) s
      = (.error unexpectedEof, { s with input := [] }) := by
  induction rounds generalizing n s with
  | zero => omega
  | succ rounds ih =>
      cases n with
      | zero => exact absurd h (Nat.not_lt_zero _)
      | succ n =>
          unfold discardPayload
          by_cases hshort : s.input.length < min (n + 1) 8192
          · rw [Prog.eval_bind_error _ _ _ _ _ _ (eval_readExact_short answer s _ hshort)]
          · have htake : (s.input.take (min (n + 1) 8192)).length = min (n + 1) 8192 := by
              rw [List.length_take]
              omega
            rw [Prog.eval_bind_ok _ _ _ _ _ _ (eval_readExact answer s _
              (s.input.drop (min (n + 1) 8192)) _ htake (List.take_append_drop _ _).symm)]
            exact ih _ _ (by omega) (by
              change (s.input.drop _).length < _
              rw [List.length_drop]
              omega)

variable (options : NbdServerOptions)

/-- The check of the server is whether the range is inside the device. -/
theorem boundsOk_iff (r : SentRequest) :
    boundsOk options.deviceSize r.offset r.length = decide (r.InBounds options) := by
  have hsize := options.deviceSize_lt
  unfold boundsOk
  by_cases hsum : r.offset + r.length < 2 ^ 64
  · rw [if_pos hsum]
    rfl
  · have hout : ¬r.InBounds options := by
      unfold SentRequest.InBounds
      omega
    rw [if_neg hsum, decide_eq_false hout]

/-- A request that is there is served: its call reaches the device, its reply
    goes back, and its payload is read. -/
theorem eval_serveRequest (r : SentRequest) (rest : Bytes) (h : s.input = r.payload ++ rest) :
    (serveRequest options r.request).eval (nbdRun answer) s
      = if r.command = cmdDisc then
          (.ok true, { s with input := rest, calls := s.calls ++ [.flush] })
        else (.ok false, {
          input := rest
          output := s.output ++ r.reply options answer s.calls
          calls := s.calls ++ (r.call options).toList }) := by
  -- A command other than a write is not followed by anything.
  have hplain : r.command ≠ cmdWrite → s.input = rest := by
    intro hne
    have hframed := r.framed
    rw [if_neg hne] at hframed
    rw [h, List.length_eq_zero_iff.mp hframed, List.nil_append]
  have hbounds := boundsOk_iff options r
  unfold serveRequest
  change (if r.command = cmdRead then _ else _ : Prog nbdSig Bool).eval _ _ = _
  by_cases hread : r.command = cmdRead
  · have hdisc : ¬r.command = cmdDisc := by rw [hread]; decide
    have hwrite : r.command ≠ cmdWrite := by rw [hread]; decide
    have hinput := hplain hwrite
    rw [if_pos hread, if_neg hdisc]
    simp only [SentRequest.request, hbounds]
    by_cases hin : r.InBounds options
    · rw [decide_eq_true hin, Bool.not_true, if_neg Bool.false_ne_true]
      have hreply : r.reply options answer s.calls = toBe 4 repMagic ++ toBe 4 0 ++
          toBe 8 r.handle ++ answer s.calls r.offset r.length := by
        rw [SentRequest.reply, SentRequest.error, if_pos (Or.inl hread), if_pos hin,
          SentRequest.data, if_pos ⟨hread, hin⟩]
      rw [Prog.eval_bind_ok _ _ _ s { s with calls := s.calls ++ [.read r.offset r.length] }
        (answer s.calls r.offset r.length) rfl,
        Prog.eval_bind_ok _ _ _ _ _ _ (eval_writeReply answer _ 0 r.handle),
        Prog.eval_bind_ok _ _ _ _ _ _ (eval_writeAll answer _ _)]
      rw [hreply, SentRequest.call, if_pos hread, if_pos hin, ← hinput]
      simp only [List.append_assoc]
      rfl
    · rw [decide_eq_false hin, Bool.not_false, if_pos rfl]
      have hreply : r.reply options answer s.calls = toBe 4 repMagic ++ toBe 4 errInvalid ++
          toBe 8 r.handle := by
        rw [SentRequest.reply, SentRequest.error, if_pos (Or.inl hread), if_neg hin,
          SentRequest.data, if_neg fun hc => hin hc.2, List.append_nil]
      rw [Prog.eval_bind_ok _ _ _ _ _ _ (eval_writeReply answer _ errInvalid r.handle), hreply,
        SentRequest.call, if_pos hread, if_neg hin, ← hinput, Option.toList_none,
        List.append_nil]
      rfl
  · rw [if_neg hread]
    change (if r.command = cmdWrite then _ else _ : Prog nbdSig Bool).eval _ _ = _
    by_cases hwrite : r.command = cmdWrite
    · have hdisc : ¬r.command = cmdDisc := by rw [hwrite]; decide
      have hframed := r.framed
      rw [if_pos hwrite] at hframed
      rw [if_pos hwrite, if_neg hdisc]
      simp only [SentRequest.request, hbounds]
      by_cases hin : r.InBounds options
      · rw [decide_eq_true hin, Bool.not_true, if_neg Bool.false_ne_true]
        have hreply : r.reply options answer s.calls = toBe 4 repMagic ++ toBe 4 0 ++
            toBe 8 r.handle := by
          rw [SentRequest.reply, SentRequest.error, if_pos (Or.inr hwrite), if_pos hin,
            SentRequest.data, if_neg fun hc => hread hc.1, List.append_nil]
        rw [Prog.eval_bind_ok _ _ _ _ _ _ (eval_readExact answer s r.payload rest _ hframed h),
          Prog.eval_bind_ok _ _ _ _ _ _ (eval_writeAt answer _ r.offset r.payload),
          Prog.eval_bind_ok _ _ _ _ _ _ (eval_writeReply answer _ 0 r.handle), hreply,
          SentRequest.call, if_neg hread, if_pos hwrite, if_pos hin]
        rfl
      · rw [decide_eq_false hin, Bool.not_false, if_pos rfl]
        have hreply : r.reply options answer s.calls = toBe 4 repMagic ++ toBe 4 errInvalid ++
            toBe 8 r.handle := by
          rw [SentRequest.reply, SentRequest.error, if_pos (Or.inr hwrite), if_neg hin,
            SentRequest.data, if_neg fun hc => hin hc.2, List.append_nil]
        -- The payload is read although it is not wanted.
        rw [Prog.eval_bind_ok _ _ _ _ _ _ (eval_discardPayload answer s r.length r.length
            r.payload rest (Nat.le_refl _) hframed h),
          Prog.eval_bind_ok _ _ _ _ _ _ (eval_writeReply answer _ errInvalid r.handle), hreply,
          SentRequest.call, if_neg hread, if_pos hwrite, if_neg hin, Option.toList_none,
          List.append_nil]
        rfl
    · have hinput := hplain hwrite
      have hdata : r.data options answer s.calls = [] := by
        rw [SentRequest.data, if_neg fun hc => hread hc.1]
      have hnot : ¬(r.command = cmdRead ∨ r.command = cmdWrite) := by
        rintro (hc | hc)
        · exact hread hc
        · exact hwrite hc
      rw [if_neg hwrite]
      change (if r.command = cmdFlush then _ else _ : Prog nbdSig Bool).eval _ _ = _
      by_cases hflush : r.command = cmdFlush
      · have hdisc : ¬r.command = cmdDisc := by rw [hflush]; decide
        rw [if_pos hflush, if_neg hdisc,
          Prog.eval_bind_ok _ _ _ s { s with calls := s.calls ++ [.flush] } () rfl,
          Prog.eval_bind_ok _ _ _ _ _ _ (eval_writeReply answer _ 0 r.request.handle),
          SentRequest.reply, SentRequest.error, if_neg hnot, if_pos hflush, hdata,
          List.append_nil, SentRequest.call, if_neg hread, if_neg hwrite,
          if_pos (Or.inl hflush), ← hinput]
        rfl
      · rw [if_neg hflush]
        change (if r.command = cmdDisc then _ else _ : Prog nbdSig Bool).eval _ _ = _
        by_cases hdisc : r.command = cmdDisc
        · rw [if_pos hdisc, if_pos hdisc, ← hinput]
          rfl
        · rw [if_neg hdisc, if_neg hdisc]
          -- Whatever else it is, it is not supported.
          have hother : ∀ p : Prog nbdSig Bool, (p = do
              writeReply errUnsupported r.request.handle
              nbd .flushStream
              pure false) → p.eval (nbdRun answer) s = (.ok false, {
                input := rest
                output := s.output ++ r.reply options answer s.calls
                calls := s.calls ++ (r.call options).toList }) := by
            intro p hp
            rw [hp, Prog.eval_bind_ok _ _ _ _ _ _ (eval_writeReply answer _ errUnsupported _),
              SentRequest.reply, SentRequest.error, if_neg hnot, if_neg hflush, hdata,
              List.append_nil, SentRequest.call, if_neg hread, if_neg hwrite,
              if_neg (by
                rintro (hc | hc)
                · exact hflush hc
                · exact hdisc hc), ← hinput, Option.toList_none, List.append_nil]
            rfl
          by_cases htrim : r.request.command = cmdTrim ∨ r.request.command = cmdWriteZeroes
          · rw [if_pos htrim]
            exact hother _ rfl
          · rw [if_neg htrim]
            exact hother _ rfl

/-- A write whose payload is cut off neither reaches the device nor gets a
    reply. -/
theorem eval_serveRequest_cut (r : SentRequest) (h : s.input.length < r.payload.length) :
    (serveRequest options r.request).eval (nbdRun answer) s
      = (.error unexpectedEof, { s with input := [] }) := by
  have hframed := r.framed
  have hwrite : r.command = cmdWrite := by
    by_cases hw : r.command = cmdWrite
    · exact hw
    · rw [if_neg hw] at hframed
      omega
  rw [if_pos hwrite] at hframed
  have hread : ¬r.request.command = cmdRead := by
    change ¬r.command = cmdRead
    rw [hwrite]
    decide
  unfold serveRequest
  rw [if_neg hread, if_pos (show r.request.command = cmdWrite from hwrite)]
  by_cases hin : boundsOk options.deviceSize r.request.offset r.request.length = true
  · rw [hin, Bool.not_true, if_neg Bool.false_ne_true,
      Prog.eval_bind_error _ _ _ _ _ _ (eval_readExact_short answer s _ (by
        change s.input.length < r.length
        omega))]
  · rw [Bool.eq_false_iff.mpr hin, Bool.not_false, if_pos rfl,
      Prog.eval_bind_error _ _ _ _ _ _ (eval_discardPayload_cut answer s _ _ (Nat.le_refl _) (by
        change s.input.length < r.length
        omega))]

/-- A header that is not there ends the connection. -/
theorem eval_transmission_end (rounds : Nat)
    (h : NbdRequest.read.eval (nbdRun answer) s = (.error unexpectedEof, { s with input := [] })) :
    (transmission options (rounds + 1)).eval (nbdRun answer) s
      = (.ok (), { s with input := [] }) := by
  unfold transmission
  rw [Prog.eval_bind_ok _ _ _ _ _ _ (by rw [Prog.eval_attempt, h])]
  simp only [if_true]
  rfl

/-- A header that is there is served. -/
theorem eval_transmission_next (rounds : Nat) (r : SentRequest) (rest : Bytes)
    (h : s.input = r.header ++ rest) :
    (transmission options (rounds + 1)).eval (nbdRun answer) s
      = (serveRequest options r.request >>= fun done =>
          if done then pure () else transmission options rounds).eval (nbdRun answer)
          { s with input := rest } := by
  rw [transmission,
    Prog.eval_bind_ok _ _ _ _ _ _ (by rw [Prog.eval_attempt, eval_readRequest answer s r _ h])]

/-- The server on the first bytes of a stream of requests, from any point of a
    connection. -/
theorem eval_transmission (reqs : List SentRequest) (rounds n : Nat)
    (hrounds : reqs.length < rounds)
    (h : s.input = (reqs.flatMap SentRequest.encode).take n) :
    let e := expect options answer (complete n reqs) s.calls
    let t := (transmission options rounds).eval (nbdRun answer) s
    t.2.output = s.output ++ e.1 ∧ t.2.calls = e.2 ∧
      ((reqs.flatMap SentRequest.encode).length ≤ n → t.1 = .ok ()) := by
  induction reqs generalizing rounds n s with
  | nil =>
      rcases rounds with _ | rounds
      · exact absurd hrounds (Nat.not_lt_zero _)
      · -- Nothing is left, so the connection ends.
        have hnil : s.input.length < 4 := by
          rw [h, List.flatMap_nil, List.take_nil]
          exact Nat.succ_pos 3
        have hread : NbdRequest.read.eval (nbdRun answer) s
            = (.error unexpectedEof, { s with input := [] }) := by
          unfold NbdRequest.read
          rw [Prog.eval_bind_error _ _ _ _ _ _ (eval_readInt_short answer s 4 hnil)]
        rw [eval_transmission_end answer s options rounds hread, complete, expect]
        simp only [List.append_nil, implies_true, and_self]
  | cons r rest ih =>
      rcases rounds with _ | rounds
      · exact absurd hrounds (Nat.not_lt_zero _)
      · rw [List.flatMap_cons, SentRequest.encode, List.append_assoc] at h
        have hlen := r.length_encode
        have hheader := r.length_header
        by_cases hcut : n < 28
        · -- The header is cut off.
          rw [List.take_append_of_le_length (by omega)] at h
          rw [eval_transmission_end answer s options rounds
            (eval_readRequest_cut answer s r n hcut h), complete, if_neg (by omega), expect]
          simp only [List.append_nil, implies_true, and_self]
        · rw [List.take_append, List.take_of_length_le (by omega), hheader] at h
          rw [eval_transmission_next answer s options rounds r _ h]
          by_cases hpay : n < r.encode.length
          · -- The payload is cut off.
            rw [List.take_append_of_le_length (by omega)]
            rw [Prog.eval_bind_error _ _ _ _ _ _ (eval_serveRequest_cut answer _ options r (by
              change (r.payload.take (n - 28)).length < r.payload.length
              rw [List.length_take]
              omega))]
            rw [complete, if_neg (by omega), expect]
            refine ⟨?_, rfl, fun hall => ?_⟩
            · simp only [List.append_nil]
            · rw [List.flatMap_cons, List.length_append] at hall
              omega
          · rw [List.take_append, List.take_of_length_le (by omega),
              show n - 28 - r.payload.length = n - r.encode.length by omega]
            rw [complete, if_pos (by omega)]
            generalize hlater : (rest.flatMap SentRequest.encode).take (n - r.encode.length) = later
            have hserve := eval_serveRequest answer { s with input := r.payload ++ later } options r
              later rfl
            by_cases hdisc : r.command = cmdDisc
            · rw [if_pos hdisc] at hserve
              rw [Prog.eval_bind_ok _ _ _ _ _ _ hserve, expect, if_pos hdisc]
              exact ⟨(List.append_nil _).symm, rfl, fun _ => rfl⟩
            · rw [if_neg hdisc] at hserve
              rw [Prog.eval_bind_ok _ _ _ _ _ _ hserve, expect, if_neg hdisc]
              have hrest := ih {
                input := later
                output := s.output ++ r.reply options answer s.calls
                calls := s.calls ++ (r.call options).toList } rounds (n - r.encode.length) (by
                  rw [List.length_cons] at hrounds
                  omega) hlater.symm
              rcases hrest with ⟨hout, hcalls, hok⟩
              refine ⟨?_, hcalls, fun hall => hok ?_⟩
              · rw [← List.append_assoc]
                exact hout
              · rw [List.flatMap_cons, List.length_append] at hall
                omega

end Eval

/-- On the first bytes of a stream of requests, for a device whose reads give
    as many bytes as they are asked for, the server calls the device as the
    requests say that lie wholly in these bytes, up to the first that ends the
    connection, and sends their replies back, a reply being followed by as
    many bytes as a read inside the device asks for and by none otherwise. -/
theorem transmission_exact (options : NbdServerOptions)
    (answer : List NbdCall → Nat → Nat → Bytes)
    (hanswer : ∀ calls offset len, (answer calls offset len).length = len)
    (reqs : List SentRequest) (rounds n : Nat) (hrounds : reqs.length < rounds) :
    let t := (transmission options rounds).eval (nbdRun answer)
      { input := (reqs.flatMap SentRequest.encode).take n, output := [], calls := [] }
    t.2.calls = (untilDisc (complete n reqs)).filterMap (SentRequest.call options) ∧
    t.2.output = (expect options answer (complete n reqs) []).1 ∧
    ((reqs.flatMap SentRequest.encode).length ≤ n → t.1 = .ok () ∧ complete n reqs = reqs) ∧
    ∀ (r : SentRequest) calls, (r.data options answer calls).length
      = if r.command = cmdRead ∧ r.InBounds options then r.length else 0 := by
  have hrun := eval_transmission answer
    { input := (reqs.flatMap SentRequest.encode).take n, output := [], calls := [] } options reqs
    rounds n hrounds rfl
  rcases hrun with ⟨hout, hcalls, hok⟩
  refine ⟨?_, ?_, fun hall => ⟨hok hall, complete_all reqs n hall⟩, fun r calls => ?_⟩
  · rw [hcalls, calls_expect, List.nil_append]
  · rw [hout, List.nil_append]
  · unfold SentRequest.data
    by_cases hin : r.command = cmdRead ∧ r.InBounds options
    · rw [if_pos hin, if_pos hin, hanswer]
    · rw [if_neg hin, if_neg hin]
      rfl

/-- A write and a read of one byte, cut off in the header of the read. -/
def smallRequests : List SentRequest :=
  [ { flags := 0, command := 1, handle := 5, offset := 2, length := 1, payload := [9]
      flags_lt := by decide, command_lt := by decide, handle_lt := by decide
      offset_lt := by decide, length_lt := by decide, framed := by decide }
  , { flags := 0, command := 0, handle := 6, offset := 2, length := 1, payload := []
      flags_lt := by decide, command_lt := by decide, handle_lt := by decide
      offset_lt := by decide, length_lt := by decide, framed := by decide } ]

theorem smallSize_lt : 8 < 2 ^ 64 := by
  decide

def smallOptions : NbdServerOptions :=
  { exportName := "tgdrive".toList, deviceSize := 8, deviceSize_lt := smallSize_lt }

theorem transmission_exact_small : ((transmission smallOptions 3).eval
    (nbdRun (fun _ _ len => List.replicate len 7))
    ({ input := (smallRequests.flatMap SentRequest.encode).take 40, output := [],
       calls := [] } : Connection)).2.calls = [.write 2 [9]] :=
  (transmission_exact smallOptions (fun _ _ len => List.replicate len 7)
    (fun _ _ _ => List.length_replicate) smallRequests 3 40 (by decide)).1.trans
    (by decide +kernel)

end TgDrive
