import TgDrive.Nbd.Transmission

/-!
# The Negotiation

A client of the fixed newstyle, and whether the server keeps in step with it.
The client knows the flags it sent and the options it sent after them. It
reads the replies to an option up to the one that ends them, and after the
name of an export what the flags say is there. The two are in step if the
client understands all that the server wrote and has nothing of it left, and
if the server, once it serves the export, has left exactly what the client
sent after the option that chose it.

The server is not always in step. It never answers an abort, and it pads the
answer to an export name whatever the flags say. Nothing else goes wrong.

## Main definitions

* `SentOption`: An option as a client frames it.
* `SentOption.Enters`, `SentOption.Ends`: What an option does to a negotiation.
* `reachedOptions`: The options up to the one that ends the negotiation.
* `clientNegotiate`: The client.
* `InStep`: Whether the two are in step.

## Theorems

* `eval_readOption`, `eval_readReplies`: Reading what the other side wrote.
* `eval_serveOption`: How an option is dealt with, on both sides.
* `eval_optionLoop`: The options of a negotiation, from any point on.
* `negotiation_in_step_iff`: When the two are in step.
* `negotiation_out_of_step`: A client that is left with padding.
-/

namespace TgDrive

open Data Effect

/-- An option as a client sends it: the fields fit their widths. -/
structure SentOption where
  number : Nat
  data : Bytes
  number_lt : number < 256 ^ 4
  length_lt : data.length < 256 ^ 4

/-- Whether a client that asks for an export by this name gets it. -/
def NbdServerOptions.names (options : NbdServerOptions) (requested : Text) : Bool :=
  requested.isEmpty || decide (requested = options.exportName)

namespace SentOption

variable (options : NbdServerOptions) (flags : Nat) (o : SentOption)

def encode : Bytes :=
  toBe 8 iHaveOpt ++ (toBe 4 o.number ++ (toBe 4 o.data.length ++ o.data))

/-- Whether an option chooses the export that is served. -/
def Enters : Prop :=
  (o.number = optExportName ∧ options.names (fromUtf8Lossy o.data) = true) ∨
  (o.number = optGo ∧ (parseGoExportName o.data).any options.names = true)

instance : Decidable (o.Enters options) := inferInstanceAs (Decidable (_ ∨ _))

/-- Whether an option ends the negotiation: it chooses the export, names
    another one without leave to ask again, or gives up. -/
def Ends : Prop := o.Enters options ∨ o.number = optExportName ∨ o.number = optAbort

instance : Decidable (o.Ends options) := inferInstanceAs (Decidable (_ ∨ _ ∨ _))

/-- An option to which the server does what a client expects: it is not an
    abort, and it does not get an export by its name without the padding. -/
def Fits : Prop :=
  o.number ≠ optAbort ∧
    (o.number = optExportName → o.Enters options → flags.testBit 1 = false)

instance : Decidable (o.Fits options flags) := inferInstanceAs (Decidable (_ ∧ _))

end SentOption

section Streams

variable (options : NbdServerOptions)

/-- The options up to the first that ends the negotiation. -/
def reachedOptions : List SentOption → List SentOption
  | [] => []
  | o :: later => if o.Ends options then [o] else o :: reachedOptions later

/-- What a client sends that has `tail` to say after the negotiation, from its
    first option on. While the negotiation lasts it says nothing else. -/
def optionStream (tail : Bytes) : List SentOption → Bytes
  | [] => []
  | o :: later =>
      o.encode ++ if o.Ends options then later.flatMap SentOption.encode ++ tail
        else optionStream tail later

/-- What is sent after the option that ends the negotiation. -/
def afterOptions (tail : Bytes) : List SentOption → Bytes
  | [] => []
  | o :: later =>
      if o.Ends options then later.flatMap SentOption.encode ++ tail
      else afterOptions tail later

end Streams

section Client

variable (options : NbdServerOptions) (flags : Nat)

/-- The lowest number of an error reply. -/
def optRepErrors : Nat := 2 ^ 31

/-- A client reads the replies to one of its options up to the last. -/
def readReplies (option : Nat) : Nat → Prog nbdSig Nat
  | 0 => .fail "out of rounds"
  | rounds + 1 => do
      let magic ← readInt 8
      Prog.ensure (magic = optionReplyMagic) "invalid reply magic"
      let number ← readInt 4
      Prog.ensure (number = option) "reply to another option"
      let reply ← readInt 4
      let length ← readInt 4
      let _ ← nbd (.readExact length)
      if reply = optRepAck ∨ optRepErrors ≤ reply then pure reply
      else readReplies option rounds

/-- A client reads what one of its options gets. The answer says whether the
    negotiation is over. After the name of an export that is not served the
    connection is closed without a word. -/
def clientOption (rounds : Nat) (o : SentOption) : Prog nbdSig Bool :=
  if o.number = optExportName then
    if o.Enters options then do
      let _ ← readInt 8
      let _ ← readInt 2
      let padding ← nbd (.readExact (if flags.testBit 1 then 0 else 124))
      Prog.ensure (padding.all (fun b => b = 0)) "padding is not zero"
      pure true
    else pure true
  else do
    let reply ← readReplies o.number rounds
    pure (decide (o.number = optAbort ∨ (o.number = optGo ∧ reply = optRepAck)))

/-- A client reads what its options get, one after the other. -/
def clientOptions (rounds : Nat) : List SentOption → Prog nbdSig Unit
  | [] => pure ()
  | o :: later => do
      let done ← clientOption options flags rounds o
      if done then pure () else clientOptions rounds later

def clientNegotiate (rounds : Nat) (opts : List SentOption) : Prog nbdSig Unit := do
  let magic ← readInt 8
  Prog.ensure (magic = nbdMagic) "invalid magic"
  let option ← readInt 8
  Prog.ensure (option = iHaveOpt) "not newstyle"
  let _ ← readInt 2
  clientOptions options flags rounds opts

/-- A client that sends these flags, these options and then `tail` is in step
    with the server: it reads all that the server writes, and the server
    goes on to serve requests exactly if an option chose the export, with the
    rest of what the client sent before it. -/
def InStep (answer : List NbdCall → Nat → Nat → Bytes) (opts : List SentOption) (tail : Bytes)
    (rounds : Nat) : Prop :=
  let server := (negotiate options rounds).eval (nbdRun answer)
    { input := toBe 4 flags ++ optionStream options tail opts, output := [], calls := [] }
  let client := (clientNegotiate options flags rounds opts).eval (nbdRun answer)
    { input := server.2.output, output := [], calls := [] }
  (client.1 = .ok () ∧ client.2.input = []) ∧
    (server.1 = .ok () ↔ ∃ o ∈ reachedOptions options opts, o.Enters options) ∧
    (server.1 = .ok () → server.2.input = afterOptions options tail opts)

end Client

section Eval

variable (answer : List NbdCall → Nat → Nat → Bytes) (s : Connection)
  (options : NbdServerOptions)

/-- An option that is there is read. -/
theorem eval_readOption (o : SentOption) (rest : Bytes) (h : s.input = o.encode ++ rest) :
    readOption.eval (nbdRun answer) s = (.ok (o.number, o.data), { s with input := rest }) := by
  unfold readOption
  simp only [SentOption.encode, List.append_assoc] at h
  rw [Prog.eval_bind_ok _ _ _ _ _ _ (eval_readInt answer s 8 iHaveOpt _ (by decide) h),
    Prog.eval_bind_ok _ _ _ _ _ () (by rw [decide_eq_true rfl]; rfl),
    Prog.eval_bind_ok _ _ _ _ _ _ (eval_readInt answer _ 4 o.number _ o.number_lt rfl),
    Prog.eval_bind_ok _ _ _ _ _ _ (eval_readInt answer _ 4 o.data.length _ o.length_lt rfl),
    Prog.eval_bind_ok _ _ _ _ _ _ (eval_readExact answer _ o.data rest _ rfl rfl)]
  rfl

/-- The bytes of one reply to an option. -/
def optionReply (option reply : Nat) (payload : Bytes) : Bytes :=
  toBe 8 optionReplyMagic ++ (toBe 4 option ++ (toBe 4 reply ++
    (toBe 4 payload.length ++ payload)))

theorem eval_writeOptionReply (option reply : Nat) (payload : Bytes) :
    (writeOptionReply option reply payload).eval (nbdRun answer) s
      = (.ok (), { s with output := s.output ++ optionReply option reply payload }) := by
  unfold writeOptionReply writeInt
  rw [Prog.eval_bind_ok _ _ _ _ _ _ (eval_writeAll answer s _),
    Prog.eval_bind_ok _ _ _ _ _ _ (eval_writeAll answer _ _),
    Prog.eval_bind_ok _ _ _ _ _ _ (eval_writeAll answer _ _),
    Prog.eval_bind_ok _ _ _ _ _ _ (eval_writeAll answer _ _), eval_writeAll]
  simp only [optionReply, List.append_assoc]

/-- A client reads a reply to its option, and is done if it is the last. -/
theorem eval_readReplies (rounds option reply : Nat) (payload rest : Bytes)
    (hoption : option < 256 ^ 4) (hreply : reply < 256 ^ 4) (hlen : payload.length < 256 ^ 4)
    (h : s.input = optionReply option reply payload ++ rest) :
    (readReplies option (rounds + 1)).eval (nbdRun answer) s
      = if reply = optRepAck ∨ optRepErrors ≤ reply then (.ok reply, { s with input := rest })
        else (readReplies option rounds).eval (nbdRun answer) { s with input := rest } := by
  simp only [optionReply, List.append_assoc] at h
  rw [readReplies]
  rw [Prog.eval_bind_ok _ _ _ _ _ _ (eval_readInt answer s 8 optionReplyMagic _ (by decide) h),
    Prog.eval_bind_ok _ _ _ _ _ () (by rw [decide_eq_true rfl]; rfl),
    Prog.eval_bind_ok _ _ _ _ _ _ (eval_readInt answer _ 4 option _ hoption rfl),
    Prog.eval_bind_ok _ _ _ _ _ () (by rw [decide_eq_true rfl]; rfl),
    Prog.eval_bind_ok _ _ _ _ _ _ (eval_readInt answer _ 4 reply _ hreply rfl),
    Prog.eval_bind_ok _ _ _ _ _ _ (eval_readInt answer _ 4 payload.length _ hlen rfl),
    Prog.eval_bind_ok _ _ _ _ _ _ (eval_readExact answer _ payload rest _ rfl rfl)]
  by_cases hlast : reply = optRepAck ∨ optRepErrors ≤ reply
  · rw [if_pos hlast, if_pos hlast]
    rfl
  · rw [if_neg hlast, if_neg hlast]

/-- A client that waits for a reply finds nothing. -/
theorem eval_readReplies_nil (rounds option : Nat) (h : s.input = []) :
    ∃ msg, ((readReplies option rounds).eval (nbdRun answer) s).1 = .error msg := by
  cases rounds with
  | zero => exact ⟨_, rfl⟩
  | succ rounds =>
      refine ⟨unexpectedEof, ?_⟩
      rw [readReplies, Prog.eval_bind_error _ _ _ _ _ _ (eval_readInt_short answer s 8 (by
        rw [h]
        exact Nat.succ_pos 7))]

/-- The server refuses an option. -/
theorem eval_refuse (option reply : Nat) (payload : Bytes) :
    Prog.eval (nbdRun answer) (do
      writeOptionReply option reply payload
      nbd .flushStream
      pure false) s
      = (.ok false, { s with output := s.output ++ optionReply option reply payload }) := by
  rw [Prog.eval_bind_ok _ _ _ _ _ _ (eval_writeOptionReply answer s option reply payload)]
  rfl

variable (flags : Nat)

/-- A client reads that its option is refused. -/
theorem eval_clientOption_refused (o : SentOption) (rounds reply : Nat) (payload rest : Bytes)
    (hname : o.number ≠ optExportName) (habort : o.number ≠ optAbort)
    (hreply : reply < 256 ^ 4) (hlast : optRepErrors ≤ reply) (hlen : payload.length < 256 ^ 4)
    (h : s.input = optionReply o.number reply payload ++ rest) :
    (clientOption options flags (rounds + 1) o).eval (nbdRun answer) s
      = (.ok false, { s with input := rest }) := by
  have hack : ¬reply = optRepAck := by
    intro hack
    rw [hack] at hlast
    exact absurd hlast (by decide)
  have hread := eval_readReplies answer s rounds o.number reply payload rest o.number_lt hreply
    hlen h
  rw [if_pos (Or.inr hlast)] at hread
  unfold clientOption
  rw [if_neg hname, Prog.eval_bind_ok _ _ _ _ _ _ hread, decide_eq_false (by
    rintro (hc | ⟨_, hc⟩)
    · exact habort hc
    · exact hack hc)]
  rfl

/-- What is known of an option that the server has dealt with: how its answer
    goes on, what it wrote, and what a client makes of that. -/
structure Dealt (rounds : Nat) (o : SentOption) (r : Except String Bool) (bytes : Bytes) :
    Prop where
  enters : r = .ok true ↔ o.Enters options
  stays : r = .ok false ↔ ¬o.Ends options
  fits : o.Fits options flags → ∀ (c : Connection) rest, c.input = bytes ++ rest →
    (clientOption options flags rounds o).eval (nbdRun answer) c
      = (.ok (decide (o.Ends options)), { c with input := rest })
  astray : ¬o.Fits options flags → ∀ c : Connection, c.input = bytes →
    (∃ msg, ((clientOption options flags rounds o).eval (nbdRun answer) c).1 = .error msg) ∨
    ∃ c', (clientOption options flags rounds o).eval (nbdRun answer) c = (.ok true, c') ∧
      c'.input ≠ []

/-- An option that the server refuses and the client goes on after. -/
theorem dealt_refused (o : SentOption) (rounds reply : Nat) (payload : Bytes)
    (hname : o.number ≠ optExportName) (habort : o.number ≠ optAbort)
    (hout : ¬o.Enters options) (hreply : reply < 256 ^ 4) (hlast : optRepErrors ≤ reply)
    (hlen : payload.length < 256 ^ 4) :
    Dealt answer options flags (rounds + 1) o (.ok false)
      (optionReply o.number reply payload) := by
  have hstays : ¬o.Ends options := by
    rintro (hc | hc | hc)
    · exact hout hc
    · exact hname hc
    · exact habort hc
  refine ⟨⟨fun h => ?_, fun h => absurd h hout⟩, ⟨fun _ => hstays, fun _ => rfl⟩, ?_, ?_⟩
  · exact absurd (Except.ok.inj h) Bool.false_ne_true
  · intro _ c rest h
    rw [decide_eq_false hstays]
    exact eval_clientOption_refused answer c options flags o rounds reply payload rest hname habort
      hreply hlast hlen h
  · intro hastray
    exact absurd ⟨habort, fun hc => absurd hc hname⟩ hastray

/-- An abort gets no answer. -/
theorem dealt_abort (o : SentOption) (rounds : Nat) (msg : String)
    (habort : o.number = optAbort) :
    Dealt answer options flags rounds o (.error msg) [] := by
  have hname : ¬o.number = optExportName := by rw [habort]; decide
  have hgo : ¬o.number = optGo := by rw [habort]; decide
  have hout : ¬o.Enters options := by
    rintro (⟨hc, _⟩ | ⟨hc, _⟩)
    · exact hname hc
    · exact hgo hc
  refine ⟨⟨fun h => (by cases h), fun h => absurd h hout⟩,
    ⟨fun h => (by cases h), fun h => ?_⟩, ?_, ?_⟩
  · exact absurd (Or.inr (Or.inr habort)) h
  · intro hfits
    exact absurd habort hfits.1
  · intro _ c hc
    rcases eval_readReplies_nil answer c rounds o.number hc with ⟨msg', herr⟩
    refine Or.inl ⟨msg', ?_⟩
    unfold clientOption
    rw [if_neg hname, Prog.eval_bind]
    generalize (readReplies o.number rounds).eval (nbdRun answer) c = t at herr
    rcases t with ⟨r, c'⟩
    rw [show r = .error msg' from herr]

/-- An export name that is not served closes the connection. -/
theorem dealt_unknown (o : SentOption) (rounds : Nat) (msg : String)
    (hname : o.number = optExportName) (hout : ¬o.Enters options) :
    Dealt answer options flags rounds o (.error msg) [] := by
  have hends : o.Ends options := Or.inr (Or.inl hname)
  refine ⟨⟨fun h => (by cases h), fun h => absurd h hout⟩,
    ⟨fun h => (by cases h), fun h => absurd hends h⟩, ?_, ?_⟩
  · intro _ c rest hc
    unfold clientOption
    rw [if_pos hname, if_neg hout, decide_eq_true hends, ← hc.trans (List.nil_append rest)]
    rfl
  · intro hastray
    refine absurd ⟨?_, fun _ hc => absurd hc hout⟩ hastray
    rw [hname]
    decide

/-- An export name that is served gets the padding, wanted or not. -/
theorem dealt_exportName (o : SentOption) (rounds : Nat) (hname : o.number = optExportName)
    (hin : o.Enters options) :
    Dealt answer options flags rounds o (.ok true) (toBe 8 options.deviceSize ++
      (toBe 2 transmissionFlags ++ List.replicate 124 0)) := by
  have hsize : options.deviceSize < 256 ^ 8 := options.deviceSize_lt
  -- The client reads the size and the flags, then as much padding as it expects.
  have hclient : ∀ (c : Connection) rest,
      c.input = toBe 8 options.deviceSize ++ (toBe 2 transmissionFlags ++
        List.replicate 124 0) ++ rest → ∃ c', c' = { c with
          input := List.replicate (if flags.testBit 1 then 124 else 0) 0 ++ rest } ∧
        (clientOption options flags rounds o).eval (nbdRun answer) c = (.ok true, c') := by
    intro c rest hc
    simp only [List.append_assoc] at hc
    refine ⟨_, rfl, ?_⟩
    unfold clientOption
    rw [if_pos hname, if_pos hin,
      Prog.eval_bind_ok _ _ _ _ _ _ (eval_readInt answer c 8 _ _ hsize hc),
      Prog.eval_bind_ok _ _ _ _ _ _ (eval_readInt answer _ 2 transmissionFlags _ (by decide)
        rfl)]
    by_cases hflag : flags.testBit 1 = true
    · rw [if_pos hflag, if_pos hflag,
        Prog.eval_bind_ok _ _ _ _ _ _ (eval_readExact answer _ [] _ 0 rfl rfl)]
      rfl
    · rw [if_neg hflag, if_neg hflag, Prog.eval_bind_ok _ _ _ _ _ _ (eval_readExact answer _
        (List.replicate 124 0) rest 124 List.length_replicate rfl)]
      have hzero : ((List.replicate 124 (0 : UInt8)).all fun b => b = 0) = true := by decide
      rw [hzero]
      rfl
  have hends : o.Ends options := Or.inl hin
  refine ⟨⟨fun _ => hin, fun _ => rfl⟩, ⟨fun h => ?_, fun h => absurd hends h⟩, ?_, ?_⟩
  · exact absurd (Except.ok.inj h).symm Bool.false_ne_true
  · intro hfits c rest hc
    rcases hclient c rest hc with ⟨c', hc', hrun⟩
    rw [hrun, hc', hfits.2 hname hin, decide_eq_true hends]
    rfl
  · intro hastray c hc
    rcases hclient c [] (hc.trans (List.append_nil _).symm) with ⟨c', hc', hrun⟩
    refine Or.inr ⟨c', hrun, ?_⟩
    have hflag : flags.testBit 1 = true := by
      by_cases hflag : flags.testBit 1 = true
      · exact hflag
      · exact absurd ⟨by rw [hname]; decide, fun _ _ => Bool.eq_false_iff.mpr hflag⟩ hastray
    rw [hc', if_pos hflag]
    exact fun hnil => (by cases hnil)

/-- The option to go on is answered with the export, then with leave to go. -/
theorem dealt_go (o : SentOption) (rounds : Nat) (info : Bytes) (hgo : o.number = optGo)
    (hin : o.Enters options) (hlen : info.length < 256 ^ 4) :
    Dealt answer options flags (rounds + 2) o (.ok true)
      (optionReply o.number optRepInfo info ++ optionReply o.number optRepAck []) := by
  have hname : ¬o.number = optExportName := by rw [hgo]; decide
  have hends : o.Ends options := Or.inl hin
  refine ⟨⟨fun _ => hin, fun _ => rfl⟩, ⟨fun h => ?_, fun h => absurd hends h⟩, ?_, ?_⟩
  · exact absurd (Except.ok.inj h).symm Bool.false_ne_true
  · intro _ c rest hc
    rw [List.append_assoc] at hc
    unfold clientOption
    rw [if_neg hname, Prog.eval_bind_ok _ _ _ _ { c with input := rest } optRepAck (by
      rw [eval_readReplies answer c (rounds + 1) o.number optRepInfo info _ o.number_lt (by decide)
        hlen hc, if_neg (by decide), eval_readReplies answer _ rounds o.number optRepAck [] rest
        o.number_lt (by decide) (by decide) rfl, if_pos (Or.inl rfl)])]
    rw [decide_eq_true hends, decide_eq_true (Or.inr ⟨hgo, rfl⟩)]
    rfl
  · intro hastray
    refine absurd ⟨?_, fun hc => absurd hc hname⟩ hastray
    rw [hgo]
    decide

/-- Every option is dealt with in one of these ways. -/
theorem eval_serveOption (o : SentOption) (rounds : Nat) : ∃ r bytes,
    (serveOption options o.number o.data).eval (nbdRun answer) s
      = (r, { s with output := s.output ++ bytes }) ∧
    Dealt answer options flags (rounds + 2) o r bytes := by
  unfold serveOption
  by_cases hname : o.number = optExportName
  · rw [if_pos hname]
    have hgo : ¬o.number = optGo := by rw [hname]; decide
    by_cases hin : o.Enters options
    · have hnames : options.names (fromUtf8Lossy o.data) = true := by
        rcases hin with ⟨_, hc⟩ | ⟨hc, _⟩
        · exact hc
        · exact absurd hc hgo
      refine ⟨_, _, ?_, dealt_exportName answer options flags o _ hname hin⟩
      have hensure : decide (((fromUtf8Lossy o.data).isEmpty = true) ∨
          fromUtf8Lossy o.data = options.exportName) = true := by
        rw [NbdServerOptions.names, Bool.or_eq_true, decide_eq_true_eq] at hnames
        exact decide_eq_true hnames
      simp only [hensure]
      rw [Prog.eval_bind_ok _ _ _ s s () rfl]
      unfold writeExportInfo writeInt
      rw [Prog.eval_bind_ok _ _ _ _ _ () (by
          rw [Prog.eval_bind_ok _ _ _ _ _ _ (eval_writeAll answer s _), eval_writeAll]),
        Prog.eval_bind_ok _ _ _ _ _ _ (eval_writeAll answer _ _)]
      simp only [List.append_assoc]
      rfl
    · have hnames : ¬options.names (fromUtf8Lossy o.data) = true :=
        fun hc => hin (Or.inl ⟨hname, hc⟩)
      refine ⟨_, [], ?_, dealt_unknown answer options flags o _
        ("unknown NBD export " ++ String.ofList (fromUtf8Lossy o.data)) hname hin⟩
      have hensure : decide (((fromUtf8Lossy o.data).isEmpty = true) ∨
          fromUtf8Lossy o.data = options.exportName) = false := by
        rw [NbdServerOptions.names, Bool.or_eq_true, decide_eq_true_eq] at hnames
        exact decide_eq_false hnames
      simp only [hensure, List.append_nil]
      rfl
  rw [if_neg hname]
  by_cases hgo : o.number = optGo
  · -- The export is described and entered, or refused and the options go on.
    rw [if_pos hgo]
    have habort : o.number ≠ optAbort := by rw [hgo]; decide
    rcases hparse : parseGoExportName o.data with _ | requested
    · have hout : ¬o.Enters options := by
        rintro (⟨hc, _⟩ | ⟨_, hc⟩)
        · exact hname hc
        · rw [hparse] at hc
          exact Bool.false_ne_true hc
      exact ⟨_, _, eval_refuse answer s _ _ _, dealt_refused answer options flags o _ _ _ hname
        habort hout (by decide) (by decide) (by decide)⟩
    · by_cases hother : ¬requested.isEmpty = true ∧ requested ≠ options.exportName
      · have hout : ¬o.Enters options := by
          rintro (⟨hc, _⟩ | ⟨_, hc⟩)
          · exact hname hc
          · rw [hparse, Option.any_some, NbdServerOptions.names, Bool.or_eq_true,
              decide_eq_true_eq] at hc
            rcases hc with hc | hc
            · exact hother.1 hc
            · exact hother.2 hc
        simp only [if_pos hother]
        exact ⟨_, _, eval_refuse answer s _ _ _, dealt_refused answer options flags o _ _ _ hname
          habort hout (by decide) (by decide) (by decide)⟩
      · have hin : o.Enters options := by
          refine Or.inr ⟨hgo, ?_⟩
          rw [hparse, Option.any_some, NbdServerOptions.names, Bool.or_eq_true, decide_eq_true_eq]
          by_cases hempty : requested.isEmpty = true
          · exact Or.inl hempty
          · exact Or.inr (Classical.byContradiction fun hc => hother ⟨hempty, hc⟩)
        simp only [if_neg hother]
        refine ⟨_, _, ?_, dealt_go answer options flags o rounds (toBe 2 infoExport ++
          toBe 8 options.deviceSize ++ toBe 2 transmissionFlags) hgo hin (by
            simp only [List.length_append, length_toBe]
            decide)⟩
        rw [Prog.eval_bind_ok _ _ _ _ _ _ (eval_writeOptionReply answer s _ _ _),
          Prog.eval_bind_ok _ _ _ _ _ _ (eval_writeOptionReply answer _ _ _ _)]
        simp only [List.append_assoc]
        rfl
  rw [if_neg hgo]
  -- No other option enters the export.
  have hout : ¬o.Enters options := by
    rintro (⟨hc, _⟩ | ⟨hc, _⟩)
    · exact hname hc
    · exact hgo hc
  by_cases hstructured : o.number = optStructuredReply
  · rw [if_pos hstructured]
    have habort : o.number ≠ optAbort := by rw [hstructured]; decide
    exact ⟨_, _, eval_refuse answer s _ _ _, dealt_refused answer options flags o _ _ _ hname
      habort hout (by decide) (by decide) (by decide)⟩
  rw [if_neg hstructured]
  by_cases habort : o.number = optAbort
  · rw [if_pos habort]
    refine ⟨_, [], ?_, dealt_abort answer options flags o _ "client aborted negotiation" habort⟩
    rw [List.append_nil]
    rfl
  · rw [if_neg habort]
    exact ⟨_, _, eval_refuse answer s _ _ _, dealt_refused answer options flags o _ _ _ hname
      habort hout (by decide) (by decide) (by decide)⟩

/-- The server and the client on a list of options, from any point of the
    negotiation. -/
theorem eval_optionLoop (opts : List SentOption) (tail : Bytes) (rounds k : Nat)
    (hrounds : opts.length < rounds) (h : s.input = optionStream options tail opts) :
    ∃ out, (((optionLoop options rounds).eval (nbdRun answer) s).2.output = s.output ++ out) ∧
      (((optionLoop options rounds).eval (nbdRun answer) s).1 = .ok () ↔
        ∃ o ∈ reachedOptions options opts, o.Enters options) ∧
      (((optionLoop options rounds).eval (nbdRun answer) s).1 = .ok () →
        ((optionLoop options rounds).eval (nbdRun answer) s).2.input
          = afterOptions options tail opts) ∧
      ∀ c : Connection, c.input = out →
        ((((clientOptions options flags (k + 2) opts).eval (nbdRun answer) c).1 = .ok () ∧
          ((clientOptions options flags (k + 2) opts).eval (nbdRun answer) c).2.input = []) ↔
          ∀ o ∈ reachedOptions options opts, o.Fits options flags) := by
  induction opts generalizing rounds s with
  | nil =>
      rcases rounds with _ | rounds
      · exact absurd hrounds (Nat.not_lt_zero _)
      · -- The client has stopped sending, so the server is left waiting.
        have hread : readOption.eval (nbdRun answer) s
            = (.error unexpectedEof, { s with input := [] }) := by
          unfold readOption
          rw [Prog.eval_bind_error _ _ _ _ _ _ (eval_readInt_short answer s 8 (by
            rw [h]
            exact Nat.succ_pos 7))]
        unfold optionLoop
        rw [Prog.eval_bind_error _ _ _ _ _ _ hread]
        refine ⟨[], (List.append_nil _).symm, ⟨fun hc => (by cases hc), ?_⟩,
          fun hc => (by cases hc), fun c hc => ⟨fun _ o ho => (by cases ho), fun _ => ⟨rfl, hc⟩⟩⟩
        rintro ⟨o, ho, _⟩
        cases ho
  | cons o later ih =>
      rcases rounds with _ | rounds
      · exact absurd hrounds (Nat.not_lt_zero _)
      unfold optionLoop
      rw [Prog.eval_bind_ok _ _ _ _ _ _ (eval_readOption answer s o _ h)]
      simp only []
      rcases eval_serveOption answer
        { s with input :=
            (if o.Ends options then later.flatMap SentOption.encode ++ tail
            else optionStream options tail later) }
        options flags o k with ⟨r, bytes, hserve, hdealt⟩
      unfold reachedOptions afterOptions clientOptions
      by_cases hends : o.Ends options
      · -- The negotiation ends here, with the export or without it.
        simp only [if_pos hends] at hserve ⊢
        have hclient : ∀ c : Connection, c.input = bytes →
            ((Prog.eval (nbdRun answer) (do
              let done ← clientOption options flags (k + 2) o
              if done = true then pure () else clientOptions options flags (k + 2) later) c).1
              = .ok () ∧ (Prog.eval (nbdRun answer) (do
              let done ← clientOption options flags (k + 2) o
              if done = true then pure () else clientOptions options flags (k + 2) later) c).2.input
              = [] ↔ ∀ o' ∈ [o], o'.Fits options flags) := by
          intro c hc
          by_cases hfits : o.Fits options flags
          · have hrun := hdealt.fits hfits c [] (hc.trans (List.append_nil _).symm)
            rw [decide_eq_true hends] at hrun
            rw [Prog.eval_bind_ok _ _ _ _ _ _ hrun]
            refine ⟨fun _ o' ho' => ?_, fun _ => ⟨rfl, rfl⟩⟩
            rw [List.mem_singleton.mp ho']
            exact hfits
          · refine ⟨fun hok => ?_, fun hall => absurd (hall o (List.mem_singleton.mpr rfl)) hfits⟩
            rcases hdealt.astray hfits c hc with ⟨msg, herr⟩ | ⟨c', hrun, hleft⟩
            · rw [Prog.eval_bind] at hok
              generalize (clientOption options flags (k + 2) o).eval (nbdRun answer) c = t
                at herr hok
              rcases t with ⟨r', c'⟩
              rw [show r' = .error msg from herr] at hok
              cases hok.1
            · rw [Prog.eval_bind_ok _ _ _ _ _ _ hrun] at hok
              exact absurd hok.2 hleft
        by_cases hin : o.Enters options
        · rw [hdealt.enters.mpr hin] at hserve
          rw [Prog.eval_bind_ok _ _ _ _ _ _ hserve]
          exact ⟨bytes, rfl, ⟨fun _ => ⟨o, List.mem_singleton.mpr rfl, hin⟩, fun _ => rfl⟩,
            fun _ => rfl, hclient⟩
        · have herr : ∃ msg, r = .error msg := by
            rcases r with msg | done
            · exact ⟨msg, rfl⟩
            · cases done with
              | true => exact absurd (hdealt.enters.mp rfl) hin
              | false => exact absurd hends (hdealt.stays.mp rfl)
          rcases herr with ⟨msg, herr⟩
          rw [herr] at hserve
          rw [Prog.eval_bind_error _ _ _ _ _ _ hserve]
          refine ⟨bytes, rfl, ⟨fun hc => (by cases hc), ?_⟩, fun hc => (by cases hc), hclient⟩
          rintro ⟨o', ho', hin'⟩
          rw [List.mem_singleton.mp ho'] at hin'
          exact absurd hin' hin
      · -- The negotiation goes on, and the client is where the server is.
        simp only [if_neg hends] at hserve ⊢
        have hfits : o.Fits options flags :=
          ⟨fun hc => hends (Or.inr (Or.inr hc)), fun _ hc => absurd (Or.inl hc) hends⟩
        rw [hdealt.stays.mpr hends] at hserve
        rw [Prog.eval_bind_ok _ _ _ _ _ _ hserve]
        rw [List.length_cons] at hrounds
        have hlater := ih
          { s with input := optionStream options tail later, output := s.output ++ bytes } rounds
          (by omega) rfl
        rcases hlater with ⟨out, hout, hok, hrest, hclient⟩
        refine ⟨bytes ++ out, ?_, ?_, hrest, ?_⟩
        · rw [← List.append_assoc]
          exact hout
        · refine hok.trans ⟨?_, ?_⟩
          · rintro ⟨o', ho', hin'⟩
            exact ⟨o', List.mem_cons_of_mem o ho', hin'⟩
          · rintro ⟨o', ho', hin'⟩
            rcases List.mem_cons.mp ho' with heq | ho'
            · rw [heq] at hin'
              exact absurd (Or.inl hin') hends
            · exact ⟨o', ho', hin'⟩
        · intro c hc
          have hrun := hdealt.fits hfits c out hc
          rw [decide_eq_false hends] at hrun
          rw [Prog.eval_bind_ok _ _ _ _ _ _ hrun]
          refine (hclient { c with input := out } rfl).trans ⟨fun hall o' ho' => ?_,
            fun hall o' ho' => hall o' (List.mem_cons_of_mem o ho')⟩
          rcases List.mem_cons.mp ho' with heq | ho'
          · rw [heq]
            exact hfits
          · exact hall o' ho'

end Eval

/-- A client and the server are in step through a negotiation if and only if,
    up to the option that ends it, the client does not abort and does not
    choose the export by its name after it asked for no padding. -/
theorem negotiation_in_step_iff (answer : List NbdCall → Nat → Nat → Bytes)
    (options : NbdServerOptions) (flags : Nat) (hflags : flags < 256 ^ 4)
    (opts : List SentOption) (tail : Bytes) (rounds : Nat) (hrounds : opts.length + 1 < rounds) :
    InStep options flags answer opts tail rounds ↔
      ∀ o ∈ reachedOptions options opts, o.Fits options flags := by
  have hk : rounds = rounds - 2 + 2 := by omega
  -- The greeting goes out, and the flags are read and forgotten.
  have hserver : ∃ c : Connection, c.output = toBe 8 nbdMagic ++ (toBe 8 iHaveOpt ++
        toBe 2 (handshakeFixedNewstyle ||| handshakeNoZeroes)) ∧
      c.input = optionStream options tail opts ∧
      (negotiate options rounds).eval (nbdRun answer)
        { input := toBe 4 flags ++ optionStream options tail opts, output := [], calls := [] }
        = (optionLoop options rounds).eval (nbdRun answer) c := by
    refine ⟨{ input := optionStream options tail opts
              output := toBe 8 nbdMagic ++ (toBe 8 iHaveOpt ++
                toBe 2 (handshakeFixedNewstyle ||| handshakeNoZeroes))
              calls := [] }, rfl, rfl, ?_⟩
    unfold negotiate writeInt
    rw [Prog.eval_bind_ok _ _ _ _ _ _ (eval_writeAll answer _ _),
      Prog.eval_bind_ok _ _ _ _ _ _ (eval_writeAll answer _ _),
      Prog.eval_bind_ok _ _ _ _ _ _ (eval_writeAll answer _ _),
      Prog.eval_bind_ok _ _ _ _ _ () rfl,
      Prog.eval_bind_ok _ _ _ _ _ _ (eval_readInt answer _ 4 flags _ hflags rfl)]
    rfl
  rcases hserver with ⟨c, hout, hin, hrun⟩
  rcases eval_optionLoop answer c options flags opts tail rounds (rounds - 2) (by omega) hin with
    ⟨out, houtput, hok, hrest, hclient⟩
  rw [← hk] at hclient
  unfold InStep
  simp only [hrun, houtput, hout]
  -- The client reads the greeting, and then what its options get.
  have hgreet : ∀ c' : Connection, c'.input = toBe 8 nbdMagic ++ (toBe 8 iHaveOpt ++
        toBe 2 (handshakeFixedNewstyle ||| handshakeNoZeroes)) ++ out →
      (clientNegotiate options flags rounds opts).eval (nbdRun answer) c'
        = (clientOptions options flags rounds opts).eval (nbdRun answer)
          { c' with input := out } := by
    intro c' hc'
    simp only [List.append_assoc] at hc'
    unfold clientNegotiate
    rw [Prog.eval_bind_ok _ _ _ _ _ _ (eval_readInt answer c' 8 nbdMagic _ (by decide) hc'),
      Prog.eval_bind_ok _ _ _ _ _ () (by rw [decide_eq_true rfl]; rfl),
      Prog.eval_bind_ok _ _ _ _ _ _ (eval_readInt answer _ 8 iHaveOpt _ (by decide) rfl),
      Prog.eval_bind_ok _ _ _ _ _ () (by rw [decide_eq_true rfl]; rfl),
      Prog.eval_bind_ok _ _ _ _ _ _ (eval_readInt answer _ 2
        (handshakeFixedNewstyle ||| handshakeNoZeroes) _ (by decide) rfl)]
  rw [hgreet _ rfl]
  refine ⟨fun hstep => (hclient _ rfl).mp hstep.1, fun hall => ⟨(hclient _ rfl).mpr hall, hok,
    hrest⟩⟩

/-- An option that is not known, then the option to go on with any export. -/
def smallOptionList : List SentOption :=
  [ { number := 5, data := [1], number_lt := by decide, length_lt := by decide }
  , { number := 7, data := [0, 0, 0, 0, 0, 0], number_lt := by decide, length_lt := by decide } ]

theorem negotiation_in_step_small :
    InStep smallOptions 2 (fun _ _ len => List.replicate len 7) smallOptionList [9] 4 :=
  (negotiation_in_step_iff (fun _ _ len => List.replicate len 7) smallOptions 2 (by decide)
    smallOptionList [9] 4 (by decide)).mpr (by decide)

/-- A client that asks for no padding gets it after the name of the export,
    and takes it for replies. -/
theorem negotiation_out_of_step :
    ¬InStep smallOptions 2 (fun _ _ len => List.replicate len 7)
      [{ number := 1, data := [], number_lt := by decide, length_lt := by decide }] [] 3 := by
  intro hstep
  exact absurd hstep.1.2 (by decide +kernel)

end TgDrive
