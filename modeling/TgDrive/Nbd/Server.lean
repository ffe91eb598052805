import TgDrive.Core.Primitives
import TgDrive.Data.BigEndian
import TgDrive.Effect.Prog

/-!
# The NBD Server

One connection of the server: the negotiation and the loop that serves
requests, as programs that read and write a stream and call the device. The
loops carry a bound on their rounds, since nothing in a program says how long
its stream is; every round of either takes bytes off the stream, so a bound
above the number of options or requests is never met.

The limit on requests in flight is left out. A connection serves one request
at a time, so it never waits for it.

## Main definitions

* `fromUtf8Lossy`: Text from bytes that may be no text.
* `NbdOp`: The operations of a connection.
* `negotiate`: The negotiation.
* `NbdRequest.read`: Reading one request.
* `serveRequest`, `transmission`: Serving requests.
* `handleClient`: One connection.
-/

namespace TgDrive

open Data Effect

def nbdMagic : Nat := 0x4e42444d41474943
def iHaveOpt : Nat := 0x49484156454f5054
def optionReplyMagic : Nat := 0x0003e889045565a9
def reqMagic : Nat := 0x25609513
def repMagic : Nat := 0x67446698

def handshakeFixedNewstyle : Nat := 1
def handshakeNoZeroes : Nat := 2

def optExportName : Nat := 1
def optAbort : Nat := 2
def optGo : Nat := 7
def optStructuredReply : Nat := 8

def optRepAck : Nat := 1
def optRepInfo : Nat := 3
def optRepErrUnsup : Nat := 0x80000001
def optRepErrInvalid : Nat := 0x80000003

def infoExport : Nat := 0

def cmdRead : Nat := 0
def cmdWrite : Nat := 1
def cmdDisc : Nat := 2
def cmdFlush : Nat := 3
def cmdTrim : Nat := 4
def cmdWriteZeroes : Nat := 6

def errUnsupported : Nat := 95
def errInvalid : Nat := 22

/-- Whether a byte is in a range. -/
def byteIn (lo hi : Nat) (b : UInt8) : Bool := decide (lo ≤ b.toNat ∧ b.toNat ≤ hi)

/-- The range the second byte of a character has to be in, by its first. -/
def secondByte (first : Nat) : Nat × Nat :=
  if first = 0xE0 then (0xA0, 0xBF)
  else if first = 0xED then (0x80, 0x9F)
  else if first = 0xF0 then (0x90, 0xBF)
  else if first = 0xF4 then (0x80, 0x8F)
  else (0x80, 0xBF)

/-- How many bytes the character at the front of a text takes, and whether it
    is one. What is no character is as long as it might have become one. -/
def utf8Front : Bytes → Nat × Bool
  | [] => (0, false)
  | b0 :: rest =>
      let first := b0.toNat
      let (lo, hi) := secondByte first
      let width := if first < 0x80 then 1
        else if 0xC2 ≤ first ∧ first ≤ 0xDF then 2
        else if 0xE0 ≤ first ∧ first ≤ 0xEF then 3
        else if 0xF0 ≤ first ∧ first ≤ 0xF4 then 4
        else 0
      if width = 0 then (1, false)
      else if width = 1 then (1, true)
      else match rest with
        | [] => (1, false)
        | b1 :: rest =>
            if !byteIn lo hi b1 then (1, false)
            else if width = 2 then (2, true)
            else match rest with
              | [] => (2, false)
              | b2 :: rest =>
                  if !byteIn 0x80 0xBF b2 then (2, false)
                  else if width = 3 then (3, true)
                  else match rest with
                    | [] => (3, false)
                    | b3 :: _ => if byteIn 0x80 0xBF b3 then (4, true) else (3, false)

/-- The character that the bytes of one spell. -/
def utf8Char : Bytes → Char
  | [b0] => Char.ofNat b0.toNat
  | [b0, b1] => Char.ofNat ((b0.toNat - 0xC0) * 64 + (b1.toNat - 0x80))
  | [b0, b1, b2] =>
      Char.ofNat ((b0.toNat - 0xE0) * 4096 + (b1.toNat - 0x80) * 64 + (b2.toNat - 0x80))
  | [b0, b1, b2, b3] =>
      Char.ofNat ((b0.toNat - 0xF0) * 262144 + (b1.toNat - 0x80) * 4096 +
        (b2.toNat - 0x80) * 64 + (b3.toNat - 0x80))
  | _ => Char.ofNat 0xFFFD

/-- The characters of a text, taking at most so many. -/
def utf8Chars : Nat → Bytes → Text
  | 0, _ => []
  | _ + 1, [] => []
  | n + 1, bytes =>
      let (width, valid) := utf8Front bytes
      (if valid then utf8Char (bytes.take width) else Char.ofNat 0xFFFD) ::
        utf8Chars n (bytes.drop width)

/-- Text from bytes, with a replacement character for what is no character. -/
def fromUtf8Lossy (bytes : Bytes) : Text := utf8Chars bytes.length bytes

structure NbdServerOptions where
  exportName : Text
  deviceSize : Nat
  deviceSize_lt : deviceSize < 2 ^ 64

/-- The operations of a connection: its stream, and the device behind it. -/
inductive NbdOp : Type
  | readExact (n : Nat)
  | writeAll (bytes : Bytes)
  | flushStream
  | readAt (offset len : Nat)
  | writeAt (offset : Nat) (bytes : Bytes)
  | flush

abbrev NbdOp.Resp : NbdOp → Type
  | .readExact _ => Bytes
  | .readAt _ _ => Bytes
  | _ => Unit

abbrev nbdSig : Signature := { Op := NbdOp, Resp := NbdOp.Resp }

/-- Ask for an operation of a connection. -/
def nbd (e : NbdOp) : Prog nbdSig e.Resp := Prog.perform (S := nbdSig) e

/-- The error of a stream that ends too early. -/
def unexpectedEof : String := "early eof"

/-- An integer of so many bytes off the stream. -/
def readInt (n : Nat) : Prog nbdSig Nat := do
  let bytes ← nbd (.readExact n)
  pure (fromBe bytes)

/-- An integer of so many bytes to the stream. -/
def writeInt (n value : Nat) : Prog nbdSig Unit := nbd (.writeAll (toBe n value))

def transmissionFlags : Nat := 1 ||| 4 ||| 32 ||| 64

def writeExportInfo (options : NbdServerOptions) : Prog nbdSig Unit := do
  writeInt 8 options.deviceSize
  writeInt 2 transmissionFlags

def writeOptionReply (option reply : Nat) (payload : Bytes) : Prog nbdSig Unit := do
  writeInt 8 optionReplyMagic
  writeInt 4 option
  writeInt 4 reply
  writeInt 4 payload.length
  nbd (.writeAll payload)

/-- The name in the data of a GO option. -/
def parseGoExportName (data : Bytes) : Option Text :=
  if data.length < 6 then none
  else if data.length < 4 + fromBe (data.take 4) + 2 then none
  else some (fromUtf8Lossy ((data.drop 4).take (fromBe (data.take 4))))

/-- The bytes of a message in the source. -/
def asciiBytes (text : String) : Bytes := text.toList.map (fun c => UInt8.ofNat c.toNat)

/-- Answer one option. The answer says whether the negotiation is over. -/
def serveOption (options : NbdServerOptions) (option : Nat) (data : Bytes) :
    Prog nbdSig Bool :=
  if option = optExportName then do
    let requested := fromUtf8Lossy data
    Prog.ensure (requested.isEmpty ∨ requested = options.exportName)
      ("unknown NBD export " ++ String.ofList requested)
    writeExportInfo options
    nbd (.writeAll (List.replicate 124 0))
    nbd .flushStream
    pure true
  else if option = optGo then
    match parseGoExportName data with
    | none => do
        writeOptionReply option optRepErrInvalid (asciiBytes "invalid NBD_OPT_GO")
        nbd .flushStream
        pure false
    | some requested =>
        if ¬requested.isEmpty ∧ requested ≠ options.exportName then do
          writeOptionReply option optRepErrInvalid (asciiBytes "unknown NBD export")
          nbd .flushStream
          pure false
        else do
          let info := toBe 2 infoExport ++ toBe 8 options.deviceSize ++ toBe 2 transmissionFlags
          writeOptionReply option optRepInfo info
          writeOptionReply option optRepAck []
          nbd .flushStream
          pure true
  else if option = optStructuredReply then do
    writeOptionReply option optRepErrUnsup (asciiBytes "structured replies are not supported")
    nbd .flushStream
    pure false
  else if option = optAbort then .fail "client aborted negotiation"
  else do
    writeOptionReply option optRepErrUnsup (asciiBytes "unsupported NBD option")
    nbd .flushStream
    pure false

/-- Read one option: its number and its data. -/
def readOption : Prog nbdSig (Nat × Bytes) := do
  let magic ← readInt 8
  Prog.ensure (magic = iHaveOpt) "invalid option magic"
  let option ← readInt 4
  let length ← readInt 4
  let data ← nbd (.readExact length)
  pure (option, data)

/-- The options of a negotiation, one after the other. -/
def optionLoop (options : NbdServerOptions) : Nat → Prog nbdSig Unit
  | 0 => .fail "out of rounds"
  | rounds + 1 => do
      let (option, data) ← readOption
      let done ← serveOption options option data
      if done then pure () else optionLoop options rounds

def negotiate (options : NbdServerOptions) (rounds : Nat) : Prog nbdSig Unit := do
  writeInt 8 nbdMagic
  writeInt 8 iHaveOpt
  writeInt 2 (handshakeFixedNewstyle ||| handshakeNoZeroes)
  nbd .flushStream
  let _ ← readInt 4
  optionLoop options rounds

structure NbdRequest where
  command : Nat
  handle : Nat
  offset : Nat
  length : Nat

def NbdRequest.read : Prog nbdSig NbdRequest := do
  let magic ← readInt 4
  Prog.ensure (magic = reqMagic) "invalid request magic"
  let _ ← readInt 2
  let command ← readInt 2
  let handle ← readInt 8
  let offset ← readInt 8
  let length ← readInt 4
  pure { command := command, handle := handle, offset := offset, length := length }

def writeReply (error handle : Nat) : Prog nbdSig Unit := do
  writeInt 4 repMagic
  writeInt 4 error
  writeInt 8 handle

/-- Read a payload and forget it, in pieces of 8 KiB. -/
def discardPayload : Nat → Nat → Prog nbdSig Unit
  | _, 0 => pure ()
  | 0, _ + 1 => .fail "out of rounds"
  | rounds + 1, remaining + 1 => do
      let take := min (remaining + 1) 8192
      let _ ← nbd (.readExact take)
      discardPayload rounds (remaining + 1 - take)

/-- Whether a range is inside the device. A sum that overflows is outside. -/
def boundsOk (deviceSize offset len : Nat) : Bool :=
  if offset + len < 2 ^ 64 then decide (offset + len ≤ deviceSize) else false

/-- Serve one request. The answer says whether the client is done. -/
def serveRequest (options : NbdServerOptions) (request : NbdRequest) : Prog nbdSig Bool :=
  if request.command = cmdRead then
    if !boundsOk options.deviceSize request.offset request.length then do
      writeReply errInvalid request.handle
      pure false
    else do
      let data ← nbd (.readAt request.offset request.length)
      writeReply 0 request.handle
      nbd (.writeAll data)
      nbd .flushStream
      pure false
  else if request.command = cmdWrite then
    if !boundsOk options.deviceSize request.offset request.length then do
      discardPayload request.length request.length
      writeReply errInvalid request.handle
      pure false
    else do
      let payload ← nbd (.readExact request.length)
      nbd (.writeAt request.offset payload)
      writeReply 0 request.handle
      nbd .flushStream
      pure false
  else if request.command = cmdFlush then do
    nbd .flush
    writeReply 0 request.handle
    nbd .flushStream
    pure false
  else if request.command = cmdDisc then do
    nbd .flush
    pure true
  else if request.command = cmdTrim ∨ request.command = cmdWriteZeroes then do
    -- The source discards a payload here if the command is a write, and it is not.
    writeReply errUnsupported request.handle
    nbd .flushStream
    pure false
  else do
    writeReply errUnsupported request.handle
    nbd .flushStream
    pure false

/-- The requests of a client, one after the other. A stream that ends inside
    or before a header ends the connection without an error. -/
def transmission (options : NbdServerOptions) : Nat → Prog nbdSig Unit
  | 0 => .fail "out of rounds"
  | rounds + 1 => do
      match ← NbdRequest.read.attempt with
      | .error msg => if msg = unexpectedEof then pure () else .fail msg
      | .ok request =>
          let done ← serveRequest options request
          if done then pure () else transmission options rounds

def handleClient (options : NbdServerOptions) (rounds : Nat) : Prog nbdSig Unit := do
  negotiate options rounds
  transmission options rounds

/-- What a device was asked to do. -/
inductive NbdCall : Type
  | read (offset len : Nat)
  | write (offset : Nat) (bytes : Bytes)
  | flush
  deriving DecidableEq

/-- A connection: what is left to read, what was written, and what the device
    was asked to do. -/
structure Connection where
  input : Bytes
  output : Bytes
  calls : List NbdCall

/-- A connection over a device whose calls succeed. What a read answers may
    depend on everything that was asked before. -/
def nbdRun (answer : List NbdCall → Nat → Nat → Bytes) :
    (e : NbdOp) → Connection → Except String e.Resp × Connection
  | .readExact n, s =>
      if n ≤ s.input.length then (.ok (s.input.take n), { s with input := s.input.drop n })
      else (.error unexpectedEof, { s with input := [] })
  | .writeAll bytes, s => (.ok (), { s with output := s.output ++ bytes })
  | .flushStream, s => (.ok (), s)
  | .readAt offset len, s =>
      (.ok (answer s.calls offset len), { s with calls := s.calls ++ [.read offset len] })
  | .writeAt offset bytes, s => (.ok (), { s with calls := s.calls ++ [.write offset bytes] })
  | .flush, s => (.ok (), { s with calls := s.calls ++ [.flush] })

end TgDrive
