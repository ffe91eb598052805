import TgDrive.Core.RoundTrip
import TgDrive.Core.Concrete
import TgDrive.Core.Panic

/-!
# What the Envelope Decoder Accepts

The decoder is given bytes that anyone may have written. Here is exactly which
of them it takes, and on which of them it stops the program.

It takes the encodings of the envelopes that carry the expected ids, with any
two bytes in the reserved place: these two it neither checks nor returns. So
the object it answers with determines the other bytes, and no others.

`decodeChecked` is the same decoder with everything that can panic spelled
out: the bounds of each slice, the length of each array a slice is turned
into, and the one addition. The slices are always inside the bytes. The
addition overflows for the last 76 values of the length field, and only once
everything checked before it is right.

## Main definitions

* `ObjectEnvelope.decodeChecked`: The decoder with its panics.
* `Overlong`: Bytes whose length field makes the addition overflow.

## Theorems

* `encodeWith_of_decode`: What is accepted is an encoding.
* `decode_iff`: Which bytes are accepted.
* `decode_image`: Decoding and encoding, both ways round.
* `decodeChecked_eq`: The two decoders agree.
* `decode_safe_iff`: The bytes that do not stop the program.
-/

namespace TgDrive

open Data

/-- The bytes between two bounds, and those from the second on. -/
theorem slice_append_drop (b : Bytes) (i j : Nat) (hij : i ≤ j) :
    slice b i j ++ b.drop j = b.drop i := by
  have hj : b.drop j = (b.drop i).drop (j - i) := by
    rw [List.drop_drop]
    congr 1
    omega
  rw [slice, hj, List.take_append_drop]

/-- Writing a number read from a slice gives the slice. -/
theorem toBe_slice (b : Bytes) (i j n : Nat) (hj : j ≤ b.length) (hn : j - i = n) :
    toBe n (fromBe (slice b i j)) = slice b i j := by
  have hlen := length_slice b i j hj
  have h := toBe_fromBe (slice b i j)
  rwa [hlen, hn] at h

theorem fromBe_slice_lt (b : Bytes) (i j n : Nat) (hj : j ≤ b.length) (hn : j - i = n) :
    fromBe (slice b i j) < 256 ^ n := by
  have h := fromBe_lt (slice b i j)
  rwa [length_slice b i j hj, hn] at h

/-- The bytes of an envelope are its fields one after the other. -/
theorem slices_append (b : Bytes) :
    slice b 0 8 ++ (slice b 8 10 ++ (slice b 10 12 ++ (slice b 12 20 ++ (slice b 20 28 ++
      (slice b 28 36 ++ (slice b 36 40 ++ (slice b 40 72 ++ (slice b 72 76 ++
        b.drop objectHeaderLen)))))))) = b := by
  rw [show objectHeaderLen = 76 from rfl]
  rw [slice_append_drop b 72 76 (by omega), slice_append_drop b 40 72 (by omega),
    slice_append_drop b 36 40 (by omega), slice_append_drop b 28 36 (by omega),
    slice_append_drop b 20 28 (by omega), slice_append_drop b 12 20 (by omega),
    slice_append_drop b 10 12 (by omega), slice_append_drop b 8 10 (by omega),
    slice_append_drop b 0 8 (by omega), List.drop_zero]

section Envelope

variable [Sha256]

/-- What is accepted is the encoding of the answer, with whatever stood in the
    reserved place. -/
theorem encodeWith_of_decode (b : Bytes) (id gen : Nat) (e : ObjectEnvelope)
    (h : ObjectEnvelope.decode b id gen = .ok e) :
    e.encodeWith (slice b 10 12) = b ∧ e.Fits ∧ objectHeaderLen ≤ b.length := by
  unfold ObjectEnvelope.decode at h
  have h1 := ite_error_eq_ok _ _ _ e h
  have h2 := ite_error_eq_ok _ _ _ e h1.2
  have h3 := ite_error_eq_ok _ _ _ e h2.2
  have h4 := ite_error_eq_ok _ _ _ e h3.2
  have h5 := ite_error_eq_ok _ _ _ e h4.2
  have h6 := ite_error_eq_ok _ _ _ e h5.2
  have h7 := ite_error_eq_ok _ _ _ e h6.2
  have h8 := ite_error_eq_ok _ _ _ e h7.2
  have hlen : objectHeaderLen ≤ b.length := by omega
  have hb : 76 ≤ b.length := hlen
  -- The length field is the number of bytes behind the header.
  have hpayload : (b.drop objectHeaderLen).length = fromBe (slice b 28 36) := by
    rw [List.length_drop, not_not.mp h7.1]
    omega
  have he := Except.ok.inj h8.2
  refine ⟨?_, ?_, hlen⟩
  · have hver : toBe 2 1 = slice b 8 10 := by
      rw [← not_not.mp h3.1]
      exact toBe_slice b 8 10 2 (by omega) rfl
    rw [← he, ObjectEnvelope.encodeWith, ObjectEnvelope.headerWith]
    simp only [List.append_assoc]
    rw [hpayload, not_not.mp h8.1, ← not_not.mp h2.1, hver,
      toBe_slice b 12 20 8 (by omega) rfl, toBe_slice b 20 28 8 (by omega) rfl,
      toBe_slice b 28 36 8 (by omega) rfl, toBe_slice b 36 40 4 (by omega) rfl,
      toBe_slice b 72 76 4 (by omega) rfl, slices_append]
  · rw [← he]
    refine ⟨fromBe_slice_lt b 12 20 8 (by omega) rfl, fromBe_slice_lt b 20 28 8 (by omega) rfl,
      fromBe_slice_lt b 36 40 4 (by omega) rfl, fromBe_slice_lt b 72 76 4 (by omega) rfl, ?_⟩
    rw [hpayload]
    omega

/-- Which bytes are accepted: the encodings of envelopes with the expected
    ids, up to the reserved place. -/
theorem decode_iff (b : Bytes) (id gen : Nat) (e : ObjectEnvelope) :
    ObjectEnvelope.decode b id gen = .ok e ↔
      e.objectId = id ∧ e.generation = gen ∧ e.Fits ∧
        ∃ reserved : Bytes, reserved.length = 2 ∧ b = e.encodeWith reserved := by
  constructor
  · intro h
    obtain ⟨hid, hgen, _⟩ := decode_ok b id gen e h
    obtain ⟨hb, hfits, hlen⟩ := encodeWith_of_decode b id gen e h
    have hb' : 12 ≤ b.length := Nat.le_trans (by decide) hlen
    exact ⟨hid, hgen, hfits, slice b 10 12, length_slice b 10 12 hb', hb.symm⟩
  · rintro ⟨rfl, rfl, hfits, r, hr, rfl⟩
    exact decode_encodeWith e hfits r hr

/-- The reserved place of an encoding. -/
theorem slice_encodeWith (e : ObjectEnvelope) (r : Bytes) (hr : r.length = 2) :
    slice (e.encodeWith r) 10 12 = r := by
  have h := slice_middle (tgdriveMagic ++ toBe 2 1) r (toBe 8 e.objectId ++
    toBe 8 e.generation ++ toBe 8 e.payload.length ++ toBe 4 e.objectSize ++
    Sha256.digest e.payload ++ toBe 4 e.flags ++ e.payload) 10 12
    (by simp only [List.length_append, length_toBe, length_tgdriveMagic]) (by rw [hr])
  simpa only [ObjectEnvelope.encodeWith, ObjectEnvelope.headerWith, List.append_assoc] using h

/-- The bytes of an envelope around its reserved place. -/
theorem encodeWith_eq (e : ObjectEnvelope) (r : Bytes) :
    e.encodeWith r = e.encode.take 10 ++ r ++ e.encode.drop 12 := by
  have hsplit : ∀ q : Bytes, e.encodeWith q = (tgdriveMagic ++ toBe 2 1) ++ q ++
      (toBe 8 e.objectId ++ toBe 8 e.generation ++ toBe 8 e.payload.length ++
        toBe 4 e.objectSize ++ Sha256.digest e.payload ++ toBe 4 e.flags ++ e.payload) := by
    intro q
    simp only [ObjectEnvelope.encodeWith, ObjectEnvelope.headerWith, List.append_assoc]
  have hhead : (tgdriveMagic ++ toBe 2 1).length = 10 := rfl
  have htake : e.encode.take 10 = tgdriveMagic ++ toBe 2 1 := by
    rw [← encodeWith_zero, hsplit, List.append_assoc, ← hhead, List.take_left]
  have hdrop : e.encode.drop 12 = toBe 8 e.objectId ++ toBe 8 e.generation ++
      toBe 8 e.payload.length ++ toBe 4 e.objectSize ++ Sha256.digest e.payload ++
        toBe 4 e.flags ++ e.payload := by
    have hmid : (tgdriveMagic ++ toBe 2 1 ++ toBe 2 0).length = 12 := rfl
    rw [← encodeWith_zero, hsplit, ← hmid, List.drop_left]
  rw [htake, hdrop, hsplit r]

/-- Every envelope is decoded from its encoding. What is decoded carries the
    expected ids and determines the bytes it came from, except the two of the
    reserved place: the bytes accepted for it are its encoding with any two
    bytes there, and so its encoding itself exactly where these are zero. -/
theorem decode_image :
    (∀ e : ObjectEnvelope, e.Fits →
      ObjectEnvelope.decode e.encode e.objectId e.generation = .ok e) ∧
    ∀ (b : Bytes) (id gen : Nat) (e : ObjectEnvelope), ObjectEnvelope.decode b id gen = .ok e →
      e.objectId = id ∧ e.generation = gen ∧
      b = e.encode.take 10 ++ slice b 10 12 ++ e.encode.drop 12 ∧
      (e.encode = b ↔ slice b 10 12 = [0, 0]) ∧
      ∀ b' : Bytes, ObjectEnvelope.decode b' id gen = .ok e ↔
        ∃ reserved : Bytes, reserved.length = 2 ∧
          b' = e.encode.take 10 ++ reserved ++ e.encode.drop 12 := by
  refine ⟨fun e he => decode_encode e he, fun b id gen e h => ?_⟩
  obtain ⟨hid, hgen, hfits, r, hr, rfl⟩ := (decode_iff b id gen e).mp h
  rw [slice_encodeWith e r hr]
  refine ⟨hid, hgen, encodeWith_eq e r, ⟨fun heq => ?_, fun hzero => ?_⟩, fun b' => ?_⟩
  · -- The reserved place of an encoding is written as zeros.
    rw [← slice_encodeWith e r hr, ← heq, ← encodeWith_zero, slice_encodeWith e _ (length_toBe 2 0)]
    rfl
  · rw [hzero]
    rfl
  · rw [decode_iff b' id gen e]
    constructor
    · rintro ⟨_, _, _, r', hr', rfl⟩
      exact ⟨r', hr', encodeWith_eq e r'⟩
    · rintro ⟨r', hr', rfl⟩
      exact ⟨hid, hgen, hfits, r', hr', (encodeWith_eq e r').symm⟩

end Envelope

section Small

attribute [local instance] concreteCrates

/-- An envelope without a payload. -/
def smallEnvelope : ObjectEnvelope :=
  { objectId := 7, generation := 3, objectSize := 4, flags := 0, payload := [] }

theorem fits_smallEnvelope : smallEnvelope.Fits := by
  refine ⟨?_, ?_, ?_, ?_, ?_⟩ <;> decide

theorem decode_image_small :
    ObjectEnvelope.decode smallEnvelope.encode 7 3 = .ok smallEnvelope ∧
    smallEnvelope.encodeWith [0, 1] =
      smallEnvelope.encode.take 10 ++ [0, 1] ++ smallEnvelope.encode.drop 12 := by
  have h := decode_image.1 smallEnvelope fits_smallEnvelope
  have hpadded : ObjectEnvelope.decode (smallEnvelope.encodeWith [0, 1]) 7 3 = .ok smallEnvelope :=
    decode_encodeWith smallEnvelope fits_smallEnvelope [0, 1] rfl
  have hb := (decode_image.2 (smallEnvelope.encodeWith [0, 1]) 7 3 smallEnvelope hpadded).2.2.1
  rw [slice_encodeWith smallEnvelope [0, 1] rfl] at hb
  exact ⟨h, hb⟩

/-- Bytes that are accepted and are no encoding: there is a one in the
    reserved place. -/
theorem decode_not_image :
    ¬∀ (b : Bytes) (id gen : Nat) (e : ObjectEnvelope), ObjectEnvelope.decode b id gen = .ok e →
      e.objectId = id ∧ e.generation = gen ∧ e.encode = b := by
  intro h
  have hpadded : ObjectEnvelope.decode (smallEnvelope.encodeWith [0, 1]) 7 3 = .ok smallEnvelope :=
    decode_encodeWith smallEnvelope fits_smallEnvelope [0, 1] rfl
  have heq := (h _ 7 3 smallEnvelope hpadded).2.2
  have hplace := slice_encodeWith smallEnvelope [0, 1] rfl
  rw [← heq, ← encodeWith_zero, slice_encodeWith smallEnvelope _ (length_toBe 2 0)] at hplace
  exact absurd hplace (by decide)

end Small

section Checked

variable [Sha256]

/-- The decoder with everything in it that can panic. -/
def ObjectEnvelope.decodeChecked (bytes : Bytes) (expectedObjectId expectedGeneration : Nat) :
    Except Panic (Except FormatError ObjectEnvelope) := do
  if bytes.length < objectHeaderLen then .ok (.error .truncated)
  else do
    let magic ← checkedSlice bytes 0 8
    if magic ≠ tgdriveMagic then .ok (.error .invalidMagic)
    else do
      let version ← checkedInt bytes 8 10 2
      if version ≠ 1 then .ok (.error (.unsupportedVersion version))
      else do
        let objectId ← checkedInt bytes 12 20 8
        if objectId ≠ expectedObjectId then
          .ok (.error (.objectIdMismatch expectedObjectId objectId))
        else do
          let generation ← checkedInt bytes 20 28 8
          if generation ≠ expectedGeneration then
            .ok (.error (.generationMismatch expectedGeneration generation))
          else do
            let payloadLen ← checkedInt bytes 28 36 8
            let objectSize ← checkedInt bytes 36 40 4
            let checksum ← checkedSlice bytes 40 72
            let flags ← checkedInt bytes 72 76 4
            let total ← addUsize objectHeaderLen payloadLen
            if bytes.length ≠ total then .ok (.error .payloadLengthMismatch)
            else do
              let payload ← checkedDrop bytes objectHeaderLen
              if Sha256.digest payload ≠ checksum then .ok (.error .checksumMismatch)
              else .ok (.ok {
                objectId := objectId
                generation := generation
                objectSize := objectSize
                flags := flags
                payload := payload })

/-- How the answer of the decoder is returned, or the program stopped. -/
def ObjectEnvelope.outcome :
    Except DecodeFailure ObjectEnvelope → Except Panic (Except FormatError ObjectEnvelope)
  | .ok e => .ok (.ok e)
  | .error (.format failure) => .ok (.error failure)
  | .error .overflow => .error .overflow

omit [Sha256] in
@[simp] theorem outcome_ok (e : ObjectEnvelope) :
    ObjectEnvelope.outcome (.ok e) = .ok (.ok e) := rfl

omit [Sha256] in
@[simp] theorem outcome_format (x : FormatError) :
    ObjectEnvelope.outcome (.error (.format x)) = .ok (.error x) := rfl

omit [Sha256] in
@[simp] theorem outcome_overflow :
    ObjectEnvelope.outcome (.error .overflow) = .error .overflow := rfl

/-- The two decoders agree: behind the check of the length every slice is in
    range and as long as its array, so only the addition can panic. -/
theorem decodeChecked_eq (b : Bytes) (id gen : Nat) :
    ObjectEnvelope.decodeChecked b id gen =
      ObjectEnvelope.outcome (ObjectEnvelope.decode b id gen) := by
  unfold ObjectEnvelope.decodeChecked ObjectEnvelope.decode
  by_cases hlen : b.length < objectHeaderLen
  · rw [if_pos hlen, if_pos hlen]
    rfl
  · have hb : 76 ≤ b.length := Nat.le_of_not_lt hlen
    rw [if_neg hlen, if_neg hlen, checkedSlice_inside b 0 8 (by omega) (by omega),
      checkedInt_inside b 8 10 2 (by omega) (by omega) rfl,
      checkedInt_inside b 12 20 8 (by omega) (by omega) rfl,
      checkedInt_inside b 20 28 8 (by omega) (by omega) rfl,
      checkedInt_inside b 28 36 8 (by omega) (by omega) rfl,
      checkedInt_inside b 36 40 4 (by omega) (by omega) rfl,
      checkedSlice_inside b 40 72 (by omega) (by omega),
      checkedInt_inside b 72 76 4 (by omega) (by omega) rfl]
    simp only [ok_bind, addUsize, checkedDrop, if_pos (show objectHeaderLen ≤ b.length from hb)]
    by_cases hover : 2 ^ 64 ≤ objectHeaderLen + fromBe (slice b 28 36)
    · rw [if_neg (Nat.not_lt_of_le hover), if_pos hover]
      simp only [apply_ite ObjectEnvelope.outcome, outcome_format, outcome_overflow, error_bind]
    · rw [if_pos (Nat.lt_of_not_le hover), if_neg hover]
      simp only [apply_ite ObjectEnvelope.outcome, outcome_format, outcome_ok, ok_bind]

/-- Bytes with a header that is right up to a length field so great that the
    length of the header cannot be added to it. -/
def Overlong (b : Bytes) (id gen : Nat) : Prop :=
  objectHeaderLen ≤ b.length ∧ slice b 0 8 = tgdriveMagic ∧ fromBe (slice b 8 10) = 1 ∧
    fromBe (slice b 12 20) = id ∧ fromBe (slice b 20 28) = gen ∧
    2 ^ 64 - objectHeaderLen ≤ fromBe (slice b 28 36)

theorem decode_overflow_iff (b : Bytes) (id gen : Nat) :
    ObjectEnvelope.decode b id gen = .error .overflow ↔ Overlong b id gen := by
  have hhead : objectHeaderLen ≤ 2 ^ 64 := by decide
  unfold ObjectEnvelope.decode Overlong
  by_cases h1 : b.length < objectHeaderLen
  · simp only [if_pos h1, Except.error.injEq, reduceCtorEq, false_iff, not_and]
    omega
  by_cases h2 : slice b 0 8 = tgdriveMagic
  case neg => simp [h1, h2]
  by_cases h3 : fromBe (slice b 8 10) = 1
  case neg => simp [h1, h2, h3]
  by_cases h4 : fromBe (slice b 12 20) = id
  case neg => simp [h1, h2, h3, h4]
  by_cases h5 : fromBe (slice b 20 28) = gen
  case neg => simp [h1, h2, h3, h4, h5]
  by_cases h6 : 2 ^ 64 ≤ objectHeaderLen + fromBe (slice b 28 36)
  · simp [h1, h2, h3, h4, h5]
    omega
  · have hsmall : ¬2 ^ 64 - objectHeaderLen ≤ fromBe (slice b 28 36) := by omega
    simp only [h1, h2, h3, h4, h5, h6, hsmall, if_false, ne_eq, not_true_eq_false, and_false,
      iff_false]
    split
    · simp
    · split <;> simp

/-- The decoder answers, with an envelope exactly where the bytes are an
    encoding and an error of the format elsewhere, on all bytes but those
    whose length field is too great to be added to the length of the header. -/
theorem decode_safe_iff (b : Bytes) (id gen : Nat) :
    (∃ answer : Except FormatError ObjectEnvelope,
      ObjectEnvelope.decodeChecked b id gen = .ok answer ∧
      ∀ e : ObjectEnvelope, answer = .ok e ↔
        e.objectId = id ∧ e.generation = gen ∧ e.Fits ∧
          ∃ reserved : Bytes, reserved.length = 2 ∧ b = e.encodeWith reserved) ↔
      ¬Overlong b id gen := by
  rw [decodeChecked_eq, ← decode_overflow_iff]
  simp only [← decode_iff]
  cases h : ObjectEnvelope.decode b id gen with
  | ok e => simp [ObjectEnvelope.outcome]
  | error failure =>
      cases failure with
      | format x => simp [ObjectEnvelope.outcome]
      | overflow => simp [ObjectEnvelope.outcome]

end Checked

section Small

attribute [local instance] concreteCrates

/-- A header whose length field has all its bits set. -/
def overlongBytes : Bytes :=
  tgdriveMagic ++ toBe 2 1 ++ toBe 2 0 ++ toBe 8 7 ++ toBe 8 3 ++ toBe 8 (2 ^ 64 - 1) ++
    toBe 4 4 ++ List.replicate 32 0 ++ toBe 4 0

theorem decode_overflows :
    ¬∃ answer : Except FormatError ObjectEnvelope,
      ObjectEnvelope.decodeChecked overlongBytes 7 3 = .ok answer := by
  have hover : Overlong overlongBytes 7 3 := by
    refine ⟨?_, ?_, ?_, ?_, ?_, ?_⟩ <;> decide
  rintro ⟨answer, h⟩
  rw [decodeChecked_eq, (decode_overflow_iff overlongBytes 7 3).mpr hover] at h
  cases h

end Small

end TgDrive
