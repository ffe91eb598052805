import TgDrive.Core.Format

/-!
# Round Trips of the Stored Formats

What survives being written and read back. The envelope decodes to itself as
long as its fields fit their widths, and whatever an encoded envelope decodes
to has the payload that was put in. The second form asks nothing of the
widths: it is the one a caller uses that has just seen the decoding succeed.

For the tree encoding the leaves cut from a manifest, read in any order that
sorts to theirs, put the manifest back together.

## Main definitions

* `Manifest.Canonical`: The shape of a manifest the program builds.
* `Manifest.treeRoot`: The root of a manifest over references to its leaves.

## Theorems

* `length_header`: The header has its declared length.
* `decode_encodeWith`, `decode_encode`: Decoding undoes encoding.
* `payload_of_decode_encode`: What is decoded has the encoded payload.
* `decode_ok`: What is decoded carries the expected ids.
* `collectLeaves_treeLeaves`: The leaves of a manifest collect to its objects.
* `fromTree_treeLeaves`: A manifest is rebuilt from its root and leaves.
-/

namespace TgDrive

open Data

theorem length_tgdriveMagic : tgdriveMagic.length = 8 := rfl

/-- A slice of three consecutive pieces at the bounds of the middle one. -/
theorem slice_middle (a b c : Bytes) (i j : Nat) (hi : a.length = i) (hj : i + b.length = j) :
    slice (a ++ b ++ c) i j = b := by
  rw [slice, List.append_assoc, ← hi, List.drop_left, hi]
  have hlen : j - i = b.length := by omega
  rw [hlen, List.take_left]

section Envelope

variable [Sha256]

/-- The header with given bytes in the place that is reserved. -/
def ObjectEnvelope.headerWith (e : ObjectEnvelope) (reserved : Bytes) : Bytes :=
  tgdriveMagic ++ toBe 2 1 ++ reserved ++ toBe 8 e.objectId ++ toBe 8 e.generation ++
    toBe 8 e.payload.length ++ toBe 4 e.objectSize ++ Sha256.digest e.payload ++ toBe 4 e.flags

/-- The bytes of an envelope with given bytes in the place that is reserved. -/
def ObjectEnvelope.encodeWith (e : ObjectEnvelope) (reserved : Bytes) : Bytes :=
  e.headerWith reserved ++ e.payload

theorem encodeWith_zero (e : ObjectEnvelope) : e.encodeWith (toBe 2 0) = e.encode := rfl

theorem length_headerWith (e : ObjectEnvelope) (r : Bytes) (hr : r.length = 2) :
    (e.headerWith r).length = objectHeaderLen := by
  simp only [ObjectEnvelope.headerWith, List.length_append, length_toBe, length_tgdriveMagic,
    Sha256.length_digest, hr, objectHeaderLen]

theorem length_encodeWith (e : ObjectEnvelope) (r : Bytes) (hr : r.length = 2) :
    (e.encodeWith r).length = objectHeaderLen + e.payload.length := by
  rw [ObjectEnvelope.encodeWith, List.length_append, length_headerWith e r hr]

theorem drop_encodeWith (e : ObjectEnvelope) (r : Bytes) (hr : r.length = 2) :
    (e.encodeWith r).drop objectHeaderLen = e.payload := by
  rw [ObjectEnvelope.encodeWith, ← length_headerWith e r hr, List.drop_left]

theorem length_header (e : ObjectEnvelope) : e.header.length = objectHeaderLen :=
  length_headerWith e (toBe 2 0) (length_toBe 2 0)

theorem length_encode (e : ObjectEnvelope) :
    e.encode.length = objectHeaderLen + e.payload.length :=
  length_encodeWith e (toBe 2 0) (length_toBe 2 0)

theorem drop_encode (e : ObjectEnvelope) : e.encode.drop objectHeaderLen = e.payload :=
  drop_encodeWith e (toBe 2 0) (length_toBe 2 0)

/-- The fields of an encoded envelope, read at the offsets the decoder uses. -/
theorem slices_encodeWith (e : ObjectEnvelope) (r : Bytes) (hr : r.length = 2) :
    slice (e.encodeWith r) 0 8 = tgdriveMagic ∧ slice (e.encodeWith r) 8 10 = toBe 2 1 ∧
    slice (e.encodeWith r) 12 20 = toBe 8 e.objectId ∧ slice (e.encodeWith r) 20 28 = toBe 8 e.generation ∧
    slice (e.encodeWith r) 28 36 = toBe 8 e.payload.length ∧
    slice (e.encodeWith r) 36 40 = toBe 4 e.objectSize ∧
    slice (e.encodeWith r) 40 72 = Sha256.digest e.payload ∧
    slice (e.encodeWith r) 72 76 = toBe 4 e.flags := by
  have hd := Sha256.length_digest e.payload
  refine ⟨?_, ?_, ?_, ?_, ?_, ?_, ?_, ?_⟩
  · have h := slice_middle [] tgdriveMagic (toBe 2 1 ++ r ++ toBe 8 e.objectId ++
      toBe 8 e.generation ++ toBe 8 e.payload.length ++ toBe 4 e.objectSize ++
      Sha256.digest e.payload ++ toBe 4 e.flags ++ e.payload) 0 8 rfl rfl
    simpa only [ObjectEnvelope.encodeWith, ObjectEnvelope.headerWith, List.append_assoc,
      List.nil_append] using h
  · have h := slice_middle tgdriveMagic (toBe 2 1) (r ++ toBe 8 e.objectId ++
      toBe 8 e.generation ++ toBe 8 e.payload.length ++ toBe 4 e.objectSize ++
      Sha256.digest e.payload ++ toBe 4 e.flags ++ e.payload) 8 10 rfl
      (by simp only [length_toBe])
    simpa only [ObjectEnvelope.encodeWith, ObjectEnvelope.headerWith, List.append_assoc] using h
  · have h := slice_middle (tgdriveMagic ++ toBe 2 1 ++ r) (toBe 8 e.objectId)
      (toBe 8 e.generation ++ toBe 8 e.payload.length ++ toBe 4 e.objectSize ++
      Sha256.digest e.payload ++ toBe 4 e.flags ++ e.payload) 12 20
      (by simp only [List.length_append, length_toBe, length_tgdriveMagic, hr])
      (by simp only [length_toBe])
    simpa only [ObjectEnvelope.encodeWith, ObjectEnvelope.headerWith, List.append_assoc] using h
  · have h := slice_middle (tgdriveMagic ++ toBe 2 1 ++ r ++ toBe 8 e.objectId)
      (toBe 8 e.generation)
      (toBe 8 e.payload.length ++ toBe 4 e.objectSize ++
      Sha256.digest e.payload ++ toBe 4 e.flags ++ e.payload) 20 28
      (by simp only [List.length_append, length_toBe, length_tgdriveMagic, hr])
      (by simp only [length_toBe])
    simpa only [ObjectEnvelope.encodeWith, ObjectEnvelope.headerWith, List.append_assoc] using h
  · have h := slice_middle (tgdriveMagic ++ toBe 2 1 ++ r ++ toBe 8 e.objectId ++
      toBe 8 e.generation) (toBe 8 e.payload.length)
      (toBe 4 e.objectSize ++ Sha256.digest e.payload ++ toBe 4 e.flags ++ e.payload) 28 36
      (by simp only [List.length_append, length_toBe, length_tgdriveMagic, hr])
      (by simp only [length_toBe])
    simpa only [ObjectEnvelope.encodeWith, ObjectEnvelope.headerWith, List.append_assoc] using h
  · have h := slice_middle (tgdriveMagic ++ toBe 2 1 ++ r ++ toBe 8 e.objectId ++
      toBe 8 e.generation ++ toBe 8 e.payload.length) (toBe 4 e.objectSize)
      (Sha256.digest e.payload ++ toBe 4 e.flags ++ e.payload) 36 40
      (by simp only [List.length_append, length_toBe, length_tgdriveMagic, hr])
      (by simp only [length_toBe])
    simpa only [ObjectEnvelope.encodeWith, ObjectEnvelope.headerWith, List.append_assoc] using h
  · have h := slice_middle (tgdriveMagic ++ toBe 2 1 ++ r ++ toBe 8 e.objectId ++
      toBe 8 e.generation ++ toBe 8 e.payload.length ++ toBe 4 e.objectSize)
      (Sha256.digest e.payload) (toBe 4 e.flags ++ e.payload) 40 72
      (by simp only [List.length_append, length_toBe, length_tgdriveMagic, hr])
      (by rw [hd])
    simpa only [ObjectEnvelope.encodeWith, ObjectEnvelope.headerWith, List.append_assoc] using h
  · have h := slice_middle (tgdriveMagic ++ toBe 2 1 ++ r ++ toBe 8 e.objectId ++
      toBe 8 e.generation ++ toBe 8 e.payload.length ++ toBe 4 e.objectSize ++
      Sha256.digest e.payload) (toBe 4 e.flags) e.payload 72 76
      (by simp only [List.length_append, length_toBe, length_tgdriveMagic, hr, hd])
      (by simp only [length_toBe])
    simpa only [ObjectEnvelope.encodeWith, ObjectEnvelope.headerWith, List.append_assoc] using h

/-- The widths of the fields of an envelope. -/
structure ObjectEnvelope.Fits (e : ObjectEnvelope) : Prop where
  objectId : e.objectId < 2 ^ 64
  generation : e.generation < 2 ^ 64
  objectSize : e.objectSize < 2 ^ 32
  flags : e.flags < 2 ^ 32
  length : objectHeaderLen + e.payload.length < 2 ^ 64

/-- Decoding undoes encoding, for an envelope whose fields fit and whatever
    stands in the reserved place. -/
theorem decode_encodeWith (e : ObjectEnvelope) (h : e.Fits) (r : Bytes) (hr : r.length = 2) :
    ObjectEnvelope.decode (e.encodeWith r) e.objectId e.generation = .ok e := by
  rcases slices_encodeWith e r hr with ⟨h0, h8, h12, h20, h28, h36, h40, h72⟩
  have hlen := length_encodeWith e r hr
  have hid : fromBe (slice (e.encodeWith r) 12 20) = e.objectId := by
    rw [h12, fromBe_toBe, Nat.mod_eq_of_lt (by have := h.objectId; omega)]
  have hgen : fromBe (slice (e.encodeWith r) 20 28) = e.generation := by
    rw [h20, fromBe_toBe, Nat.mod_eq_of_lt (by have := h.generation; omega)]
  have hpl : fromBe (slice (e.encodeWith r) 28 36) = e.payload.length := by
    rw [h28, fromBe_toBe, Nat.mod_eq_of_lt (by have := h.length; omega)]
  have hsz : fromBe (slice (e.encodeWith r) 36 40) = e.objectSize := by
    rw [h36, fromBe_toBe, Nat.mod_eq_of_lt (by have := h.objectSize; omega)]
  have hfl : fromBe (slice (e.encodeWith r) 72 76) = e.flags := by
    rw [h72, fromBe_toBe, Nat.mod_eq_of_lt (by have := h.flags; omega)]
  have hver : fromBe (slice (e.encodeWith r) 8 10) = 1 := by
    rw [h8, fromBe_toBe]
    rfl
  unfold ObjectEnvelope.decode
  rw [if_neg (by omega), if_neg (not_not_intro h0), if_neg (not_not_intro hver), hid, hgen, hpl,
    hsz, hfl, if_neg (not_not_intro rfl), if_neg (not_not_intro rfl),
    if_neg (by have := h.length; omega), if_neg (not_not_intro hlen), drop_encodeWith e r hr, h40,
    if_neg (not_not_intro rfl)]

/-- Decoding undoes encoding, for an envelope whose fields fit. -/
theorem decode_encode (e : ObjectEnvelope) (h : e.Fits) :
    ObjectEnvelope.decode e.encode e.objectId e.generation = .ok e :=
  decode_encodeWith e h (toBe 2 0) (length_toBe 2 0)

/-- Everything a successful decoding has established. -/
theorem decode_ok (b : Bytes) (id gen : Nat) (e : ObjectEnvelope)
    (h : ObjectEnvelope.decode b id gen = .ok e) :
    e.objectId = id ∧ e.generation = gen ∧ e.payload = b.drop objectHeaderLen := by
  unfold ObjectEnvelope.decode at h
  have h1 := ite_error_eq_ok _ _ _ e h
  have h2 := ite_error_eq_ok _ _ _ e h1.2
  have h3 := ite_error_eq_ok _ _ _ e h2.2
  have h4 := ite_error_eq_ok _ _ _ e h3.2
  have h5 := ite_error_eq_ok _ _ _ e h4.2
  have h6 := ite_error_eq_ok _ _ _ e h5.2
  have h7 := ite_error_eq_ok _ _ _ e h6.2
  have h8 := ite_error_eq_ok _ _ _ e h7.2
  rw [← Except.ok.inj h8.2]
  exact ⟨not_not.mp h4.1, not_not.mp h5.1, rfl⟩

/-- What an encoded envelope decodes to has the payload that was put in,
    whatever the widths of its fields. -/
theorem payload_of_decode_encode (e e' : ObjectEnvelope) (id gen : Nat)
    (h : ObjectEnvelope.decode e.encode id gen = .ok e') : e'.payload = e.payload := by
  rw [(decode_ok _ id gen e' h).2.2, drop_encode]

end Envelope

/-- The shape of every manifest the program builds: the fixed texts, and the
    objects numbered from zero without gaps. -/
structure Manifest.Canonical (m : Manifest) : Prop where
  magic : m.magic = "TGDRIVE_MANIFEST"
  version : m.formatVersion = 1
  count : m.objects.length = m.objectCount
  ids : m.objects.map (fun object => object.objectId) = List.range m.objects.length

/-- The root of a manifest over references to its leaves. -/
def Manifest.treeRoot (m : Manifest) (leaves : List ManifestTreeLeafRef) : ManifestTreeRoot :=
  { magic := "TGDRIVE_MANIFEST_ROOT"
    formatVersion := 1
    deviceUuid := m.deviceUuid
    generation := m.generation
    objectSize := m.objectSize
    objectCount := m.objectCount
    leafSpan := manifestTreeLeafSpan
    leaves := leaves
    garbage := m.garbage }

/-- Leaves numbered from `i` on, one for each run of objects, collect to the
    runs put back together. -/
theorem collectLeaves_treeLeaf (m : Manifest) (refs : List ManifestTreeLeafRef) :
    ∀ (runs : List (List ManifestObject)) (i : Nat),
      collectLeaves (m.treeRoot refs) i (runs.mapIdx (fun j objects => m.treeLeaf (i + j) objects))
        = .ok runs.flatten := by
  intro runs
  induction runs with
  | nil => intro i; rfl
  | cons run rest ih =>
      intro i
      have hshift : rest.mapIdx (fun j objects => m.treeLeaf (i + (j + 1)) objects)
          = rest.mapIdx (fun j objects => m.treeLeaf (i + 1 + j) objects) := by
        congr 1
        funext j objects
        rw [show i + (j + 1) = i + 1 + j by omega]
      rw [List.mapIdx_cons, hshift, Nat.add_zero]
      simp only [collectLeaves, Manifest.treeLeaf, Manifest.treeRoot, ne_eq, not_true_eq_false,
        if_false]
      have hrec := ih (i + 1)
      simp only [Manifest.treeLeaf, Manifest.treeRoot] at hrec
      rw [hrec, List.flatten_cons]

theorem collectLeaves_treeLeaves (m : Manifest) (refs : List ManifestTreeLeafRef) (span : Nat)
    (hspan : 0 < span) :
    collectLeaves (m.treeRoot refs) 0 (m.treeLeaves span) = .ok m.objects := by
  have h := collectLeaves_treeLeaf m refs (chunks span m.objects) 0
  simp only [Nat.zero_add] at h
  rw [Manifest.treeLeaves, h, flatten_chunks span hspan]

/-- The leaves of a manifest come sorted. -/
theorem sorted_treeLeaf (m : Manifest) : ∀ (runs : List (List ManifestObject)) (i : Nat),
    (runs.mapIdx (fun j objects => m.treeLeaf (i + j) objects)).Pairwise
      (fun a b => a.leafIndex ≤ b.leafIndex) := by
  intro runs
  induction runs with
  | nil => intro i; exact List.Pairwise.nil
  | cons run rest ih =>
      intro i
      have hshift : rest.mapIdx (fun j objects => m.treeLeaf (i + (j + 1)) objects)
          = rest.mapIdx (fun j objects => m.treeLeaf (i + 1 + j) objects) := by
        congr 1
        funext j objects
        rw [show i + (j + 1) = i + 1 + j by omega]
      rw [List.mapIdx_cons, hshift, List.pairwise_cons]
      refine ⟨fun leaf hleaf => ?_, ih (i + 1)⟩
      rcases List.mem_mapIdx.mp hleaf with ⟨j, _, rfl⟩
      simp only [Manifest.treeLeaf]
      omega

theorem insertionSort_treeLeaves (m : Manifest) (span : Nat) :
    (m.treeLeaves span).insertionSort (fun a b => a.leafIndex ≤ b.leafIndex)
      = m.treeLeaves span := by
  have h := sorted_treeLeaf m (chunks span m.objects) 0
  simp only [Nat.zero_add] at h
  exact h.insertionSort_eq

/-- A manifest is rebuilt from its root and its leaves. -/
theorem fromTree_treeLeaves (m : Manifest) (hm : m.Canonical) (refs : List ManifestTreeLeafRef)
    (span : Nat) (hspan : 0 < span) :
    Manifest.fromTreeRootAndLeaves (m.treeRoot refs) (m.treeLeaves span) = .ok m := by
  rw [Manifest.fromTreeRootAndLeaves, insertionSort_treeLeaves,
    collectLeaves_treeLeaves m refs span hspan]
  simp only [Manifest.treeRoot, hm.count, hm.ids, ne_eq, not_true_eq_false, if_false]
  rw [← hm.magic, ← hm.version]

end TgDrive
