import TgDrive.Core.RoundTrip

/-!
# Putting a Manifest Back Together

The leaves of a manifest may come in any order, and some may be missing or
come twice. They are sorted by their index, and the indices have to be those
of the places: so the list that is accepted is a front part of the leaves of
the manifest. The count of the objects then asks for all of them, since no
leaf is empty.

## Main definitions

* `Manifest.rootOver`: A root of a manifest, whatever its span and references.

## Theorems

* `collectLeaves_ok`: What the leaves of a list that is accepted are.
* `eq_take_treeLeaves`: Leaves whose indices are their places.
* `fromTree_foreign`: A leaf of another generation or device is refused.
* `fromTree_iff`: Exactly the full set of leaves is accepted.
-/

namespace TgDrive

open Data

/-- The order in which leaves are put back together. -/
abbrev sortedLeaves (leaves : List ManifestTreeLeaf) : List ManifestTreeLeaf :=
  leaves.insertionSort (fun a b => a.leafIndex ≤ b.leafIndex)

/-- A root built from a manifest, with any references and any span. -/
def Manifest.rootOver (m : Manifest) (refs : List ManifestTreeLeafRef) (leafSpan : Nat) :
    ManifestTreeRoot :=
  { m.treeRoot refs with leafSpan := leafSpan }

/-- Leaves are checked against the device and the generation of the root. -/
theorem collectLeaves_congr (root root' : ManifestTreeRoot)
    (huuid : root.deviceUuid = root'.deviceUuid) (hgen : root.generation = root'.generation)
    (leaves : List ManifestTreeLeaf) :
    ∀ i : Nat, collectLeaves root i leaves = collectLeaves root' i leaves := by
  induction leaves with
  | nil => intro i; rfl
  | cons leaf rest ih =>
      intro i
      rw [collectLeaves, collectLeaves, huuid, hgen, ih (i + 1)]

theorem fromTree_rootOver (m : Manifest) (refs : List ManifestTreeLeafRef) (leafSpan : Nat)
    (leaves : List ManifestTreeLeaf) :
    Manifest.fromTreeRootAndLeaves (m.rootOver refs leafSpan) leaves =
      Manifest.fromTreeRootAndLeaves (m.treeRoot refs) leaves := by
  rw [Manifest.fromTreeRootAndLeaves, Manifest.fromTreeRootAndLeaves,
    collectLeaves_congr (m.rootOver refs leafSpan) (m.treeRoot refs) rfl rfl]
  rfl

/-- Everything the checks of an accepted list have established: each leaf is
    of the root and stands where its index says, and the answer holds their
    objects in this order. -/
theorem collectLeaves_ok (root : ManifestTreeRoot) :
    ∀ (leaves : List ManifestTreeLeaf) (i : Nat) (objects : List ManifestObject),
      collectLeaves root i leaves = .ok objects →
        objects = leaves.flatMap (fun leaf => leaf.objects) ∧
        ∀ (j : Nat) (leaf : ManifestTreeLeaf), leaves[j]? = some leaf →
          leaf.leafIndex = i + j ∧ leaf.deviceUuid = root.deviceUuid ∧
            leaf.generation = root.generation := by
  intro leaves
  induction leaves with
  | nil =>
      intro i objects h
      rw [collectLeaves, Except.ok.injEq] at h
      refine ⟨h.symm, fun j leaf hleaf => ?_⟩
      rw [List.getElem?_nil] at hleaf
      cases hleaf
  | cons leaf rest ih =>
      intro i objects h
      rw [collectLeaves] at h
      have h1 := ite_error_eq_ok _ _ _ _ h
      have h2 := ite_error_eq_ok _ _ _ _ h1.2
      have h3 := ite_error_eq_ok _ _ _ _ h2.2
      have h4 := ite_error_eq_ok _ _ _ _ h3.2
      have h5 := ite_error_eq_ok _ _ _ _ h4.2
      cases hrest : collectLeaves root (i + 1) rest with
      | error msg =>
          have hbad := h5.2
          rw [hrest] at hbad
          cases hbad
      | ok tail =>
          have hok := h5.2
          rw [hrest] at hok
          obtain ⟨htail, hplaces⟩ := ih (i + 1) tail hrest
          refine ⟨?_, fun j leaf' hleaf => ?_⟩
          · rw [← Except.ok.inj hok, htail, List.flatMap_cons]
          · cases j with
            | zero =>
                rw [List.getElem?_cons_zero, Option.some.injEq] at hleaf
                rw [← hleaf]
                exact ⟨not_not.mp h5.1, not_not.mp h3.1, not_not.mp h4.1⟩
            | succ k =>
                rw [List.getElem?_cons_succ] at hleaf
                obtain ⟨hindex, hroot⟩ := hplaces k leaf' hleaf
                exact ⟨by omega, hroot⟩

/-- The list that is sorted before it is checked. -/
theorem fromTree_ok (root : ManifestTreeRoot) (leaves : List ManifestTreeLeaf) (m : Manifest)
    (h : Manifest.fromTreeRootAndLeaves root leaves = .ok m) :
    collectLeaves root 0 (sortedLeaves leaves) = .ok m.objects ∧
      m.objects.length = root.objectCount ∧ m.objectCount = root.objectCount ∧
      m.objects.map (fun object => object.objectId) = List.range m.objects.length ∧
      m.generation = root.generation ∧ m.objectSize = root.objectSize := by
  rw [Manifest.fromTreeRootAndLeaves] at h
  cases hcollect : collectLeaves root 0 (sortedLeaves leaves) with
  | error msg =>
      rw [hcollect] at h
      cases h
  | ok objects =>
      rw [hcollect] at h
      have h1 := ite_error_eq_ok _ _ _ _ h
      have h2 := ite_error_eq_ok _ _ _ _ h1.2
      rw [← Except.ok.inj h2.2]
      exact ⟨rfl, not_not.mp h1.1, rfl, not_not.mp h2.1, rfl, rfl⟩

/-- A list with a leaf of another device or generation is refused. -/
theorem fromTree_foreign (root : ManifestTreeRoot) (leaves : List ManifestTreeLeaf)
    (leaf : ManifestTreeLeaf) (hleaf : leaf ∈ leaves)
    (hforeign : leaf.deviceUuid ≠ root.deviceUuid ∨ leaf.generation ≠ root.generation) :
    ∃ msg, Manifest.fromTreeRootAndLeaves root leaves = .error msg := by
  cases h : Manifest.fromTreeRootAndLeaves root leaves with
  | error msg => exact ⟨msg, rfl⟩
  | ok m =>
      exfalso
      have hplaces := (collectLeaves_ok root _ 0 _ (fromTree_ok root leaves m h).1).2
      have hsorted : leaf ∈ sortedLeaves leaves :=
        (List.perm_insertionSort _ leaves).symm.subset hleaf
      obtain ⟨j, hj⟩ := List.getElem?_of_mem hsorted
      obtain ⟨_, huuid, hgen⟩ := hplaces j leaf hj
      rcases hforeign with hne | hne
      · exact hne huuid
      · exact hne hgen

/-- The leaf at a place of a manifest's leaves. -/
theorem getElem?_treeLeaves (m : Manifest) (span j : Nat) :
    (m.treeLeaves span)[j]? = ((chunks span m.objects)[j]?).map (m.treeLeaf j) := by
  rw [Manifest.treeLeaves, List.getElem?_mapIdx]

/-- A leaf stands where its index says. -/
theorem treeLeaves_index (m : Manifest) (span : Nat) (leaf : ManifestTreeLeaf)
    (h : leaf ∈ m.treeLeaves span) : (m.treeLeaves span)[leaf.leafIndex]? = some leaf := by
  obtain ⟨j, hj⟩ := List.getElem?_of_mem h
  have hplace := hj
  rw [getElem?_treeLeaves] at hplace
  obtain ⟨objects, _, hleaf⟩ := Option.map_eq_some_iff.mp hplace
  have hindex : leaf.leafIndex = j := by rw [← hleaf, Manifest.treeLeaf]
  rw [hindex]
  exact hj

theorem objects_treeLeaves (m : Manifest) (span : Nat) :
    (m.treeLeaves span).map (fun leaf => leaf.objects) = chunks span m.objects := by
  apply List.ext_getElem?
  intro j
  rw [List.getElem?_map, getElem?_treeLeaves, Option.map_map]
  have hid : (fun leaf : ManifestTreeLeaf => leaf.objects) ∘ m.treeLeaf j = id := rfl
  rw [hid, Option.map_id, id_eq]

/-- Leaves of a manifest whose indices are their places are the first ones of
    its leaves. -/
theorem eq_take_treeLeaves (m : Manifest) (span : Nat) (leaves : List ManifestTreeLeaf)
    (hmem : ∀ leaf ∈ leaves, leaf ∈ m.treeLeaves span)
    (hplaces : ∀ (j : Nat) (leaf : ManifestTreeLeaf), leaves[j]? = some leaf →
      leaf.leafIndex = j) :
    leaves = (m.treeLeaves span).take leaves.length := by
  apply List.ext_getElem?
  intro j
  by_cases hj : j < leaves.length
  · have hleaf : leaves[j]? = some leaves[j] := List.getElem?_eq_getElem hj
    have hindex := treeLeaves_index m span leaves[j] (hmem _ (List.getElem_mem hj))
    rw [hplaces j _ hleaf] at hindex
    rw [hleaf, List.getElem?_take_of_lt hj, hindex]
  · rw [List.getElem?_eq_none (by omega), List.getElem?_eq_none]
    rw [List.length_take]
    omega

/-- A front part of the runs of a list with as many elements as the list is
    all of its runs. -/
theorem take_chunks_full {α : Type} (n : Nat) (hn : 0 < n) (l : List α) (k : Nat)
    (h : ((chunks n l).take k).flatten.length = l.length) :
    (chunks n l).take k = chunks n l := by
  have hsplit : ((chunks n l).take k).flatten ++ ((chunks n l).drop k).flatten = l := by
    rw [← List.flatten_append, List.take_append_drop, flatten_chunks n hn]
  have hlen := congrArg List.length hsplit
  rw [List.length_append] at hlen
  have hrest : ((chunks n l).drop k).flatten = [] := by
    apply List.eq_nil_of_length_eq_zero
    omega
  have hnil : (chunks n l).drop k = [] := by
    apply List.eq_nil_iff_forall_not_mem.mpr
    intro c hc
    exact ne_nil_of_mem_chunks n hn l c (List.mem_of_mem_drop hc)
      (List.flatten_eq_nil_iff.mp hrest c hc)
  conv => rhs; rw [← List.take_append_drop k (chunks n l), hnil, List.append_nil]

/-- Leaves of a manifest that are accepted are all of its leaves. -/
theorem perm_of_fromTree (m : Manifest) (hm : m.Canonical) (refs : List ManifestTreeLeafRef)
    (span : Nat) (hspan : 0 < span) (leaves : List ManifestTreeLeaf)
    (hmem : ∀ leaf ∈ leaves, leaf ∈ m.treeLeaves span) (m' : Manifest)
    (h : Manifest.fromTreeRootAndLeaves (m.treeRoot refs) leaves = .ok m') :
    leaves.Perm (m.treeLeaves span) := by
  have hperm : (sortedLeaves leaves).Perm leaves := List.perm_insertionSort _ leaves
  obtain ⟨hcollect, hcount, _⟩ := fromTree_ok (m.treeRoot refs) leaves m' h
  obtain ⟨hobjects, hplaces⟩ := collectLeaves_ok _ _ 0 _ hcollect
  have hfront := eq_take_treeLeaves m span (sortedLeaves leaves)
    (fun leaf hleaf => hmem leaf (hperm.subset hleaf))
    (fun j leaf hleaf => by rw [(hplaces j leaf hleaf).1, Nat.zero_add])
  -- The objects of the front part are as many as those of the manifest.
  have hfull : ((chunks span m.objects).take (sortedLeaves leaves).length).flatten.length =
      m.objects.length := by
    rw [← objects_treeLeaves m span, ← List.map_take, ← hfront, ← List.flatMap_def, ← hobjects,
      hcount, hm.count]
    rfl
  have htake := take_chunks_full span hspan m.objects _ hfull
  have hall : (m.treeLeaves span).take (sortedLeaves leaves).length = m.treeLeaves span := by
    apply List.take_of_length_le
    have hlen := congrArg List.length htake
    rw [List.length_take, ← objects_treeLeaves m span, List.length_map] at hlen
    omega
  rw [hall] at hfront
  rw [← hfront]
  exact hperm.symm

/-- Two leaves of a manifest with one index are one. -/
theorem sortedLeaves_of_perm (m : Manifest) (span : Nat) (leaves : List ManifestTreeLeaf)
    (h : leaves.Perm (m.treeLeaves span)) : sortedLeaves leaves = m.treeLeaves span := by
  have hperm : (sortedLeaves leaves).Perm (m.treeLeaves span) :=
    (List.perm_insertionSort _ leaves).trans h
  have hsorted := sorted_treeLeaf m (chunks span m.objects) 0
  simp only [Nat.zero_add] at hsorted
  refine hperm.eq_of_pairwise (fun a b ha hb hab hba => ?_) (List.pairwise_insertionSort _ leaves)
    hsorted
  have hindex : a.leafIndex = b.leafIndex := Nat.le_antisymm hab hba
  have hfound := treeLeaves_index m span a (hperm.subset ha)
  rw [hindex, treeLeaves_index m span b hb, Option.some.injEq] at hfound
  exact hfound.symm

/-- Of the lists of leaves of a manifest exactly the full ones are accepted,
    in whatever order, and then the manifest is the answer. A list with a leaf
    of another generation or device is refused. -/
theorem fromTree_iff (m : Manifest) (hm : m.Canonical) (refs : List ManifestTreeLeafRef)
    (rootSpan span : Nat) (hspan : 0 < span) (leaves : List ManifestTreeLeaf)
    (hmem : ∀ leaf ∈ leaves, leaf ∈ m.treeLeaves span) :
    ((∃ m' : Manifest,
        Manifest.fromTreeRootAndLeaves (m.rootOver refs rootSpan) leaves = .ok m') ↔
      leaves.Perm (m.treeLeaves span)) ∧
    (leaves.Perm (m.treeLeaves span) →
      Manifest.fromTreeRootAndLeaves (m.rootOver refs rootSpan) leaves = .ok m) ∧
    ∀ (i : Nat) (leaf : ManifestTreeLeaf), i < leaves.length →
      leaf.generation ≠ m.generation ∨ leaf.deviceUuid ≠ m.deviceUuid →
      ∃ msg, Manifest.fromTreeRootAndLeaves (m.rootOver refs rootSpan) (leaves.set i leaf) =
        .error msg := by
  have hback : leaves.Perm (m.treeLeaves span) →
      Manifest.fromTreeRootAndLeaves (m.rootOver refs rootSpan) leaves = .ok m := by
    intro h
    have hwhole := fromTree_treeLeaves m hm refs span hspan
    rw [Manifest.fromTreeRootAndLeaves, insertionSort_treeLeaves] at hwhole
    have hsort := sortedLeaves_of_perm m span leaves h
    rw [sortedLeaves] at hsort
    rw [fromTree_rootOver, Manifest.fromTreeRootAndLeaves, hsort, hwhole]
  refine ⟨⟨fun h => ?_, fun h => ⟨m, hback h⟩⟩, hback, fun i leaf hi hforeign => ?_⟩
  · obtain ⟨m', hm'⟩ := h
    rw [fromTree_rootOver] at hm'
    exact perm_of_fromTree m hm refs span hspan leaves hmem m' hm'
  · exact fromTree_foreign _ _ leaf (List.mem_set hi leaf) hforeign.symm

/-- A manifest of three objects. -/
def threeObjects : Manifest := Manifest.empty ⟨5⟩ 4 3

theorem canonical_threeObjects : threeObjects.Canonical := by
  refine ⟨rfl, rfl, ?_, ?_⟩ <;> decide

theorem fromTree_small :
    Manifest.fromTreeRootAndLeaves (threeObjects.rootOver [] 2)
      (threeObjects.treeLeaves 2).reverse = .ok threeObjects ∧
    ¬∃ m' : Manifest, Manifest.fromTreeRootAndLeaves (threeObjects.rootOver [] 2)
      ((threeObjects.treeLeaves 2).take 1) = .ok m' := by
  have hfull := fromTree_iff threeObjects canonical_threeObjects [] 2 2 (by decide)
    (threeObjects.treeLeaves 2).reverse (fun leaf hleaf => List.mem_reverse.mp hleaf)
  have hpart := fromTree_iff threeObjects canonical_threeObjects [] 2 2 (by decide)
    ((threeObjects.treeLeaves 2).take 1) (fun leaf hleaf => List.mem_of_mem_take hleaf)
  refine ⟨hfull.2.1 (List.reverse_perm _), fun h => ?_⟩
  have hlen := (hpart.1.mp h).length_eq
  exact absurd hlen (by decide)

end TgDrive
