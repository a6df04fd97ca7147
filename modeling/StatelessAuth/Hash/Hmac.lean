/-
The keyed digest: SHA-512 of the key block under one mask followed by the
SHA-512 of the key block under another mask followed by the message.

The key enters only through its block of 128 bytes (`keyBlock`): a longer
key is replaced by its digest, and a shorter one is filled with zeros.
-/
import StatelessAuth.Hash.Sha512

namespace StatelessAuth.Hmac

/-- The block of 128 bytes that stands for a key. -/
def keyBlock (key : List UInt8) : List UInt8 :=
  let short := if key.length ≤ 128 then key else Sha512.digest key
  short ++ List.replicate (128 - short.length) 0

/-- The tag of a message under the key of a block. -/
def tagOfBlock (block message : List UInt8) : List UInt8 :=
  Sha512.digest (block.map (· ^^^ 0x5C)
    ++ Sha512.digest (block.map (· ^^^ 0x36) ++ message))

def tag (key message : List UInt8) : List UInt8 :=
  tagOfBlock (keyBlock key) message

theorem length_tag (key message : List UInt8) : (tag key message).length = 64 :=
  Sha512.length_digest _

end StatelessAuth.Hmac
