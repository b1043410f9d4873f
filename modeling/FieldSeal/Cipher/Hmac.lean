import FieldSeal.Cipher.Sm3

/-!
# Keyed hashing

A message is authenticated by hashing it twice, each time behind a block of 64 bytes made from the
key.
-/

namespace FieldSeal.Hmac

/-- The key as a block of 64 bytes: hashed when it is longer, then filled up with zeros. -/
def keyBlock (key : List UInt8) : List UInt8 :=
  let short := if key.length > 64 then Sm3.hash key else key
  short ++ List.replicate (64 - short.length) 0

/-- The tag of a message under a key: 32 bytes. -/
def tag (key message : List UInt8) : List UInt8 :=
  let block := keyBlock key
  let inner := Sm3.hash (block.map (· ^^^ 0x36) ++ message)
  Sm3.hash (block.map (· ^^^ 0x5c) ++ inner)

@[simp] theorem length_tag (key message : List UInt8) : (tag key message).length = 32 := by
  simp [tag]

end FieldSeal.Hmac
