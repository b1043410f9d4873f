import FieldSeal.Cipher.Padding
import FieldSeal.Cipher.Sm4

/-!
# Cipher block chaining

Each block is xored with the encryption of the one before, the first with a start value. The
chaining is stated over any block cipher and then used with SM4 on padded byte strings.
-/

namespace FieldSeal.Cbc

/-- Chain blocks through an encryption of single blocks. -/
def encryptBlocks (encrypt : Block → Block) : Block → List Block → List Block
  | _, [] => []
  | previous, x :: rest =>
    encrypt (x.xor previous) :: encryptBlocks encrypt (encrypt (x.xor previous)) rest

/-- Undo the chaining through a decryption of single blocks. -/
def decryptBlocks (decrypt : Block → Block) : Block → List Block → List Block
  | _, [] => []
  | previous, y :: rest => (decrypt y).xor previous :: decryptBlocks decrypt y rest

theorem decryptBlocks_encryptBlocks {encrypt decrypt : Block → Block}
    (inverse : ∀ x, decrypt (encrypt x) = x) (previous : Block) (xs : List Block) :
    decryptBlocks decrypt previous (encryptBlocks encrypt previous xs) = xs := by
  induction xs generalizing previous with
  | nil => rfl
  | cons x rest ih => simp [encryptBlocks, decryptBlocks, inverse, ih]

/-- The encryption of a byte string under a key and a start value of sixteen bytes each; `none`
when either has another length. -/
def encrypt? (key start text : List UInt8) : Option (List UInt8) := do
  let key ← Block.ofBytes? key
  let start ← Block.ofBytes? start
  let blocks ← Block.listOfBytes? (Padding.pad text)
  let keys := Sm4.roundKeys key
  return Block.listToBytes (encryptBlocks (Sm4.crypt keys) start blocks)

/-- The byte string that was encrypted; `none` when there is none. -/
def decrypt? (key start sealed : List UInt8) : Option (List UInt8) := do
  let key ← Block.ofBytes? key
  let start ← Block.ofBytes? start
  let blocks ← Block.listOfBytes? sealed
  let keys := (Sm4.roundKeys key).reverse
  Padding.unpad? (Block.listToBytes (decryptBlocks (Sm4.crypt keys) start blocks))

end FieldSeal.Cbc
