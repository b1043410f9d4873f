import FieldSeal.Cipher.ChaCha20
import FieldSeal.Cipher.Poly1305

/-!
# Authenticated encryption with ChaCha20 and Poly1305

The text is encrypted with the stream from block one on; block zero gives the key of the
authenticator, which covers the encrypted text and its length. No further data is authenticated.
-/

namespace FieldSeal.ChaChaPoly

/-- The longest text the cipher takes, in whole blocks of 64 bytes. -/
def blockLimit : Nat := 4294967295

/-- What the authenticator covers. -/
def authenticated (sealed : List UInt8) : List UInt8 :=
  sealed ++ List.replicate ((16 - sealed.length % 16) % 16) 0 ++ Poly1305.bytes 8 0 ++
    Poly1305.bytes 8 sealed.length

/-- The tag of an encrypted text. -/
def tag (key nonce sealed : List UInt8) : List UInt8 :=
  Poly1305.tag ((ChaCha20.block key nonce 0).take 32) (authenticated sealed)

/-- The encrypted text and its tag; `none` when the text is too long. -/
def encrypt? (key nonce text : List UInt8) : Option (List UInt8 × List UInt8) :=
  if text.length / 64 ≥ blockLimit then none
  else
    let sealed := ChaCha20.crypt key nonce text
    some (sealed, tag key nonce sealed)

/-- The text behind an encrypted text that is followed by its tag; `none` when the last sixteen
bytes are not the tag of what precedes them. -/
def decrypt? (key nonce whole : List UInt8) : Option (List UInt8) :=
  let cut := whole.length - 16
  let sealed := whole.take cut
  if whole.length < 16 ∨ sealed.length / 64 ≥ blockLimit then none
  else if whole.drop cut = tag key nonce sealed then some (ChaCha20.crypt key nonce sealed)
  else none

end FieldSeal.ChaChaPoly
