import FieldSeal.Cipher.Cbc
import FieldSeal.Cipher.Hmac
import FieldSeal.Sealer

/-!
# Sealing with the GM suite

The text is padded, encrypted by SM4 in chained blocks, and the encrypted bytes are authenticated
with a keyed SM3 hash. Opening checks the tag before it decrypts, so that a changed ciphertext is
refused in the same way whatever its padding would be.
-/

namespace FieldSeal.Sealer.Gm

/-- The encryption key and the authentication key, asked for in this order. -/
def keys (pair : KeyPair) : Except EnvelopeError (SecretKey × SecretKey) := do
  let key ← pair.require .gm .gmEncryption
  let mac ← pair.require .gm .gmMac
  return (key, mac)

def encrypt (pair : KeyPair) (text : String) : Action Entropy EnvelopeError Envelope := do
  let (key, mac) ← Action.ofExcept (keys pair)
  let nonce ← Action.total (Entropy.draw Suite.gm.nonceLength)
  match Cbc.encrypt? key.bytes nonce (Utf8.encode text) with
  | none => throw (.keyLength .gmEncryption)
  | some ciphertext =>
    return { suite := .gm, nonce, ciphertext, tag := Hmac.tag mac.bytes ciphertext }

def decrypt (pair : KeyPair) (e : Envelope) : Except EnvelopeError String := do
  check .gm e
  let (key, mac) ← keys pair
  if Hmac.tag mac.bytes e.ciphertext ≠ e.tag then throw (.tampered .gm)
  textOf .gm (Cbc.decrypt? key.bytes e.nonce e.ciphertext)

end Gm

/-- The sealer of the GM suite. -/
def gm : Sealer where
  name := "GmStrategy"
  suite := .gm
  encrypt := Gm.encrypt
  decrypt := Gm.decrypt

end FieldSeal.Sealer
