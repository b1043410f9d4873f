import FieldSeal.Cipher.ChaChaPoly
import FieldSeal.Sealer

/-!
# Sealing with the MODERN suite

ChaCha20-Poly1305 yields the encrypted text followed by its tag. An envelope keeps the two apart;
opening joins them again, so only their concatenation matters.
-/

namespace FieldSeal.Sealer.Modern

def encrypt (pair : KeyPair) (text : String) : Action Entropy EnvelopeError Envelope := do
  let key ← Action.ofExcept (pair.require .modern .modernEncryption)
  let nonce ← Action.total (Entropy.draw Suite.modern.nonceLength)
  match ChaChaPoly.encrypt? key.bytes nonce (Utf8.encode text) with
  | none => throw (.cipher .modern)
  | some (ciphertext, tag) => return { suite := .modern, nonce, ciphertext, tag }

def decrypt (pair : KeyPair) (e : Envelope) : Except EnvelopeError String := do
  check .modern e
  let key ← pair.require .modern .modernEncryption
  match ChaChaPoly.decrypt? key.bytes e.nonce (e.ciphertext ++ e.tag) with
  | none => throw (.tampered .modern)
  | some bytes => textOf .modern (some bytes)

end Modern

/-- The sealer of the MODERN suite. -/
def modern : Sealer where
  name := "ModernStrategy"
  suite := .modern
  encrypt := Modern.encrypt
  decrypt := Modern.decrypt

end FieldSeal.Sealer
