import FieldSeal.Bytes.Hex
import FieldSeal.Sealer

/-!
# A sealer that does not seal

For trying out registries: it uses no keys and no random bytes, keeps the text as it is and marks
what passes through it with a label.
-/

namespace FieldSeal.Sealer

/-- The sealer of a suite that answers with its label. -/
def plain (name : String) (suite : Suite) (label : String) : Sealer where
  name := name
  suite := suite
  encrypt _ text := Action.ofExcept <| .ok {
    suite
    nonce := List.replicate suite.nonceLength 0
    ciphertext := Utf8.encode text
    tag := Utf8.encode label }
  decrypt _ e := .ok (label ++ ":" ++ Hex.encode e.ciphertext)

end FieldSeal.Sealer
