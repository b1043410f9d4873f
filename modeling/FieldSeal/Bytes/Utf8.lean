/-!
# UTF-8

Texts and the byte strings that encode them. Every text has an encoding; not every byte string is
one.
-/

namespace FieldSeal.Utf8

/-- The encoding of a text. -/
def encode (text : String) : List UInt8 := text.toUTF8.data.toList

/-- The text that a byte string encodes, if it encodes one. -/
def decode? (bytes : List UInt8) : Option String := String.fromUTF8? ⟨bytes.toArray⟩

@[simp] theorem decode?_encode (text : String) : decode? (encode text) = some text := by
  simp only [decode?, encode, String.fromUTF8?, String.toUTF8_eq_toByteArray,
    Array.toArray_toList, dif_pos text.isValidUTF8]
  rfl

end FieldSeal.Utf8
