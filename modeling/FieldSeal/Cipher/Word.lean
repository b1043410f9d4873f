/-!
# Words and blocks

Ciphers and hashes work on words of 32 bits. This module holds the two byte orders in which words
are written, rotation, and the block of four words that a block cipher maps to another.
-/

namespace FieldSeal

abbrev Word := UInt32

namespace Word

/-- The word of four bytes, the most significant first. -/
def ofBig (a b c d : UInt8) : Word :=
  UInt32.ofNat (((a.toNat * 256 + b.toNat) * 256 + c.toNat) * 256 + d.toNat)

/-- The four bytes of a word, the most significant first. -/
def toBig (w : Word) : List UInt8 :=
  [UInt8.ofNat (w.toNat / 16777216), UInt8.ofNat (w.toNat / 65536), UInt8.ofNat (w.toNat / 256),
    UInt8.ofNat w.toNat]

/-- The word of four bytes, the least significant first. -/
def ofLittle (a b c d : UInt8) : Word := ofBig d c b a

/-- The four bytes of a word, the least significant first. -/
def toLittle (w : Word) : List UInt8 := w.toBig.reverse

/-- Rotation towards the most significant bit, by less than 32 places. Shift amounts count modulo
32, so no place at all is a rotation too. -/
def rotate (n : UInt32) (w : Word) : Word := w <<< n ||| w >>> (32 - n)

/-- The words of a byte string whose length is a multiple of four, in big-endian order. -/
def listOfBig? : List UInt8 → Option (List Word)
  | [] => some []
  | a :: b :: c :: d :: rest => (listOfBig? rest).map (ofBig a b c d :: ·)
  | _ => none

/-- The words of a byte string whose length is a multiple of four, in little-endian order. -/
def listOfLittle? : List UInt8 → Option (List Word)
  | [] => some []
  | a :: b :: c :: d :: rest => (listOfLittle? rest).map (ofLittle a b c d :: ·)
  | _ => none

def listToBig (ws : List Word) : List UInt8 := ws.flatMap toBig

def listToLittle (ws : List Word) : List UInt8 := ws.flatMap toLittle

@[simp] theorem length_toBig (w : Word) : w.toBig.length = 4 := rfl

@[simp] theorem length_toLittle (w : Word) : w.toLittle.length = 4 := rfl

@[simp] theorem length_listToBig (ws : List Word) : (listToBig ws).length = 4 * ws.length := by
  induction ws with
  | nil => rfl
  | cons w ws ih => simp_all [listToBig]; omega

@[simp] theorem length_listToLittle (ws : List Word) :
    (listToLittle ws).length = 4 * ws.length := by
  induction ws with
  | nil => rfl
  | cons w ws ih => simp_all [listToLittle]; omega

end Word

/-- Sixteen bytes as four words. -/
@[ext] structure Block where
  a : Word
  b : Word
  c : Word
  d : Word
  deriving DecidableEq

namespace Block

/-- Bitwise exclusive or. -/
def xor (x y : Block) : Block := ⟨x.a ^^^ y.a, x.b ^^^ y.b, x.c ^^^ y.c, x.d ^^^ y.d⟩

/-- The words in the opposite order. -/
def reverse (x : Block) : Block := ⟨x.d, x.c, x.b, x.a⟩

def toWords (x : Block) : List Word := [x.a, x.b, x.c, x.d]

/-- The blocks of a list of words whose length is a multiple of four. -/
def listOfWords? : List Word → Option (List Block)
  | [] => some []
  | a :: b :: c :: d :: rest => (listOfWords? rest).map (⟨a, b, c, d⟩ :: ·)
  | _ => none

/-- The blocks of a byte string whose length is a multiple of sixteen. -/
def listOfBytes? (bytes : List UInt8) : Option (List Block) :=
  (Word.listOfBig? bytes).bind listOfWords?

def listToBytes (blocks : List Block) : List UInt8 := Word.listToBig (blocks.flatMap toWords)

/-- The block of exactly sixteen bytes. -/
def ofBytes? (bytes : List UInt8) : Option Block :=
  match listOfBytes? bytes with
  | some [block] => some block
  | _ => none

@[simp] theorem xor_xor_cancel (x y : Block) : (x.xor y).xor y = x := by
  ext <;> simp only [xor, UInt32.xor_assoc, UInt32.xor_self, UInt32.xor_zero]

@[simp] theorem reverse_reverse (x : Block) : x.reverse.reverse = x := rfl

end Block

end FieldSeal
