import FieldSeal.Cipher.Word

/-!
# The SM3 hash

A chain over message blocks of sixteen words. The message is closed by a one bit, zero bits and its
length in bits, so that the whole fills blocks of 64 bytes.
-/

namespace FieldSeal.Sm3

/-- The chaining value: eight words. -/
structure State where
  a : Word
  b : Word
  c : Word
  d : Word
  e : Word
  f : Word
  g : Word
  h : Word

def start : State :=
  ⟨0x7380166f, 0x4914b2b9, 0x172442d7, 0xda8a0600, 0xa96f30bc, 0x163138aa, 0xe38dee4d, 0xb0fb0e4e⟩

def State.xor (x y : State) : State :=
  ⟨x.a ^^^ y.a, x.b ^^^ y.b, x.c ^^^ y.c, x.d ^^^ y.d, x.e ^^^ y.e, x.f ^^^ y.f, x.g ^^^ y.g,
    x.h ^^^ y.h⟩

def State.toWords (x : State) : List Word := [x.a, x.b, x.c, x.d, x.e, x.f, x.g, x.h]

/-! ## Compression -/

def permute0 (w : Word) : Word := w ^^^ w.rotate 9 ^^^ w.rotate 17

def permute1 (w : Word) : Word := w ^^^ w.rotate 15 ^^^ w.rotate 23

/-- The sixteen words of a block and the 52 that follow from them. -/
def expand (block : Array Word) : Array Word :=
  (List.range 52).foldl
    (fun w j =>
      w.push (permute1 (w.getD j 0 ^^^ w.getD (j + 7) 0 ^^^ (w.getD (j + 13) 0).rotate 15)
        ^^^ (w.getD (j + 3) 0).rotate 7 ^^^ w.getD (j + 10) 0))
    block

/-- One of the 64 steps, with the words `w` and `v` of the expanded block. -/
def step (j : Nat) (w v : Word) (s : State) : State :=
  let constant : Word := if j < 16 then 0x79cc4519 else 0x7a879d8a
  let x := (s.a.rotate 12 + s.e + constant.rotate (UInt32.ofNat (j % 32))).rotate 7
  let y := x ^^^ s.a.rotate 12
  let choice :=
    if j < 16 then s.a ^^^ s.b ^^^ s.c else (s.a &&& s.b) ||| (s.a &&& s.c) ||| (s.b &&& s.c)
  let select := if j < 16 then s.e ^^^ s.f ^^^ s.g else (s.e &&& s.f) ||| (~~~s.e &&& s.g)
  ⟨choice + s.d + y + v, s.a, s.b.rotate 9, s.c, permute0 (select + s.h + x + w), s.e,
    s.f.rotate 19, s.g⟩

/-- The chaining value after one more block of sixteen words. -/
def compress (s : State) (block : List Word) : State :=
  let w := expand block.toArray
  let out := (List.range 64).foldl
    (fun t j => step j (w.getD j 0) (w.getD j 0 ^^^ w.getD (j + 4) 0) t) s
  out.xor s

/-! ## Messages -/

/-- The bytes that close a message of `n` bytes. -/
def closing (n : Nat) : List UInt8 :=
  let bits := 8 * n
  0x80 :: List.replicate ((119 - n % 64) % 64) 0 ++
    (List.range 8).map fun i => UInt8.ofNat (bits / Nat.pow 256 (7 - i))

/-- The message in words, closed. -/
def words (message : List UInt8) : List Word :=
  (Word.listOfBig? (message ++ closing message.length)).getD []

/-- The hash of a byte string: 32 bytes. -/
def hash (message : List UInt8) : List UInt8 :=
  let ws := (words message).toArray
  let blocks := (List.range (ws.size / 16)).map fun i => (ws.extract (16 * i) (16 * i + 16)).toList
  Word.listToBig (blocks.foldl compress start).toWords

@[simp] theorem length_hash (message : List UInt8) : (hash message).length = 32 := by
  simp [hash, State.toWords]

end FieldSeal.Sm3
