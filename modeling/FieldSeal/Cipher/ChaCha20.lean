import FieldSeal.Cipher.Word

/-!
# The ChaCha20 stream cipher

A block function turns key, counter and nonce into 64 bytes. The blocks of successive counters form
a stream that is xored onto the text, so that encryption and decryption are one function.
-/

namespace FieldSeal.ChaCha20

/-- Sixteen words. -/
abbrev State := Vector Word 16

/-- The quarter round on four positions. -/
def quarter (i j k l : Fin 16) (s : State) : State :=
  let a := s[i] + s[j]
  let d := (s[l] ^^^ a).rotate 16
  let c := s[k] + d
  let b := (s[j] ^^^ c).rotate 12
  let a := a + b
  let d := (d ^^^ a).rotate 8
  let c := c + d
  let b := (b ^^^ c).rotate 7
  (((s.set i a).set j b).set k c).set l d

/-- Four quarter rounds on columns and four on diagonals. -/
def doubleRound (s : State) : State :=
  let s := quarter 3 7 11 15 (quarter 2 6 10 14 (quarter 1 5 9 13 (quarter 0 4 8 12 s)))
  quarter 3 4 9 14 (quarter 2 7 8 13 (quarter 1 6 11 12 (quarter 0 5 10 15 s)))

/-- The state for a key of eight words, a counter and a nonce of three words; missing words count
as zero. -/
def initial (key : List Word) (counter : Nat) (nonce : List Word) : State :=
  let k := key.toArray
  let n := nonce.toArray
  #v[0x61707865, 0x3320646e, 0x79622d32, 0x6b206574,
    k.getD 0 0, k.getD 1 0, k.getD 2 0, k.getD 3 0, k.getD 4 0, k.getD 5 0, k.getD 6 0, k.getD 7 0,
    UInt32.ofNat counter, n.getD 0 0, n.getD 1 0, n.getD 2 0]

/-- The 64 bytes of one block. -/
def block (key nonce : List UInt8) (counter : Nat) : List UInt8 :=
  let words (bytes : List UInt8) : List Word := (Word.listOfLittle? bytes).getD []
  let first := initial (words key) counter (words nonce)
  let last := (List.range 10).foldl (fun s _ => doubleRound s) first
  Word.listToLittle (Vector.zipWith (· + ·) first last).toList

/-- `count` blocks of the stream, from a counter on. -/
def stream (key nonce : List UInt8) (counter count : Nat) : List UInt8 :=
  (List.range' counter count).flatMap (block key nonce)

/-- Encryption and decryption, with the stream from counter one on. -/
def crypt (key nonce text : List UInt8) : List UInt8 :=
  List.zipWith (· ^^^ ·) text (stream key nonce 1 ((text.length + 63) / 64))

@[simp] theorem length_block (key nonce : List UInt8) (counter : Nat) :
    (block key nonce counter).length = 64 := by
  simp [block]

@[simp] theorem length_stream (key nonce : List UInt8) (counter count : Nat) :
    (stream key nonce counter count).length = 64 * count := by
  simp [stream, List.map_const', Nat.mul_comm]

@[simp] theorem length_crypt (key nonce text : List UInt8) :
    (crypt key nonce text).length = text.length := by
  simp [crypt]; omega

end FieldSeal.ChaCha20
