import FieldSeal.Pattern.Shape

/-!
# The size of patterns

A pattern is refused when the automaton for it would be too large. The size is that of the automaton
over bytes that reads texts backwards: a state takes 32 bytes, a transition out of a branching state
4 and one within a table 8. A repetition counts as often as it is written out.

A set outside of ASCII is cut into sequences of byte ranges, whose common beginnings are shared.
-/

namespace FieldSeal.Pattern

open FieldSeal.Unicode (CodeSet)

/-- The largest accepted size. -/
def sizeLimit : Nat := 10 * 1024 * 1024

def stateSize : Nat := 32

/-! ## Byte sequences -/

/-- The bytes of a code point in UTF-8, first byte first. -/
def codeBytes (n : Nat) : List Nat :=
  if n < 0x80 then [n]
  else if n < 0x800 then [0xc0 + n / 64, 0x80 + n % 64]
  else if n < 0x10000 then [0xe0 + n / 4096, 0x80 + n / 64 % 64, 0x80 + n % 64]
  else [0xf0 + n / 262144, 0x80 + n / 4096 % 64, 0x80 + n / 64 % 64, 0x80 + n % 64]

/-- Cut a range into ranges whose last characters are written with the same number of bytes as the
first; surrogates fall out. -/
def byLength (low high : Nat) : CodeSet :=
  [(0, 0x7f), (0x80, 0x7ff), (0x800, 0xd7ff), (0xe000, 0xffff), (0x10000, 0x10ffff)].filterMap
    fun (a, b) => if max a low ≤ min b high then some (max a low, min b high) else none

/-- Cut a range at a multiple of `block` behind its start and in front of its end, unless it is
ASCII or lies within one block. -/
def cutBlocks (block : Nat) (r : Nat × Nat) : CodeSet :=
  if r.2 < 0x80 ∨ r.1 / block = r.2 / block then [r]
  else
    let first := if r.1 % block = 0 then r.1 else (r.1 / block + 1) * block
    let last := if r.2 % block = block - 1 then r.2 + 1 else r.2 / block * block
    [(r.1, first - 1), (first, last - 1), (last, r.2)].filter fun r => r.1 ≤ r.2

/-- The sequences of byte ranges that spell the characters of a range. -/
def byteRanges (r : Nat × Nat) : List (List (Nat × Nat)) :=
  ((((byLength r.1 r.2).flatMap (cutBlocks 64)).flatMap (cutBlocks 4096)).flatMap
    (cutBlocks 262144)).map fun (a, b) => (codeBytes a).zip (codeBytes b)

/-- The length of the common beginning of two lists. -/
def common : List (Nat × Nat) → List (Nat × Nat) → Nat
  | a :: as, b :: bs => if a = b then common as bs + 1 else 0
  | _, _ => 0

/-- The number of states for sequences in order, beginnings shared with the one before. -/
def sharedStates : List (Nat × Nat) → List (List (Nat × Nat)) → Nat
  | _, [] => 0
  | before, s :: rest => s.length - common before s + sharedStates s rest

/-- The size of a set of characters. -/
def setSize (s : CodeSet) : Nat :=
  let s := s.normal
  match s with
  | [] => stateSize
  | [(a, b)] =>
    if a = b then (codeBytes a).length * stateSize
    else if b < 128 then 2 * stateSize + 8
    else branching s
  | _ => if s.isAscii then 2 * stateSize + 8 * s.length else branching s
where
  branching (s : CodeSet) : Nat :=
    let sequences := s.flatMap byteRanges
    2 * stateSize + 4 * sequences.length + stateSize * sharedStates [] sequences

/-! ## Shapes -/

/-- The size of repeating a part of size `n`, written out. -/
def repeatSize (n min : Nat) (max : Option Nat) : Nat :=
  match min, max with
  | 0, some 0 => stateSize
  | 1, some 1 => n
  | min, some max =>
    min * n + if min < max then (max - min) * (n + stateSize + 8) + stateSize else 0
  | 0, none => n + 2 * stateSize
  | min, none => min * n + stateSize + 8

/-- The size of a shape. A chain of alternatives branches once. A part that takes no character is
repeated at most once. -/
def Shape.size : (inChain : Bool) → Shape CodeSet Look → Nat
  | _, empty => stateSize
  | _, take s => setSize s
  | _, test _ => stateSize
  | _, cat a b => a.size false + b.size false
  | inChain, alt a b => (if inChain then 4 else 2 * stateSize + 8) + a.size false + b.size true
  | _, rep a min max =>
    if a.isTest then repeatSize (a.size false) (Nat.min min 1) (some (Nat.min (max.getD 1) 1))
    else repeatSize (a.size false) min max

end FieldSeal.Pattern
