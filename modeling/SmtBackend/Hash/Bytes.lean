/-!
# A mixing hash of byte strings

Symbol tables hash a name through its UTF-8 bytes: the bytes are taken
twelve at a time as three little-endian words added into a state of three
words, which a fixed sequence of subtractions, shifts and exclusive ors
then mixes. The last block adds the byte count to the third word and its
remaining bytes, read as signed characters, into the three words, and a
final mixing gives the third word as the hash.

All arithmetic is on 32-bit words, so it wraps.
-/

namespace SmtBackend.Hash

/-- The starting value of the first two state words. -/
def golden : UInt32 := 0x9e3779b9

/-- The state of the hash: three words. -/
structure Mix where
  a : UInt32
  b : UInt32
  c : UInt32
  deriving BEq, Repr

/-- Mix the three words of the state. -/
def Mix.step (m : Mix) : Mix :=
  let a := (m.a - m.b - m.c) ^^^ (m.c >>> 13)
  let b := (m.b - m.c - a) ^^^ (a <<< 8)
  let c := (m.c - a - b) ^^^ (b >>> 13)
  let a := (a - b - c) ^^^ (c >>> 12)
  let b := (b - c - a) ^^^ (a <<< 16)
  let c := (c - a - b) ^^^ (b >>> 5)
  let a := (a - b - c) ^^^ (c >>> 3)
  let b := (b - c - a) ^^^ (a <<< 10)
  let c := (c - a - b) ^^^ (b >>> 15)
  ⟨a, b, c⟩

/-- Four bytes as a little-endian word: the first byte gives the low eight
bits; missing bytes count as zero. -/
def leWord (bytes : List UInt8) : UInt32 :=
  bytes.take 4 |>.foldr (fun b w => (w <<< 8) ||| b.toUInt32) 0

/-- A byte read as a signed character, widened to a word. -/
def signed (b : UInt8) : UInt32 :=
  if b < 128 then b.toUInt32 else b.toUInt32 + 0xffffff00

/-- Add the bytes of a last block, fewer than twelve, into the state: byte
`i` goes into word `i / 4`, shifted by `8 * (i % 4)`; in the third word,
whose low byte holds the count, one byte further. -/
def Mix.addTail (m : Mix) (bytes : List UInt8) : Mix :=
  (bytes.zipIdx.foldl (fun (m : Mix) (b, i) =>
    match i / 4 with
    | 0 => { m with a := m.a + (signed b <<< (8 * (i % 4)).toUInt32) }
    | 1 => { m with b := m.b + (signed b <<< (8 * (i % 4)).toUInt32) }
    | _ => { m with c := m.c + (signed b <<< (8 * (i % 4) + 8).toUInt32) }) m)

/-- Hash the blocks of twelve bytes of `bytes`, then its last block, at
most `fuel` blocks. -/
def Mix.blocks (total : Nat) : Nat → Mix → List UInt8 → Mix
  | 0, m, _ => m
  | fuel + 1, m, bytes =>
    if bytes.length ≥ 12 then
      let m : Mix := ⟨m.a + leWord bytes, m.b + leWord (bytes.drop 4), m.c + leWord (bytes.drop 8)⟩
      Mix.blocks total fuel m.step (bytes.drop 12)
    else ({ m with c := m.c + total.toUInt32 }.addTail bytes).step

/-- The hash of a byte string, seeded with `init`. -/
def bytesHash (bytes : List UInt8) (init : UInt32) : UInt32 :=
  (Mix.blocks bytes.length (bytes.length / 12 + 1) ⟨golden, golden, init⟩ bytes).c

/-- The seed of the hash of symbol names. -/
def symbolSeed : UInt32 := 251

/-- The hash of a symbol: that of the UTF-8 bytes of its name. -/
def symbolHash (name : String) : UInt32 := bytesHash name.toUTF8.toList symbolSeed

end SmtBackend.Hash
