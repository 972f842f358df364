-- The SHA-256 digest of bytes.

namespace Docstring.Digest

/-- A block of sixteen words and the schedule made from it. -/
abbrev Words := Array UInt32

/-- The eight words that are carried from block to block. -/
structure Chain where
  a : UInt32
  b : UInt32
  c : UInt32
  d : UInt32
  e : UInt32
  f : UInt32
  g : UInt32
  h : UInt32
deriving DecidableEq, Repr

def initial : Chain :=
  ⟨0x6a09e667, 0xbb67ae85, 0x3c6ef372, 0xa54ff53a, 0x510e527f, 0x9b05688c, 0x1f83d9ab, 0x5be0cd19⟩

def roundConstants : Words :=
  #[0x428a2f98, 0x71374491, 0xb5c0fbcf, 0xe9b5dba5, 0x3956c25b, 0x59f111f1, 0x923f82a4, 0xab1c5ed5,
    0xd807aa98, 0x12835b01, 0x243185be, 0x550c7dc3, 0x72be5d74, 0x80deb1fe, 0x9bdc06a7, 0xc19bf174,
    0xe49b69c1, 0xefbe4786, 0x0fc19dc6, 0x240ca1cc, 0x2de92c6f, 0x4a7484aa, 0x5cb0a9dc, 0x76f988da,
    0x983e5152, 0xa831c66d, 0xb00327c8, 0xbf597fc7, 0xc6e00bf3, 0xd5a79147, 0x06ca6351, 0x14292967,
    0x27b70a85, 0x2e1b2138, 0x4d2c6dfc, 0x53380d13, 0x650a7354, 0x766a0abb, 0x81c2c92e, 0x92722c85,
    0xa2bfe8a1, 0xa81a664b, 0xc24b8b70, 0xc76c51a3, 0xd192e819, 0xd6990624, 0xf40e3585, 0x106aa070,
    0x19a4c116, 0x1e376c08, 0x2748774c, 0x34b0bcb5, 0x391c0cb3, 0x4ed8aa4a, 0x5b9cca4f, 0x682e6ff3,
    0x748f82ee, 0x78a5636f, 0x84c87814, 0x8cc70208, 0x90befffa, 0xa4506ceb, 0xbef9a3f7, 0xc67178f2]

/-! ## Words -/

def rotate (x n : UInt32) : UInt32 := (x >>> n) ||| (x <<< (32 - n))

/-- The four bytes of a word, the highest first. -/
def wordOf (a b c d : UInt8) : UInt32 :=
  (a.toUInt32 <<< 24) ||| (b.toUInt32 <<< 16) ||| (c.toUInt32 <<< 8) ||| d.toUInt32

/-- Bytes as words, four by four. -/
def wordsOf : List UInt8 → List UInt32
  | a :: b :: c :: d :: rest => wordOf a b c d :: wordsOf rest
  | _ => []

def word (w : Words) (i : Nat) : UInt32 := w.getD i 0

def extend (w : Words) : Words :=
  let i := w.size
  let x := word w (i - 15)
  let y := word w (i - 2)
  let s := rotate x 7 ^^^ rotate x 18 ^^^ (x >>> 3)
  let t := rotate y 17 ^^^ rotate y 19 ^^^ (y >>> 10)
  w.push (word w (i - 16) + s + word w (i - 7) + t)

def schedule (block : Words) : Words := (List.range 48).foldl (fun w _ => extend w) block

/-! ## Blocks -/

def round (w : Words) (v : Chain) (i : Nat) : Chain :=
  let s := rotate v.e 6 ^^^ rotate v.e 11 ^^^ rotate v.e 25
  let choice := (v.e &&& v.f) ^^^ ((v.e ^^^ 0xffffffff) &&& v.g)
  let first := v.h + s + choice + word roundConstants i + word w i
  let t := rotate v.a 2 ^^^ rotate v.a 13 ^^^ rotate v.a 22
  let majority := (v.a &&& v.b) ^^^ (v.a &&& v.c) ^^^ (v.b &&& v.c)
  ⟨first + (t + majority), v.a, v.b, v.c, v.d + first, v.e, v.f, v.g⟩

def compress (v : Chain) (block : Words) : Chain :=
  let w := schedule block
  let u := (List.range 64).foldl (round w) v
  ⟨v.a + u.a, v.b + u.b, v.c + u.c, v.d + u.d, v.e + u.e, v.f + u.f, v.g + u.g, v.h + u.h⟩

def blocks (words : List UInt32) : List Words :=
  (List.range (words.length / 16)).map fun i => ((words.drop (16 * i)).take 16).toArray

/-- The eight bytes of a number, the highest first. -/
def lengthBytes (n : Nat) : List UInt8 :=
  (List.range 8).map fun i => UInt8.ofNat (n >>> (8 * (7 - i)))

/-- Bytes with the mark of their end, zeros, and their length in bits, so that they fill whole
blocks. -/
def padded (bytes : List UInt8) : List UInt8 :=
  let zeros := (119 - bytes.length % 64) % 64
  bytes ++ 0x80 :: List.replicate zeros 0 ++ lengthBytes (8 * bytes.length)

/-! ## The digest -/

def hexWord (x : UInt32) : List Char :=
  (List.range 8).map fun i => Nat.digitChar ((x.toNat >>> (4 * (7 - i))) % 16)

/-- The digest of bytes in lower-case hexadecimal digits. -/
def ofBytes (bytes : List UInt8) : String :=
  let v := (blocks (wordsOf (padded bytes))).foldl compress initial
  String.ofList ([v.a, v.b, v.c, v.d, v.e, v.f, v.g, v.h].flatMap hexWord)

end Docstring.Digest
