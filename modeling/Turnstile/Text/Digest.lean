import Turnstile.Number.Power

/-!
# Digests

The SHA-256 digest of a list of bytes and the short digest under which identifiers appear in log
lines: the first sixteen hexadecimal digits of the digest of the UTF-8 bytes.
-/

namespace Turnstile.Text.Digest

/-- The sixty-four round constants. -/
def roundConstants : Array UInt32 :=
  #[0x428a2f98, 0x71374491, 0xb5c0fbcf, 0xe9b5dba5, 0x3956c25b, 0x59f111f1, 0x923f82a4, 0xab1c5ed5,
    0xd807aa98, 0x12835b01, 0x243185be, 0x550c7dc3, 0x72be5d74, 0x80deb1fe, 0x9bdc06a7, 0xc19bf174,
    0xe49b69c1, 0xefbe4786, 0x0fc19dc6, 0x240ca1cc, 0x2de92c6f, 0x4a7484aa, 0x5cb0a9dc, 0x76f988da,
    0x983e5152, 0xa831c66d, 0xb00327c8, 0xbf597fc7, 0xc6e00bf3, 0xd5a79147, 0x06ca6351, 0x14292967,
    0x27b70a85, 0x2e1b2138, 0x4d2c6dfc, 0x53380d13, 0x650a7354, 0x766a0abb, 0x81c2c92e, 0x92722c85,
    0xa2bfe8a1, 0xa81a664b, 0xc24b8b70, 0xc76c51a3, 0xd192e819, 0xd6990624, 0xf40e3585, 0x106aa070,
    0x19a4c116, 0x1e376c08, 0x2748774c, 0x34b0bcb5, 0x391c0cb3, 0x4ed8aa4a, 0x5b9cca4f, 0x682e6ff3,
    0x748f82ee, 0x78a5636f, 0x84c87814, 0x8cc70208, 0x90befffa, 0xa4506ceb, 0xbef9a3f7, 0xc67178f2]

/-- The eight working words. -/
structure Chain where
  a : UInt32
  b : UInt32
  c : UInt32
  d : UInt32
  e : UInt32
  f : UInt32
  g : UInt32
  h : UInt32

/-- The words before the first block. -/
def Chain.start : Chain :=
  ⟨0x6a09e667, 0xbb67ae85, 0x3c6ef372, 0xa54ff53a, 0x510e527f, 0x9b05688c, 0x1f83d9ab, 0x5be0cd19⟩

/-- Rotate a word to the right. -/
def rotate (word : UInt32) (places : UInt32) : UInt32 :=
  (word >>> places) ||| (word <<< (32 - places))

/-- The bytes of a message with its end mark, zero padding and bit length. -/
def padded (message : List UInt8) : List UInt8 :=
  let size := message.length
  let zeros := (119 - size % 64) % 64
  let bits := size * 8
  let lengthBytes := (List.range 8).map fun index =>
    UInt8.ofNat (bits / Number.twoTo (8 * (7 - index)) % 256)
  message ++ [0x80] ++ List.replicate zeros 0 ++ lengthBytes

/-- Four bytes make a word, most significant first. -/
def wordsOf : List UInt8 → List UInt32
  | b0 :: b1 :: b2 :: b3 :: rest =>
    ((b0.toUInt32 <<< 24) ||| (b1.toUInt32 <<< 16) ||| (b2.toUInt32 <<< 8) ||| b3.toUInt32)
      :: wordsOf rest
  | _ => []

/-- Extend the sixteen words of a block to the sixty-four of its schedule. -/
def schedule (block : Array UInt32) : Array UInt32 :=
  (List.range 48).foldl (fun words offset =>
    let index := offset + 16
    let w15 := words.getD (index - 15) 0
    let w2 := words.getD (index - 2) 0
    let s0 := rotate w15 7 ^^^ rotate w15 18 ^^^ (w15 >>> 3)
    let s1 := rotate w2 17 ^^^ rotate w2 19 ^^^ (w2 >>> 10)
    words.push (words.getD (index - 16) 0 + s0 + words.getD (index - 7) 0 + s1)) block

/-- One round of the compression. -/
def round (chain : Chain) (constant word : UInt32) : Chain :=
  let s1 := rotate chain.e 6 ^^^ rotate chain.e 11 ^^^ rotate chain.e 25
  let choice := (chain.e &&& chain.f) ^^^ ((~~~ chain.e) &&& chain.g)
  let t1 := chain.h + s1 + choice + constant + word
  let s0 := rotate chain.a 2 ^^^ rotate chain.a 13 ^^^ rotate chain.a 22
  let majority := (chain.a &&& chain.b) ^^^ (chain.a &&& chain.c) ^^^ (chain.b &&& chain.c)
  ⟨t1 + s0 + majority, chain.a, chain.b, chain.c, chain.d + t1, chain.e, chain.f, chain.g⟩

/-- Compress one block into the chain. -/
def compress (chain : Chain) (block : Array UInt32) : Chain :=
  let words := schedule block
  let last := (List.range 64).foldl
    (fun acc index => round acc (roundConstants.getD index 0) (words.getD index 0)) chain
  ⟨chain.a + last.a, chain.b + last.b, chain.c + last.c, chain.d + last.d,
    chain.e + last.e, chain.f + last.f, chain.g + last.g, chain.h + last.h⟩

/-- Compress the blocks of a list of words, sixteen at a time. -/
def absorb (fuel : Nat) (chain : Chain) (words : List UInt32) : Chain :=
  match fuel with
  | 0 => chain
  | fuel + 1 => absorb fuel (compress chain (words.take 16).toArray) (words.drop 16)

/-- The eight words of the SHA-256 digest. -/
def sha256 (message : List UInt8) : List UInt32 :=
  let words := wordsOf (padded message)
  let chain := absorb (words.length / 16) Chain.start words
  [chain.a, chain.b, chain.c, chain.d, chain.e, chain.f, chain.g, chain.h]

/-- A number in hexadecimal with a fixed count of digits. -/
def hexDigits (width : Nat) (number : Nat) : List Char :=
  match width with
  | 0 => []
  | width + 1 => hexDigits width (number / 16) ++ [Nat.digitChar (number % 16)]

/-- The short digest of a text: sixteen hexadecimal digits. -/
def short (text : String) : String :=
  String.ofList (((sha256 text.toUTF8.toList).take 2).flatMap fun word => hexDigits 8 word.toNat)

end Turnstile.Text.Digest

namespace Turnstile

/-- The stable short digest that stands for an identifier in logs. -/
def hashIdentifier (identifier : String) : String := Text.Digest.short identifier

end Turnstile
