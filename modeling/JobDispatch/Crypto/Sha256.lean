namespace JobDispatch

namespace Sha256

def roundConstants : List UInt32 := [
  0x428a2f98, 0x71374491, 0xb5c0fbcf, 0xe9b5dba5, 0x3956c25b, 0x59f111f1, 0x923f82a4, 0xab1c5ed5,
  0xd807aa98, 0x12835b01, 0x243185be, 0x550c7dc3, 0x72be5d74, 0x80deb1fe, 0x9bdc06a7, 0xc19bf174,
  0xe49b69c1, 0xefbe4786, 0x0fc19dc6, 0x240ca1cc, 0x2de92c6f, 0x4a7484aa, 0x5cb0a9dc, 0x76f988da,
  0x983e5152, 0xa831c66d, 0xb00327c8, 0xbf597fc7, 0xc6e00bf3, 0xd5a79147, 0x06ca6351, 0x14292967,
  0x27b70a85, 0x2e1b2138, 0x4d2c6dfc, 0x53380d13, 0x650a7354, 0x766a0abb, 0x81c2c92e, 0x92722c85,
  0xa2bfe8a1, 0xa81a664b, 0xc24b8b70, 0xc76c51a3, 0xd192e819, 0xd6990624, 0xf40e3585, 0x106aa070,
  0x19a4c116, 0x1e376c08, 0x2748774c, 0x34b0bcb5, 0x391c0cb3, 0x4ed8aa4a, 0x5b9cca4f, 0x682e6ff3,
  0x748f82ee, 0x78a5636f, 0x84c87814, 0x8cc70208, 0x90befffa, 0xa4506ceb, 0xbef9a3f7, 0xc67178f2]

def initialState : List UInt32 :=
  [0x6a09e667, 0xbb67ae85, 0x3c6ef372, 0xa54ff53a, 0x510e527f, 0x9b05688c, 0x1f83d9ab, 0x5be0cd19]

def rotr (x : UInt32) (n : UInt32) : UInt32 := (x >>> n) ||| (x <<< (32 - n))

-- Big-endian words of a block of bytes.
def words : List UInt8 → List UInt32
  | a :: b :: c :: d :: rest =>
    ((a.toUInt32 <<< 24) ||| (b.toUInt32 <<< 16) ||| (c.toUInt32 <<< 8) ||| d.toUInt32) :: words rest
  | _ => []

-- The 64-word schedule grown from a block's 16 words.
def schedule (w : Array UInt32) : Array UInt32 :=
  (List.range 48).foldl (fun (acc : Array UInt32) i =>
    let t := i + 16
    let w15 := acc[t - 15]!
    let w2 := acc[t - 2]!
    let s0 := rotr w15 7 ^^^ rotr w15 18 ^^^ (w15 >>> 3)
    let s1 := rotr w2 17 ^^^ rotr w2 19 ^^^ (w2 >>> 10)
    acc.push (acc[t - 16]! + s0 + acc[t - 7]! + s1)) w

-- One compression of a 64-byte block into the eight-word state.
def compress (state : List UInt32) (block : List UInt8) : List UInt32 :=
  let w := schedule (words block).toArray
  let step := fun (regs : UInt32 × UInt32 × UInt32 × UInt32 × UInt32 × UInt32 × UInt32 × UInt32)
      (ik : Nat × UInt32) =>
    let (a, b, c, d, e, f, g, h) := regs
    let s1 := rotr e 6 ^^^ rotr e 11 ^^^ rotr e 25
    let ch := (e &&& f) ^^^ ((~~~ e) &&& g)
    let t1 := h + s1 + ch + ik.2 + w[ik.1]!
    let s0 := rotr a 2 ^^^ rotr a 13 ^^^ rotr a 22
    let maj := (a &&& b) ^^^ (a &&& c) ^^^ (b &&& c)
    let t2 := s0 + maj
    (t1 + t2, a, b, c, d + t1, e, f, g)
  match state with
  | [h0, h1, h2, h3, h4, h5, h6, h7] =>
    let (a, b, c, d, e, f, g, h) :=
      ((List.range 64).zip roundConstants).foldl step (h0, h1, h2, h3, h4, h5, h6, h7)
    [h0 + a, h1 + b, h2 + c, h3 + d, h4 + e, h5 + f, h6 + g, h7 + h]
  | other => other

-- The padded message: a one bit, zeros to 56 bytes modulo 64, and the bit length.
def pad (msg : List UInt8) : List UInt8 :=
  let len := msg.length
  let zeros := (119 - len % 64) % 64
  let bits := len * 8
  msg ++ [0x80] ++ List.replicate zeros 0 ++
    (List.range 8).reverse.map (fun i => (bits / Nat.pow 2 (8 * i) % 256).toUInt8)

-- Splits a list into blocks of 64; the measure is the length.
def blocks (xs : List UInt8) : List (List UInt8) :=
  if _ : xs.length ≤ 64 then (if xs.isEmpty then [] else [xs])
  else xs.take 64 :: blocks (xs.drop 64)
termination_by xs.length
decreasing_by simp; omega

def digest (msg : List UInt8) : List UInt8 :=
  let state : List UInt32 := (blocks (pad msg)).foldl compress initialState
  state.flatMap fun (w : UInt32) => [(w >>> 24).toUInt8, (w >>> 16).toUInt8, (w >>> 8).toUInt8, w.toUInt8]

private def hexChar (n : Nat) : Char :=
  if n < 10 then Char.ofNat (48 + n) else Char.ofNat (87 + n)

-- Bytes in lower-case hex, two digits each.
def hex (bytes : List UInt8) : String :=
  String.ofList (bytes.flatMap fun b => [hexChar (b.toNat / 16), hexChar (b.toNat % 16)])

-- The lower-case hex digest of a text's UTF-8 bytes.
def hexDigest (s : String) : String := hex (digest s.toUTF8.toList)

end Sha256

end JobDispatch
