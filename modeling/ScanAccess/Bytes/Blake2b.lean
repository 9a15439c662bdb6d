/-! # BLAKE2b

The unkeyed sequential hash function BLAKE2b: twelve rounds of eight mixing
steps on sixteen 64-bit words, over blocks of 128 bytes.
-/

namespace ScanAccess.Bytes.Blake2b

/-- The words that a hash starts from. -/
def initial : Vector UInt64 8 :=
  #v[0x6a09e667f3bcc908, 0xbb67ae8584caa73b, 0x3c6ef372fe94f82b, 0xa54ff53a5f1d36f1,
     0x510e527fade682d1, 0x9b05688c2b3e6c1f, 0x1f83d9abfb41bd6b, 0x5be0cd19137e2179]

/-- The order in which each round takes the words of a block. -/
def schedule : List (Vector (Fin 16) 16) :=
  [#v[0, 1, 2, 3, 4, 5, 6, 7, 8, 9, 10, 11, 12, 13, 14, 15],
   #v[14, 10, 4, 8, 9, 15, 13, 6, 1, 12, 0, 2, 11, 7, 5, 3],
   #v[11, 8, 12, 0, 5, 2, 15, 13, 10, 14, 3, 6, 7, 1, 9, 4],
   #v[7, 9, 3, 1, 13, 12, 11, 14, 2, 6, 5, 10, 4, 0, 15, 8],
   #v[9, 0, 5, 7, 2, 4, 10, 15, 14, 1, 11, 12, 6, 8, 3, 13],
   #v[2, 12, 6, 10, 0, 11, 8, 3, 4, 13, 7, 5, 15, 14, 1, 9],
   #v[12, 5, 1, 15, 14, 13, 4, 10, 0, 7, 6, 3, 9, 2, 8, 11],
   #v[13, 11, 7, 14, 12, 1, 3, 9, 5, 0, 15, 4, 8, 6, 2, 10],
   #v[6, 15, 14, 9, 11, 3, 0, 8, 12, 2, 13, 7, 1, 4, 10, 5],
   #v[10, 2, 8, 4, 7, 6, 1, 5, 15, 11, 9, 14, 3, 12, 13, 0],
   #v[0, 1, 2, 3, 4, 5, 6, 7, 8, 9, 10, 11, 12, 13, 14, 15],
   #v[14, 10, 4, 8, 9, 15, 13, 6, 1, 12, 0, 2, 11, 7, 5, 3]]

/-- The places of the four words that each mixing step of a round works on:
first the columns of the four-by-four square, then its diagonals. -/
def places : List (Fin 16 × Fin 16 × Fin 16 × Fin 16) :=
  [(0, 4, 8, 12), (1, 5, 9, 13), (2, 6, 10, 14), (3, 7, 11, 15),
   (0, 5, 10, 15), (1, 6, 11, 12), (2, 7, 8, 13), (3, 4, 9, 14)]

def rotateRight (word : UInt64) (count : UInt64) : UInt64 :=
  (word >>> count) ||| (word <<< (64 - count))

/-- One mixing step on four words of the state, with two words of the block. -/
def mix (v : Vector UInt64 16) (a b c d : Fin 16) (x y : UInt64) : Vector UInt64 16 :=
  let va := v[a] + v[b] + x
  let vd := rotateRight (v[d] ^^^ va) 32
  let vc := v[c] + vd
  let vb := rotateRight (v[b] ^^^ vc) 24
  let va := va + vb + y
  let vd := rotateRight (vd ^^^ va) 16
  let vc := vc + vd
  let vb := rotateRight (vb ^^^ vc) 63
  (((v.set a va).set b vb).set c vc).set d vd

/-- The eight mixing steps of a round, with the block's words in the order `order`. -/
def round (block : Vector UInt64 16) (v : Vector UInt64 16) (order : Vector (Fin 16) 16) :
    Vector UInt64 16 :=
  (places.zipIdx).foldl
    (fun v ((a, b, c, d), step) =>
      if h : 2 * step + 1 < 16 then
        mix v a b c d block[order[2 * step]] block[order[2 * step + 1]]
      else v)
    v

/-- Folds one block into the hash words. `count` is the number of message bytes
up to the end of the block, and `last` marks the final block. -/
def compress (h : Vector UInt64 8) (block : Vector UInt64 16) (count : Nat) (last : Bool) :
    Vector UInt64 8 :=
  let v : Vector UInt64 16 := h ++ initial
  let v := v.set 12 (v[12] ^^^ UInt64.ofNat count)
  let v := v.set 13 (v[13] ^^^ UInt64.ofNat (count >>> 64))
  let v := if last then v.set 14 (v[14] ^^^ 0xffffffffffffffff) else v
  let v := schedule.foldl (round block) v
  Vector.ofFn fun i : Fin 8 => h[i] ^^^ v[i.val] ^^^ v[i.val + 8]

/-- The word written by eight bytes, the lowest first. -/
def word (bytes : List UInt8) : UInt64 :=
  bytes.foldr (fun byte value => value <<< 8 ||| byte.toUInt64) 0

/-- The sixteen words of a block; missing bytes count as zero. -/
def blockWords (bytes : List UInt8) : Vector UInt64 16 :=
  Vector.ofFn fun i : Fin 16 => word ((bytes.drop (8 * i.val)).take 8)

/-- The eight bytes of a word, the lowest first. -/
def wordBytes (word : UInt64) : List UInt8 :=
  (List.range 8).map fun i => (word >>> UInt64.ofNat (8 * i)).toUInt8

/-- Folds in the rest of a message, of which `done` bytes came before. A message
has at least one block, and only its last block may be short. -/
def absorb (h : Vector UInt64 8) (done : Nat) (message : List UInt8) : Vector UInt64 8 :=
  if message.length ≤ 128 then
    compress h (blockWords message) (done + message.length) true
  else
    absorb (compress h (blockWords (message.take 128)) (done + 128) false) (done + 128)
      (message.drop 128)
termination_by message.length
decreasing_by simp; omega

/-- The digest of a message, cut to `size` bytes. -/
def digest (size : Nat) (message : List UInt8) : List UInt8 :=
  let first := initial[0] ^^^ 0x01010000 ^^^ UInt64.ofNat size
  let h := absorb (initial.set 0 first) 0 message
  (h.toList.flatMap wordBytes).take size

end ScanAccess.Bytes.Blake2b
