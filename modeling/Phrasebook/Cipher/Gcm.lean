import Phrasebook.Cipher.Aes

namespace Phrasebook.Gcm

/-!
# Authenticated encryption

Galois counter mode over a block cipher: the octets are added to a stream of encrypted counters,
and a tag over them tells whether they are what was encrypted.  A key opens a vault just where the
tag fits.

* `Block.mul`: the product in the field of `2 ^ 128` elements.
* `hash`: the hash of a row of blocks.
* `crypt`: octets added to the stream; once more, and they are back.
* `tag`: the tag of encrypted octets.
* `decrypt?`: the octets that were encrypted, if the tag is theirs.
-/

/-- Sixteen octets, the first one highest. -/
abbrev Block := BitVec 128

/-- A block cipher under a key. -/
abbrev BlockCipher := Block → Block

namespace Block

/-- The block of at most sixteen octets, zeros behind them. -/
def ofOctets (bs : List UInt8) : Block :=
  (List.range 16).foldl (fun x i => x <<< 8 ||| BitVec.ofNat 128 (bs.getD i 0).toNat) 0

/-- The octets of a block. -/
def octets (x : Block) : List UInt8 :=
  (List.range 16).map fun i => UInt8.ofNat ((x >>> (8 * (15 - i))).toNat % 256)

/-- What is added when a product outgrows a block. -/
def reduction : Block := 0xE1 <<< 120

/-- A block divided by two in the order of its bits: the next power of the variable. -/
def next (x : Block) : Block :=
  if x.getLsbD 0 then (x >>> 1) ^^^ reduction else x >>> 1

/-- The product of two blocks, taking the bits of the first from `i` on. -/
def mulFrom (x : Block) : Nat → Block → Block
  | 0, _ => 0
  | n + 1, y => (if x.getLsbD n then y else 0) ^^^ mulFrom x n (next y)

/-- The product of two blocks. -/
def mul (x y : Block) : Block :=
  mulFrom x 128 y

end Block

/-- The blocks of a row of octets; the last one is filled up with zeros.  The bound is the number
    of the octets. -/
def blocksWithin : Nat → List UInt8 → List Block
  | 0, _ => []
  | _, [] => []
  | n + 1, b :: bs => Block.ofOctets (b :: bs) :: blocksWithin n ((b :: bs).drop 16)

/-- The blocks of a row of octets. -/
def blocks (bs : List UInt8) : List Block :=
  blocksWithin bs.length bs

/-- The hash of a row of blocks under a key. -/
def hash (key : Block) (xs : List Block) : Block :=
  xs.foldl (fun y x => (y ^^^ x).mul key) 0

/-- The number of bits of a row of octets, as the last block of what is hashed. -/
def lengthBlock (bs : List UInt8) : Block :=
  BitVec.ofNat 128 (8 * bs.length)

/-- The counter one further on: the lowest 32 bits count. -/
def count (x : Block) : Block :=
  (x >>> 32 <<< 32) ||| BitVec.ofNat 128 ((x.toNat + 1) % 0x100000000)

/-- The key of the hash. -/
def hashKey (cipher : BlockCipher) : Block :=
  cipher 0

/-- The counter that a nonce starts at. -/
def start (cipher : BlockCipher) (nonce : List UInt8) : Block :=
  if nonce.length = 12 then Block.ofOctets (nonce ++ [0, 0, 0, 1])
  else hash (hashKey cipher) (blocks nonce ++ [lengthBlock nonce])

/-- The stream of `n` encrypted counters after a counter. -/
def stream (cipher : BlockCipher) : Nat → Block → List UInt8
  | 0, _ => []
  | n + 1, x => (cipher (count x)).octets ++ stream cipher n (count x)

/-- Octets added to the stream of a nonce. -/
def crypt (cipher : BlockCipher) (nonce bs : List UInt8) : List UInt8 :=
  List.zipWith (· ^^^ ·) bs (stream cipher ((bs.length + 15) / 16) (start cipher nonce))

/-- The tag of encrypted octets. -/
def tag (cipher : BlockCipher) (nonce encrypted : List UInt8) : List UInt8 :=
  (hash (hashKey cipher) (blocks encrypted ++ [lengthBlock encrypted])
    ^^^ cipher (start cipher nonce)).octets

/-- The octets that were encrypted, if the tag is theirs.  A tag may be cut short. -/
def decrypt? (cipher : BlockCipher) (nonce encrypted stated : List UInt8) :
    Option (List UInt8) :=
  if (tag cipher nonce encrypted).take stated.length = stated then
    some (crypt cipher nonce encrypted)
  else none

/-- The cipher under a key of thirty-two octets. -/
def aes (key : List UInt8) : BlockCipher :=
  let keys := Aes.roundKeys key
  fun x => Block.ofOctets (Aes.encrypt keys x.octets)

end Phrasebook.Gcm
