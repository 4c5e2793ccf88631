namespace Phrasebook.Aes

/-!
# The AES block cipher

Encryption of one block of sixteen octets under a key of thirty-two.  An octet is an element of the
field of 256 elements, a block four columns of four octets.  It is the cipher of the vaults that
settings may be loaded from.

* `mul`: the product of two elements.
* `substitute`: the substitution of an octet.
* `roundKeys`: the fifteen keys of the rounds.
* `encrypt`: a block encrypted.
-/

/-! ### The field -/

/-- An element times `x`. -/
def double (a : UInt8) : UInt8 :=
  if a < 0x80 then a <<< 1 else (a <<< 1) ^^^ 0x1B

/-- The product of two elements, taking the lowest `n` bits of the second. -/
def mulBits : Nat → UInt8 → UInt8 → UInt8
  | 0, _, _ => 0
  | n + 1, a, b => (if b &&& 1 = 1 then a else 0) ^^^ mulBits n (double a) (b >>> 1)

/-- The product of two elements. -/
def mul (a b : UInt8) : UInt8 :=
  mulBits 8 a b

/-- The inverse of an element, which is its power of exponent 254; zero for zero. -/
def inverse (a : UInt8) : UInt8 :=
  let a2 := mul a a
  let a4 := mul a2 a2
  let a8 := mul a4 a4
  let a16 := mul a8 a8
  let a32 := mul a16 a16
  let a64 := mul a32 a32
  let a128 := mul a64 a64
  mul (mul (mul a2 a4) (mul a8 a16)) (mul (mul a32 a64) a128)

/-- An octet turned to the left. -/
def turn (a : UInt8) (n : UInt8) : UInt8 :=
  (a <<< n) ||| (a >>> (8 - n))

/-- The substitution of an octet, worked out. -/
def substitution (a : UInt8) : UInt8 :=
  let b := inverse a
  b ^^^ turn b 1 ^^^ turn b 2 ^^^ turn b 3 ^^^ turn b 4 ^^^ 0x63

/-- The substitution of every octet. -/
def substitutions : Array UInt8 :=
  Array.ofFn fun i : Fin 256 => substitution (UInt8.ofNat i)

/-- The substitution of an octet, looked up. -/
def substitute (a : UInt8) : UInt8 :=
  substitutions.getD a.toNat 0

/-! ### Columns and blocks -/

/-- Four octets. -/
structure Column where
  a : UInt8
  b : UInt8
  c : UInt8
  d : UInt8
  deriving DecidableEq

namespace Column

/-- The sum of two columns. -/
def add (x y : Column) : Column :=
  ⟨x.a ^^^ y.a, x.b ^^^ y.b, x.c ^^^ y.c, x.d ^^^ y.d⟩

/-- A function on every octet. -/
def map (f : UInt8 → UInt8) (x : Column) : Column :=
  ⟨f x.a, f x.b, f x.c, f x.d⟩

/-- A column with its first octet put last. -/
def rotate (x : Column) : Column :=
  ⟨x.b, x.c, x.d, x.a⟩

/-- One octet of a mixed column. -/
def blend (a b c d : UInt8) : UInt8 :=
  mul 2 a ^^^ mul 3 b ^^^ c ^^^ d

/-- A column mixed. -/
def mix (x : Column) : Column :=
  ⟨blend x.a x.b x.c x.d, blend x.b x.c x.d x.a, blend x.c x.d x.a x.b, blend x.d x.a x.b x.c⟩

end Column

/-- Four columns: a block, or the key of a round. -/
structure Grid where
  c0 : Column
  c1 : Column
  c2 : Column
  c3 : Column
  deriving DecidableEq

namespace Grid

/-- The sum of two grids. -/
def add (x y : Grid) : Grid :=
  ⟨x.c0.add y.c0, x.c1.add y.c1, x.c2.add y.c2, x.c3.add y.c3⟩

/-- A function on every column. -/
def map (f : Column → Column) (x : Grid) : Grid :=
  ⟨f x.c0, f x.c1, f x.c2, f x.c3⟩

/-- The rows of a grid moved to the left, each by one more place than the row above it. -/
def shiftRows (x : Grid) : Grid :=
  ⟨⟨x.c0.a, x.c1.b, x.c2.c, x.c3.d⟩, ⟨x.c1.a, x.c2.b, x.c3.c, x.c0.d⟩,
    ⟨x.c2.a, x.c3.b, x.c0.c, x.c1.d⟩, ⟨x.c3.a, x.c0.b, x.c1.c, x.c2.d⟩⟩

/-- The grid that follows another in the row of keys: each column is the sum of the one before it
    and the one in its place, where `seed` comes before the first. -/
def next (x : Grid) (seed : Column) : Grid :=
  let c0 := x.c0.add seed
  let c1 := x.c1.add c0
  let c2 := x.c2.add c1
  ⟨c0, c1, c2, x.c3.add c2⟩

/-- The grid of sixteen octets, column by column; missing octets are zero. -/
def ofOctets (bs : List UInt8) : Grid :=
  let at_ (i : Nat) : UInt8 := bs.getD i 0
  let column (i : Nat) : Column := ⟨at_ i, at_ (i + 1), at_ (i + 2), at_ (i + 3)⟩
  ⟨column 0, column 4, column 8, column 12⟩

/-- The octets of a grid. -/
def octets (x : Grid) : List UInt8 :=
  [x.c0, x.c1, x.c2, x.c3].flatMap fun c => [c.a, c.b, c.c, c.d]

end Grid

/-! ### Encryption -/

/-- The octets of a key. -/
def keyLength : Nat := 32

/-- The keys of the rounds that start with two grids, given the constant of each further pair. -/
def roundKeysFrom (even odd : Grid) : List UInt8 → List Grid
  | [] => [even]
  | r :: rs =>
    let even' := even.next ((odd.c3.rotate.map substitute).add ⟨r, 0, 0, 0⟩)
    let odd' := odd.next (even'.c3.map substitute)
    even :: odd :: roundKeysFrom even' odd' rs

/-- The keys of the rounds under a key. -/
def roundKeys (key : List UInt8) : List Grid :=
  roundKeysFrom (.ofOctets key) (.ofOctets (key.drop 16)) [1, 2, 4, 8, 16, 32, 64]

/-- A grid after the rounds with these keys; the last round does not mix. -/
def rounds (x : Grid) : List Grid → Grid
  | [] => x
  | [k] => ((x.map (Column.map substitute)).shiftRows).add k
  | k :: ks => rounds (((x.map (Column.map substitute)).shiftRows.map Column.mix).add k) ks

/-- A block encrypted under the keys of the rounds. -/
def encrypt (keys : List Grid) (block : List UInt8) : List UInt8 :=
  match keys with
  | [] => block
  | k :: ks => (rounds ((Grid.ofOctets block).add k) ks).octets

@[simp] theorem length_octets (x : Grid) : x.octets.length = 16 := rfl

end Phrasebook.Aes
