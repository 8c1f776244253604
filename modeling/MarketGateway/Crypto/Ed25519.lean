import MarketGateway.Crypto.Sha512

/-!
# Ed25519 signatures

The signature scheme of RFC 8032 on the twisted Edwards curve over the integers modulo `2^255 - 19`.
Signing is deterministic. Verification refuses a second half that is not reduced and compares the
first half with the point computed from the other values.
-/

namespace MarketGateway.Crypto.Ed25519

def fieldPrime : Nat := 2 ^ 255 - 19

def groupOrder : Nat := 2 ^ 252 + 27742317777372353535851937790883648493

/-! ### The field -/

def sub (a b : Nat) : Nat := (a + fieldPrime - b) % fieldPrime

def mul (a b : Nat) : Nat := a * b % fieldPrime

/-- The bits of a number, the least significant one first, `count` of them. -/
def bits : Nat → Nat → List Bool
  | 0, _ => []
  | count + 1, n => (n % 2 == 1) :: bits count (n / 2)

def pow (a exponent : Nat) : Nat :=
  (bits 256 exponent).foldr (fun bit r => if bit then mul (mul r r) a else mul r r) 1

def inverse (a : Nat) : Nat := pow a (fieldPrime - 2)

/-- The constant of the curve equation `-x² + y² = 1 + d x² y²`. -/
def curveConstant : Nat :=
  37095705934669439343138083508754565189542113879843219016388785533085940283555

/-! ### The curve -/

/-- The point `(x / z, y / z)`, with `t = x y / z`. -/
structure Point where
  x : Nat
  y : Nat
  z : Nat
  t : Nat
deriving DecidableEq

namespace Point

def neutral : Point := ⟨0, 1, 1, 0⟩

def ofAffine (x y : Nat) : Point := ⟨x, y, 1, mul x y⟩

def base : Point := ofAffine
  15112221349535400772501151409588531511454012693041857206046113283949847762202
  46316835694926478169428394003475163141307993866256225615783033603165251855960

def add (p q : Point) : Point :=
  let a := mul (sub p.y p.x) (sub q.y q.x)
  let b := mul (p.y + p.x) (q.y + q.x)
  let c := mul (mul (2 * p.t) q.t) curveConstant
  let d := mul (2 * p.z) q.z
  let e := sub b a
  let f := sub d c
  let g := (d + c) % fieldPrime
  let h := (b + a) % fieldPrime
  ⟨mul e f, mul g h, mul f g, mul e h⟩

def double (p : Point) : Point := add p p

def neg (p : Point) : Point := ⟨sub 0 p.x, p.y, p.z, sub 0 p.t⟩

def scale (n : Nat) (p : Point) : Point :=
  (bits 256 n).foldr (fun bit r => if bit then add (double r) p else double r) neutral

end Point

/-! ### Bytes -/

/-- The bytes of a number below `2^256`, the least significant one first. -/
def littleEndian (n : Nat) : List UInt8 := (List.range 32).map fun i => UInt8.ofNat (n / 256 ^ i)

def ofLittleEndian (bytes : List UInt8) : Nat :=
  bytes.foldr (fun b n => b.toNat + 256 * n) 0

/-- The second coordinate, with the parity of the first one in the highest bit. -/
def Point.toBytes (p : Point) : List UInt8 :=
  let inverseZ := inverse p.z
  let x := mul p.x inverseZ
  let y := mul p.y inverseZ
  littleEndian (y + (x % 2) * 2 ^ 255)

/-- A square root of `u / v`. -/
def squareRootOfRatio? (u v : Nat) : Option Nat :=
  let v3 := mul (mul v v) v
  let root := mul (mul u v3) (pow (mul u (mul (mul v3 v3) v)) ((fieldPrime - 5) / 8))
  let square := mul v (mul root root)
  if square = u % fieldPrime then some root
  else if square = sub 0 u then some (mul root (pow 2 ((fieldPrime - 1) / 4)))
  else none

/-- The point on the curve that the bytes stand for, if there is one. -/
def Point.ofBytes? (bytes : List UInt8) : Option Point :=
  let n := ofLittleEndian bytes
  let odd := n / 2 ^ 255 % 2
  let y := n % 2 ^ 255 % fieldPrime
  let y2 := mul y y
  (squareRootOfRatio? (sub y2 1) (mul curveConstant y2 + 1)).map fun x =>
    ofAffine (if x % 2 = odd then x else sub 0 x) y

/-! ### Signatures -/

structure SecretKey where
  seed : List UInt8
  length_eq : seed.length = 32
deriving DecidableEq

/-- The multiplier of the base point: the first half of the hashed seed with its lowest three bits
cleared and its highest bit moved to place 254. -/
def SecretKey.scalar (key : SecretKey) : Nat :=
  let n := ofLittleEndian ((Sha512.hash key.seed).take 32)
  n % 2 ^ 254 / 8 * 8 + 2 ^ 254

def SecretKey.publicKey (key : SecretKey) : List UInt8 := (Point.base.scale key.scalar).toBytes

def hashScalar (bytes : List UInt8) : Nat := ofLittleEndian (Sha512.hash bytes) % groupOrder

def sign (key : SecretKey) (message : List UInt8) : List UInt8 :=
  let nonce := hashScalar ((Sha512.hash key.seed).drop 32 ++ message)
  let first := (Point.base.scale nonce).toBytes
  let challenge := hashScalar (first ++ key.publicKey ++ message)
  first ++ littleEndian ((nonce + challenge * key.scalar) % groupOrder)

def verify (publicKey message signature : List UInt8) : Bool :=
  let first := signature.take 32
  let second := ofLittleEndian (signature.drop 32)
  if signature.length = 64 ∧ second < groupOrder then
    match Point.ofBytes? publicKey with
    | some point =>
      let challenge := hashScalar (first ++ publicKey ++ message)
      (Point.add (Point.base.scale second) (point.neg.scale challenge)).toBytes == first
    | none => false
  else false

end MarketGateway.Crypto.Ed25519
