/-!
# Binary64 — sixty-four-bit binary numbers, exactly

A finite number is a signed significand times a power of two.  Every operation computes the exact
rational result and rounds it once, to nearest with ties to the even neighbour, so a law about an
operation is a law about `Nat` arithmetic:

* `roundHalfEven` rounds a quotient of natural numbers,
* `ofRatio` rounds a ratio to the format,
* `ofNat`, `add`, `mul`, `div` are `ofRatio` of the exact result,
* `compare?` compares exactly and answers `none` when an operand is not a number.
-/

namespace RecordFlow

/-- A number of the format.  `finite s m q` stands for `± m * 2 ^ q`; a canonical one has
`m < 2 ^ 53`, `-1074 ≤ q`, and `2 ^ 52 ≤ m` unless `q = -1074`. -/
inductive Binary64 where
  | nan (negative : Bool)
  | infinite (negative : Bool)
  | finite (negative : Bool) (significand : Nat) (exponent : Int)
deriving DecidableEq, Repr

namespace Binary64

/-! ## Rounding -/

/-- The quotient `num / den` rounded to the nearest natural number, a half going to the even
neighbour. -/
def roundHalfEven (num den : Nat) : Nat :=
  let whole := num / den
  match Ord.compare (2 * (num % den)) den with
  | .lt => whole
  | .gt => whole + 1
  | .eq => if whole % 2 = 0 then whole else whole + 1

/-- The quotient `num / den` rounded to the nearest natural number, a half going up. -/
def roundHalfUp (num den : Nat) : Nat :=
  (2 * num + den) / (2 * den)

/-- The ratio `num / den` divided by `2 ^ q`, as a ratio of natural numbers. -/
def scaled (num den : Nat) (q : Int) : Nat × Nat :=
  (num * Nat.pow 2 (-q).toNat, den * Nat.pow 2 q.toNat)

/-- The floor of the binary logarithm of a positive ratio. -/
def log2Ratio (num den : Nat) : Int :=
  let guess : Int := (Nat.log2 num : Int) - (Nat.log2 den : Int)
  let (n, d) := scaled num den guess
  if n < d then guess - 1 else guess

/-- The exponent of the last place of the number nearest to a positive ratio. -/
def placeOf (num den : Nat) : Int :=
  max (log2Ratio num den - 52) (-1074)

/-- The number nearest to `± num / den`. -/
def ofRatio (negative : Bool) (num den : Nat) : Binary64 :=
  if num = 0 then
    .finite negative 0 (-1074)
  else
    let q := placeOf num den
    let (n, d) := scaled num den q
    let m := roundHalfEven n d
    let (m, q) := if m = Nat.pow 2 53 then (Nat.pow 2 52, q + 1) else (m, q)
    if 971 < q then .infinite negative else .finite negative m q

/-- The magnitude of a significand at an exponent, as a ratio of natural numbers. -/
def ratio (m : Nat) (q : Int) : Nat × Nat :=
  (m * Nat.pow 2 q.toNat, Nat.pow 2 (-q).toNat)

/-! ## Constants and conversions -/

def zero : Binary64 := .finite false 0 (-1074)

/-- The number nearest to a natural number. -/
def ofNat (n : Nat) : Binary64 := ofRatio false n 1

instance : Inhabited Binary64 := ⟨zero⟩

def isNaN : Binary64 → Bool
  | .nan _ => true
  | _ => false

/-- The sixty-four bits of a number: sign, biased exponent, fraction. -/
def toBits : Binary64 → Nat
  | .nan s => signBit s + 0x7ff8000000000000
  | .infinite s => signBit s + 0x7ff0000000000000
  | .finite s m q =>
    if m < Nat.pow 2 52 then signBit s + m
    else signBit s + ((q + 1075).toNat * Nat.pow 2 52 + (m - Nat.pow 2 52))
where
  signBit (s : Bool) : Nat := if s then Nat.pow 2 63 else 0

/-! ## Arithmetic -/

/-- The signed numerator of a finite number over its denominator. -/
def signedNum (s : Bool) (n : Nat) : Int :=
  if s then -(n : Int) else n

def add : Binary64 → Binary64 → Binary64
  | .nan s, _ => .nan s
  | _, .nan s => .nan s
  | .infinite s, .infinite t => if s = t then .infinite s else .nan false
  | .infinite s, .finite .. => .infinite s
  | .finite .., .infinite t => .infinite t
  | .finite s m q, .finite t k p =>
    let (n₁, d₁) := ratio m q
    let (n₂, d₂) := ratio k p
    let sum := signedNum s n₁ * d₂ + signedNum t n₂ * d₁
    ofRatio (if sum = 0 then s && t else sum < 0) sum.natAbs (d₁ * d₂)

def mul : Binary64 → Binary64 → Binary64
  | .nan s, _ => .nan s
  | _, .nan s => .nan s
  | .infinite s, .infinite t => .infinite (s != t)
  | .infinite s, .finite t m _ => if m = 0 then .nan false else .infinite (s != t)
  | .finite s m _, .infinite t => if m = 0 then .nan false else .infinite (s != t)
  | .finite s m q, .finite t k p =>
    let (n₁, d₁) := ratio m q
    let (n₂, d₂) := ratio k p
    ofRatio (s != t) (n₁ * n₂) (d₁ * d₂)

def div : Binary64 → Binary64 → Binary64
  | .nan s, _ => .nan s
  | _, .nan s => .nan s
  | .infinite _, .infinite _ => .nan false
  | .infinite s, .finite t _ _ => .infinite (s != t)
  | .finite s _ _, .infinite t => .finite (s != t) 0 (-1074)
  | .finite s m q, .finite t k p =>
    if k = 0 then
      if m = 0 then .nan false else .infinite (s != t)
    else
      let (n₁, d₁) := ratio m q
      let (n₂, d₂) := ratio k p
      ofRatio (s != t) (n₁ * d₂) (d₁ * n₂)

instance : Add Binary64 := ⟨add⟩
instance : Mul Binary64 := ⟨mul⟩
instance : Div Binary64 := ⟨div⟩

/-! ## Order -/

/-- The order of two numbers; the two zeros are equal, and nothing compares with a NaN. -/
def compare? : Binary64 → Binary64 → Option Ordering
  | .nan _, _ => none
  | _, .nan _ => none
  | .infinite s, .infinite t => some (Ord.compare t s)
  | .infinite s, .finite .. => some (if s then .lt else .gt)
  | .finite .., .infinite t => some (if t then .gt else .lt)
  | .finite s m q, .finite t k p =>
    let (n₁, d₁) := ratio m q
    let (n₂, d₂) := ratio k p
    some (Ord.compare (signedNum s n₁ * d₂) (signedNum t n₂ * d₁))

/-- Strictly below; false when an operand is not a number. -/
def blt (a b : Binary64) : Bool := compare? a b == some .lt

/-- Below or equal; false when an operand is not a number. -/
def ble (a b : Binary64) : Bool :=
  match compare? a b with
  | some .lt | some .eq => true
  | _ => false

/-- Equal as numbers; the two zeros are equal and a NaN is equal to nothing. -/
def beqNumber (a b : Binary64) : Bool := compare? a b == some .eq

/-! ## Whole numbers -/

/-- The nearest whole number, a half going up, clamped to sixty-four unsigned bits; negative
numbers and NaN give zero. -/
def toWord : Binary64 → Nat
  | .nan _ => 0
  | .infinite s => if s then 0 else Nat.pow 2 64 - 1
  | .finite s m q =>
    let (n, d) := ratio m q
    if s then 0 else min (roundHalfUp n d) (Nat.pow 2 64 - 1)

end Binary64
end RecordFlow
