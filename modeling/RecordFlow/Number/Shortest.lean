import RecordFlow.Number.Binary64

/-!
# Shortest — the fewest decimal digits that read back

A finite number is the nearest one to every real in an interval around it; the ends belong to the
interval when the significand is even.  `shortest` finds the least count of digits for which a
decimal number lies in that interval, and of two candidates takes the nearer.  `Layout` says which
of two equally near ones is taken and how the digits are set out: with a positional point only, or
with an exponent outside a range.
-/

namespace RecordFlow
namespace Shortest

structure Digits where
  digits : Nat
  scale : Int
deriving DecidableEq, Repr

/-- The reals that read back as a number: from `low` to `high`, over one denominator, with the
number itself between them. -/
structure Interval where
  low : Nat
  value : Nat
  high : Nat
  denominator : Nat
  closed : Bool

/-- The interval of a positive number `m * 2 ^ q`.  Below a power of two the neighbour is half as
far away as above it. -/
def intervalOf (m : Nat) (q : Int) : Interval :=
  let (n, d) := Binary64.ratio 1 (q - 2)
  let below := if m = Nat.pow 2 52 ∧ q ≠ -1074 then 1 else 2
  { low := (4 * m - below) * n, value := 4 * m * n, high := (4 * m + 2) * n,
    denominator := d, closed := m % 2 = 0 }

def Interval.contains (i : Interval) (x : Digits) : Bool :=
  let v := x.digits * Nat.pow 10 x.scale.toNat * i.denominator
  let s := Nat.pow 10 (-x.scale).toNat
  if i.closed then i.low * s ≤ v ∧ v ≤ i.high * s else i.low * s < v ∧ v < i.high * s

/-- The count of decimal digits before the point of a positive ratio; zero or negative when it is
below one. -/
def magnitude (num den : Nat) : Int :=
  let whole := num / den
  if whole = 0 then
    -- `den / num` lies in `[10 ^ k, 10 ^ (k + 1))` for the count `k + 1` of its digits
    let inverse := (Nat.toDigits 10 (den / num)).length
    if num * Nat.pow 10 (inverse - 1) = den then 2 - (inverse : Int) else 1 - (inverse : Int)
  else (Nat.toDigits 10 whole).length

/-- Which of two equally near neighbours is taken: the greater, or the one with an even last
digit. -/
inductive Tie where
  | up
  | even
deriving DecidableEq, Repr

/-- Whether the lower neighbour `below` is taken, the value lying `rest` parts of `whole` above
it. -/
def Tie.takesBelow (tie : Tie) (below rest whole : Nat) : Bool :=
  match compare (2 * rest) whole with
  | .lt => true
  | .eq => tie == .even && below % 2 == 0
  | .gt => false

/-- The best decimal number with its last place at `scale`, if one lies in the interval. -/
def Interval.onGrid? (i : Interval) (tie : Tie) (scale : Int) : Option Digits :=
  let num := i.value * Nat.pow 10 (-scale).toNat
  let den := i.denominator * Nat.pow 10 scale.toNat
  let below : Digits := ⟨num / den, scale⟩
  let above : Digits := ⟨num / den + 1, scale⟩
  match below.digits != 0 && i.contains below, i.contains above with
  | true, true => some (if tie.takesBelow below.digits (num % den) den then below else above)
  | true, false => some below
  | false, true => some above
  | false, false => none

/-- Tries `fuel` further digits, from the place `scale` on. -/
def Interval.search (i : Interval) (tie : Tie) : Nat → Int → Digits
  | 0, scale =>
    ⟨i.value * Nat.pow 10 (-scale).toNat / (i.denominator * Nat.pow 10 scale.toNat), scale⟩
  | fuel + 1, scale =>
    match i.onGrid? tie scale with
    | some x => x
    | none => i.search tie fuel (scale - 1)

/-- Moves zeros at the end of the digits into the scale. -/
def Digits.trimmed (x : Digits) : Nat → Digits
  | 0 => x
  | fuel + 1 =>
    if x.digits ≠ 0 ∧ x.digits % 10 = 0 then
      Digits.trimmed ⟨x.digits / 10, x.scale + 1⟩ fuel
    else x

/-- The shortest decimal number that reads back as the positive number `m * 2 ^ q`. -/
def shortest (tie : Tie) (m : Nat) (q : Int) : Digits :=
  let i := intervalOf m q
  (i.search tie 17 (magnitude i.value i.denominator - 1)).trimmed 20

/-! ## Setting out the digits -/

/-- How digits are written: `tie` decides between equally near numbers, exponents of the leading
digit from `least` to `greatest` are written with a positional point, and a whole number has `.0`
added when `pointed`. -/
structure Layout where
  tie : Tie
  least : Option Int
  greatest : Option Int
  pointed : Bool

/-- Only positional, a whole number without a point, and the greater of two neighbours. -/
def Layout.plain : Layout := ⟨.up, none, none, false⟩

/-- Positional for exponents from -5 to 15 and with a point, otherwise with a signed exponent; the
even of two neighbours. -/
def Layout.scientific : Layout := ⟨.even, some (-5), some 15, true⟩

def zeros (n : Nat) : List Char := List.replicate n '0'

def positional (pointed : Bool) (ds : List Char) (scale : Int) : List Char :=
  if 0 ≤ scale then
    ds ++ zeros scale.toNat ++ (if pointed then ['.', '0'] else [])
  else
    let places := (-scale).toNat
    if places < ds.length then
      ds.take (ds.length - places) ++ '.' :: ds.drop (ds.length - places)
    else
      '0' :: '.' :: (zeros (places - ds.length) ++ ds)

def exponential (ds : List Char) (exponent : Int) : List Char :=
  let mark := if exponent < 0 then ['e', '-'] else ['e', '+']
  let fraction := if ds.length = 1 then [] else '.' :: ds.drop 1
  ds.take 1 ++ fraction ++ mark ++ Nat.toDigits 10 exponent.natAbs

def Layout.render (layout : Layout) (x : Digits) : List Char :=
  let ds := Nat.toDigits 10 x.digits
  let exponent : Int := ds.length - 1 + x.scale
  let aboveLeast := layout.least.all (decide <| · ≤ exponent)
  let belowGreatest := layout.greatest.all (decide <| exponent ≤ ·)
  if aboveLeast && belowGreatest then positional layout.pointed ds x.scale
  else exponential ds exponent

def finiteText (layout : Layout) (negative : Bool) (m : Nat) (q : Int) : String :=
  let sign := if negative then ['-'] else []
  let x : Digits := if m = 0 then ⟨0, 0⟩ else shortest layout.tie m q
  String.ofList (sign ++ layout.render x)

def text : Binary64 → String
  | .nan _ => "NaN"
  | .infinite s => if s then "-inf" else "inf"
  | .finite s m q => finiteText .plain s m q

end Shortest
end RecordFlow
