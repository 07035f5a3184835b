import RecordFlow.Number.Binary64

/-!
# Fixed — numbers with a fixed count of decimal places

The exact binary value is rounded to the last place, a half going to the even neighbour.
-/

namespace RecordFlow
namespace Fixed

/-- A natural number read as a count of units in the last of `places` decimal places. -/
def placed (places units : Nat) : List Char :=
  if places = 0 then Nat.toDigits 10 units
  else
    let fraction := Nat.toDigits 10 (units % Nat.pow 10 places)
    Nat.toDigits 10 (units / Nat.pow 10 places) ++
      '.' :: (List.replicate (places - fraction.length) '0' ++ fraction)

/-- The text of a number with `places` decimal places. -/
def text (places : Nat) : Binary64 → String
  | .nan _ => "NaN"
  | .infinite s => if s then "-inf" else "inf"
  | .finite s m q =>
    let (n, d) := Binary64.ratio m q
    let sign := if s then ['-'] else []
    String.ofList (sign ++ placed places (Binary64.roundHalfEven (n * Nat.pow 10 places) d))

end Fixed
end RecordFlow
