import SourceIndex.Decimal.Double

/-!
# The shortest decimal that reads back

A floating-point number is written with the fewest digits that identify it: of all decimals that
round to the number one with the fewest digits, and of those the nearest to the number. The search
goes over decimal grids of falling step and tries the two neighbours of the number on each, all in
whole-number arithmetic. How the digits are laid out is a separate decision, made by the format
that writes them.
-/

set_option autoImplicit false

namespace SourceIndex.Decimal

/-- A natural number's decimal digits, as characters. -/
def digitChars (value : Nat) : List Char :=
  Nat.toDigits 10 value

/-- A positive number compared with a decimal grid: the number is `4 · significand` units, the grid
point `n` is `n · step` in a common denominator, and a unit is `unit` in that denominator. -/
structure Grid where
  /-- The number in units. -/
  value : Nat
  /-- The lower end, in units, of the decimals that round to the number. -/
  lower : Nat
  /-- The upper end in units. -/
  upper : Nat
  /-- The ends themselves round to the number. -/
  closed : Bool
  /-- The grid's step in the common denominator. -/
  step : Nat
  /-- A unit in the common denominator. -/
  unit : Nat

namespace Grid

/-- The grid of the multiples of `10 ^ place` around a number. A quarter of the significand's last
place is the unit, because the distance to the next smaller number is half as large at a power of
two. -/
def around (number : Double) (place : Int) : Grid :=
  let significand := number.significand
  let quarter := number.exponent - 2
  let halved := significand == Nat.pow 2 52 && number.exponent != -1074
  let binary : Nat × Nat :=
    if 0 ≤ quarter then (Nat.pow 2 quarter.toNat, 1) else (1, Nat.pow 2 (-quarter).toNat)
  let decimal : Nat × Nat :=
    if 0 ≤ place then (Nat.pow 10 place.toNat, 1) else (1, Nat.pow 10 (-place).toNat)
  { value := 4 * significand
    lower := if halved then 4 * significand - 1 else 4 * significand - 2
    upper := 4 * significand + 2
    closed := significand % 2 == 0
    step := decimal.1 * binary.2
    unit := binary.1 * decimal.2 }

/-- A grid point rounds to the number. -/
def holds (grid : Grid) (point : Nat) : Bool :=
  let place := point * grid.step
  let low := grid.lower * grid.unit
  let high := grid.upper * grid.unit
  if grid.closed then low ≤ place && place ≤ high else low < place && place < high

/-- The distance from a grid point to the number. -/
def distance (grid : Grid) (point : Nat) : Nat :=
  let place := point * grid.step
  let value := grid.value * grid.unit
  (place - value) + (value - place)

/-- The nearer of the number's two neighbours on the grid that round to it; a tie goes to the even
point. -/
def nearest? (grid : Grid) : Option Nat :=
  let below := grid.value * grid.unit / grid.step
  let above := below + 1
  match grid.holds below, grid.holds above with
  | false, false => none
  | true, false => some below
  | false, true => some above
  | true, true =>
    if grid.distance below < grid.distance above then some below
    else if grid.distance above < grid.distance below then some above
    else if below % 2 = 0 then some below else some above

end Grid

/-- The place of a number's leading digit: the largest power of ten not above it. `searches` bounds
the search below one. -/
def leadingPlace (numerator denominator : Nat) (searches : Nat) : Int :=
  if denominator ≤ numerator then ((digitChars (numerator / denominator)).length : Int) - 1
  else
    match searches with
    | 0 => 0
    | searches + 1 => leadingPlace (10 * numerator) denominator searches - 1

/-- Searches the grids from `place` downward for the first that identifies the number. -/
def searchGrids (number : Double) (place : Int) : Nat → Nat × Int
  | 0 => (0, place)
  | grids + 1 =>
    match (Grid.around number place).nearest? with
    | some point => (point, place)
    | none => searchGrids number (place - 1) grids

/-- The digits of a positive number and the power of ten of the last one. Seventeen grids suffice,
because seventeen digits identify every number. -/
def shortest (number : Double) : Nat × Int :=
  let start := leadingPlace number.ratio.1 number.ratio.2 400
  let found := searchGrids number start 18
  -- a point such as 10 on a grid is 1 on the next coarser one
  if found.1 % 10 = 0 then (found.1 / 10, found.2 + 1) else found

/-! ## A fixed number of places -/

/-- Writes `numerator / denominator` with `places` digits after the point, rounded to the nearest
such decimal, a tie going to the even last digit. -/
def fixedPlaces (numerator denominator places : Nat) : List Char :=
  let scaled := roundQuotient (numerator * Nat.pow 10 places) denominator
  let fraction := digitChars (scaled % Nat.pow 10 places)
  let filled := List.replicate (places - fraction.length) '0' ++ fraction
  digitChars (scaled / Nat.pow 10 places) ++ '.' :: filled

end SourceIndex.Decimal
