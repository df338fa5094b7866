import DataLayer.Number.Binary64
import DataLayer.Text.Digit

/-! The shortest decimal that reads back as the same floating-point number.

The reals that round to a number form an interval around it, whose ends belong to it exactly
when its last bit is even. For one digit, two digits and so on the two neighbours of the number
on the decimal grid are tried; the first grid with a neighbour inside decides, and of two the
nearer is taken. -/

namespace DataLayer.Shortest

/-- A positive quantity `count * 2 ^ two * 10 ^ ten`. -/
structure Quantity where
  count : Nat
  two : Int := 0
  ten : Int := 0

/-- Both quantities over a common unit. -/
def Quantity.align (a b : Quantity) : Nat × Nat :=
  let two := min a.two b.two
  let ten := min a.ten b.ten
  (a.count * twoTo (a.two - two).toNat * tenTo (a.ten - ten).toNat,
    b.count * twoTo (b.two - two).toNat * tenTo (b.ten - ten).toNat)

/-- Holds when the first quantity is smaller. -/
def Quantity.less (a b : Quantity) : Bool := let (x, y) := a.align b; x < y

/-- Holds when the first quantity is not larger. -/
def Quantity.atMost (a b : Quantity) : Bool := let (x, y) := a.align b; x ≤ y

/-- The largest whole `n` with `n * 10 ^ ten` at most the quantity. -/
def Quantity.floorAt (a : Quantity) (ten : Int) : Nat :=
  let (x, unit) := a.align ⟨1, 0, ten⟩
  x / unit

/-- The interval of reals that round to `magnitude * 2 ^ scale`. -/
structure Interval where
  value : Quantity
  low : Quantity
  high : Quantity
  closed : Bool

/-- The interval of a number. Below a power of two the gap is half as wide. -/
def Interval.around (magnitude : Nat) (scale : Int) : Interval where
  value := ⟨4 * magnitude, scale - 2, 0⟩
  low := ⟨if magnitude = twoTo 52 && scale != -1074 then 4 * magnitude - 1
    else 4 * magnitude - 2,
    scale - 2, 0⟩
  high := ⟨4 * magnitude + 2, scale - 2, 0⟩
  closed := magnitude % 2 == 0

/-- Holds of quantities inside the interval. -/
def Interval.contains (i : Interval) (a : Quantity) : Bool :=
  if i.closed then i.low.atMost a && a.atMost i.high else i.low.less a && a.less i.high

/-- The power of ten at or just below a quantity, sought downwards from `start`. -/
def leadingPower (a : Quantity) : Nat → Int → Int
  | 0, start => start
  | fuel + 1, start =>
    if (⟨1, 0, start⟩ : Quantity).atMost a then start else leadingPower a fuel (start - 1)

/-- The neighbour of the value on the grid of `10 ^ ten` that lies inside, the nearer of two. -/
def Interval.neighbour? (i : Interval) (ten : Int) : Option Nat :=
  let below := i.value.floorAt ten
  let lower : Quantity := ⟨below, 0, ten⟩
  let upper : Quantity := ⟨below + 1, 0, ten⟩
  let fits (a : Quantity) : Bool := a.count != 0 && i.contains a
  if fits lower && fits upper then
    let (twice, sum) := (⟨2 * i.value.count, i.value.two, 0⟩ : Quantity).align
      ⟨2 * below + 1, 0, ten⟩
    some (if twice < sum || (twice == sum && below % 2 == 0) then below else below + 1)
  else if fits lower then some below
  else if fits upper then some (below + 1)
  else none

/-- Tries the grids of `digits`, `digits + 1`, … digits; seventeen always suffice. -/
def search (i : Interval) (lead : Int) : Nat → Nat → Nat × Int
  | 0, digits => (i.value.floorAt (lead - digits), lead - digits)
  | fuel + 1, digits =>
    let ten := lead - digits + 1
    match i.neighbour? ten with
    | some count => (count, ten)
    | none => search i lead fuel (digits + 1)

/-- Moves zeros at the end of the digits into the exponent. -/
def withoutTrailingZeros : Nat → Nat × Int → Nat × Int
  | 0, pair => pair
  | fuel + 1, (digits, ten) =>
    if digits != 0 && digits % 10 == 0 then withoutTrailingZeros fuel (digits / 10, ten + 1)
    else (digits, ten)

/-- The shortest decimal `digits * 10 ^ exponent` that reads back as `magnitude * 2 ^ scale`. -/
def shortest (magnitude : Nat) (scale : Int) : Nat × Int :=
  let i := Interval.around magnitude scale
  withoutTrailingZeros 20 (search i (leadingPower i.value 640 309) 17 1)

end DataLayer.Shortest

namespace DataLayer.Binary64

open DataLayer.Text DataLayer.Shortest

/-- Digits with the point after the first `point` of them, zeros being filled in. -/
def positional (digits : List Char) (point : Int) : List Char :=
  if point ≤ 0 then '0' :: '.' :: List.replicate (-point).toNat '0' ++ digits
  else
    let whole := digits.take point.toNat
    let filled := whole ++ List.replicate (point.toNat - whole.length) '0'
    let rest := digits.drop point.toNat
    filled ++ '.' :: (if rest.isEmpty then ['0'] else rest)

/-- Digits with an exponent of at least two digits and its sign. -/
def exponential (digits : List Char) (exponent : Int) : List Char :=
  let mantissa := match digits with
    | [] => []
    | [digit] => [digit]
    | digit :: rest => digit :: '.' :: rest
  mantissa ++ 'e' :: (if exponent < 0 then '-' else '+') :: (padded 2 exponent.natAbs).toList

/-- The text of a floating-point number: the shortest digits that read back, in positional
notation from `1e-4` up to below `1e16`. -/
def text (x : Binary64) : String :=
  match x.reading with
  | .undefined => "nan"
  | .infinite negative => if negative then "-inf" else "inf"
  | .finite negative magnitude scale =>
    let body := if magnitude = 0 then ['0', '.', '0'] else
      let (digits, ten) := shortest magnitude scale
      let chars := (decimal digits).toList
      let point : Int := ten + chars.length
      if -4 < point && point ≤ 16 then positional chars point else exponential chars (point - 1)
    String.ofList (if negative then '-' :: body else body)

end DataLayer.Binary64
