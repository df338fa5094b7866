import DataLayer.Number.Power

/-! Floating-point numbers of 64 bits, by their bits.

A finite number is `magnitude * 2 ^ scale` with its sign; everything here is exact arithmetic on
these natural numbers. -/

namespace DataLayer

/-- A 64-bit floating-point number. -/
structure Binary64 where
  bits : UInt64
deriving DecidableEq, Repr, Inhabited

namespace Binary64

/-- What the bits stand for. -/
inductive Reading where
  | finite (negative : Bool) (magnitude : Nat) (scale : Int)
  | infinite (negative : Bool)
  | undefined
deriving DecidableEq, Repr

/-- Holds when the sign bit is set. -/
def negative (x : Binary64) : Bool := x.bits.toNat / twoTo 63 == 1

/-- The eleven bits of the exponent. -/
def exponentField (x : Binary64) : Nat := x.bits.toNat / twoTo 52 % twoTo 11

/-- The fifty-two bits of the fraction. -/
def fraction (x : Binary64) : Nat := x.bits.toNat % twoTo 52

/-- The number that the bits stand for. The leading one of a normal number is not stored. -/
def reading (x : Binary64) : Reading :=
  if x.exponentField = 2047 then
    if x.fraction = 0 then .infinite x.negative else .undefined
  else if x.exponentField = 0 then .finite x.negative x.fraction (-1074)
  else .finite x.negative (twoTo 52 + x.fraction) (x.exponentField - 1075)

private def assemble (negative : Bool) (magnitude : Nat) : Binary64 :=
  ⟨UInt64.ofNat ((if negative then twoTo 63 else 0) + magnitude)⟩

/-- Infinity of a sign. -/
def infinity (negative : Bool) : Binary64 := assemble negative (2047 * twoTo 52)

/-- The number that is none. -/
def nan : Binary64 := assemble false (2047 * twoTo 52 + twoTo 51)

/-- A quotient rounded to the nearest number, a half to the even one. -/
def roundHalfEven (numerator denominator : Nat) : Nat :=
  let whole := numerator / denominator
  let rest := 2 * (numerator % denominator)
  if rest < denominator then whole
  else if denominator < rest then whole + 1
  else whole + whole % 2

/-- The floating-point number nearest to `numerator / denominator`. -/
def ofRatio (negative : Bool) (numerator denominator : Nat) : Binary64 :=
  if numerator = 0 then assemble negative 0
  else
    let scaled (scale : Int) : Nat :=
      roundHalfEven (numerator * twoTo (-scale).toNat) (denominator * twoTo scale.toNat)
    let guess : Int := max (Int.ofNat numerator.log2 - Int.ofNat denominator.log2 - 53) (-1074)
    let scale := if scaled guess < twoTo 53 then guess else guess + 1
    let magnitude := scaled scale
    let scale' := if magnitude = twoTo 53 then scale + 1 else scale
    let magnitude' := if magnitude = twoTo 53 then twoTo 52 else magnitude
    if magnitude' < twoTo 52 then assemble negative magnitude'
    else if 971 < scale' then infinity negative
    else assemble negative ((scale' + 1075).toNat * twoTo 52 + (magnitude' - twoTo 52))

/-- The floating-point number nearest to `digits * 10 ^ exponent`. Exponents that are out of
range by far are not computed. -/
def ofDecimal (negative : Bool) (digits : Nat) (exponent : Int) : Binary64 :=
  if digits = 0 then assemble negative 0
  else
    let size : Int := exponent + (Nat.toDigits 10 digits).length
    if 400 < size then infinity negative
    else if size < -400 then assemble negative 0
    else ofRatio negative (digits * tenTo exponent.toNat) (tenTo (-exponent).toNat)

/-- Holds of both zeros. -/
def isZero (x : Binary64) : Bool :=
  match x.reading with
  | .finite _ magnitude _ => magnitude == 0
  | _ => false

/-- The whole part of a finite number, towards zero. -/
def truncated (negative : Bool) (magnitude : Nat) (scale : Int) : Int :=
  let whole := magnitude * twoTo scale.toNat / twoTo (-scale).toNat
  if negative then -(Int.ofNat whole) else Int.ofNat whole

/-- Holds when a finite number has no fraction. -/
def isWhole (magnitude : Nat) (scale : Int) : Bool := magnitude % twoTo (-scale).toNat == 0

/-- Holds when a floating-point number and an integer are the same number. -/
def equalsInt (x : Binary64) (n : Int) : Bool :=
  match x.reading with
  | .finite negative magnitude scale =>
    isWhole magnitude scale && truncated negative magnitude scale == n
  | _ => false

/-- Equality of numbers: the two zeros are equal, and what is no number equals nothing. -/
def sameNumber (x y : Binary64) : Bool :=
  match x.reading, y.reading with
  | .undefined, _ => false
  | _, .undefined => false
  | _, _ => x.bits == y.bits || (x.isZero && y.isZero)

end Binary64
end DataLayer
