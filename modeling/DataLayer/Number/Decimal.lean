import DataLayer.Number.Power
import DataLayer.Text.Blank
import DataLayer.Text.Digit

/-! Decimal numbers that keep their digits: `1.50` has three of them and stays apart from `1.5`
in writing, though the two are equal. -/

namespace DataLayer

/-- A decimal number: `± digits * 10 ^ exponent`, an infinity, or none at all. -/
inductive Decimal where
  | finite (negative : Bool) (digits : Nat) (exponent : Int)
  | infinite (negative : Bool)
  | undefined (negative signaling : Bool) (payload : List Char)
deriving DecidableEq, Repr

namespace Decimal

open DataLayer.Text

private def signText (negative : Bool) : String := if negative then "-" else ""

/-- The text of a number: positional while the exponent is not positive and at most six zeros
follow the point, else with an exponent. -/
def text : Decimal → String
  | .infinite negative => signText negative ++ "Infinity"
  | .undefined negative signaling payload =>
    signText negative ++ (if signaling then "sNaN" else "NaN") ++ String.ofList payload
  | .finite negative digits exponent =>
    let chars := (decimal digits).toList
    let left : Int := exponent + chars.length
    let point : Int := if exponent ≤ 0 && -6 < left then left else 1
    let body :=
      if point ≤ 0 then '0' :: '.' :: List.replicate (-point).toNat '0' ++ chars
      else if chars.length ≤ point.toNat then
        chars ++ List.replicate (point.toNat - chars.length) '0'
      else chars.take point.toNat ++ '.' :: chars.drop point.toNat
    let power := if left = point then ""
      else "E" ++ (if left - point < 0 then "-" else "+") ++ Text.decimal (left - point).natAbs
    signText negative ++ String.ofList body ++ power

/-- Holds of zero, of whatever sign and exponent. -/
def isZero : Decimal → Bool
  | .finite _ digits _ => digits == 0
  | _ => false

/-- The whole part of a finite number, towards zero. -/
def truncated (negative : Bool) (digits : Nat) (exponent : Int) : Int :=
  let whole := digits * tenTo exponent.toNat / tenTo (-exponent).toNat
  if negative then -(Int.ofNat whole) else Int.ofNat whole

/-- Holds when two finite numbers are equal. -/
def sameFinite (negative : Bool) (digits : Nat) (exponent : Int) (negative' : Bool)
    (digits' : Nat) (exponent' : Int) : Bool :=
  let common := min exponent exponent'
  let left := digits * tenTo (exponent - common).toNat
  let right := digits' * tenTo (exponent' - common).toNat
  left == right && (left == 0 || negative == negative')

/-- Equality of numbers; what is no number equals nothing. -/
def sameNumber : Decimal → Decimal → Bool
  | .finite negative digits exponent, .finite negative' digits' exponent' =>
    sameFinite negative digits exponent negative' digits' exponent'
  | .infinite negative, .infinite negative' => negative == negative'
  | _, _ => false

/-- Holds when a decimal number and an integer are the same number. -/
def equalsInt (d : Decimal) (n : Int) : Bool :=
  sameNumber d (.finite (n < 0) n.natAbs 0)

/-- Reads the digits before and after a point. -/
private def readDigits (chars : List Char) : Option (Nat × Int) :=
  let whole := chars.takeWhile fun c => (digitValue? c).isSome
  match chars.dropWhile fun c => (digitValue? c).isSome with
  | [] => if whole.isEmpty then none else some (numberOf (whole.filterMap digitValue?), 0)
  | '.' :: rest =>
    if (whole ++ rest).isEmpty || rest.any fun c => (digitValue? c).isNone then none
    else some (numberOf ((whole ++ rest).filterMap digitValue?), -(Int.ofNat rest.length))
  | _ => none

private def readExponent (chars : List Char) : Option Int :=
  let (negative, digits) := match chars with
    | '-' :: rest => (true, rest)
    | '+' :: rest => (false, rest)
    | rest => (false, rest)
  if digits.isEmpty || digits.any fun c => (digitValue? c).isNone then none
  else
    let size := Int.ofNat (numberOf (digits.filterMap digitValue?))
    some (if negative then -size else size)

private def lowerAscii (chars : List Char) : List Char := chars.map Char.toLower

/-- The digits after the word for no number, without the zeros before them. -/
private def payloadOf (digits : List Char) : List Char :=
  ((digits.filterMap digitValue?).dropWhile (· == 0)).map fun digit => Char.ofNat (48 + digit)

/-- Reads a decimal number as it is written. White space around it does not count, nor do
underscores. -/
def ofText? (written : String) : Option Decimal :=
  let (negative, chars) := match (trimChars isBlank written.toList).filter (· != '_') with
    | '-' :: rest => (true, rest)
    | '+' :: rest => (false, rest)
    | rest => (false, rest)
  let lowered := lowerAscii chars
  if lowered = "inf".toList || lowered = "infinity".toList then some (.infinite negative)
  else if lowered.take 3 = "nan".toList then
    some (.undefined negative false (payloadOf (chars.drop 3)))
  else if lowered.take 4 = "snan".toList then
    some (.undefined negative true (payloadOf (chars.drop 4)))
  else
    let mantissa := chars.takeWhile fun c => c != 'e' && c != 'E'
    match readDigits mantissa with
    | none => none
    | some (digits, shift) =>
      match chars.drop mantissa.length with
      | [] => some (.finite negative digits shift)
      | _ :: power => (readExponent power).map fun e => .finite negative digits (shift + e)

end Decimal
end DataLayer
