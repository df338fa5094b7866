import DataLayer.Value.Basic

/-! Equality of values. Numbers are equal across their kinds, a truth value counts as zero or
one, a member of a closed set equals the word that it stands in for, and maps are equal whatever
the order of their entries. -/

namespace DataLayer.Value

/-- A value seen as a number. -/
inductive Number where
  | whole (value : Int)
  | binary (value : Binary64)
  | decimal (value : Decimal)

/-- The number that a value is, if it is one. -/
def number? : Value → Option Number
  | .bool value => some (.whole (if value then 1 else 0))
  | .int value => some (.whole value)
  | .float value => some (.binary value)
  | .decimal value => some (.decimal value)
  | _ => none

/-- Holds when a floating-point number and a decimal one are the same number. -/
def Number.sameBinaryDecimal (x : Binary64) (d : Decimal) : Bool :=
  match x.reading, d with
  | .finite negative magnitude scale, .finite negative' digits exponent =>
    magnitude * twoTo scale.toNat * tenTo (-exponent).toNat
        == digits * tenTo exponent.toNat * twoTo (-scale).toNat
      && (magnitude == 0 || negative == negative')
  | .infinite negative, .infinite negative' => negative == negative'
  | _, _ => false

/-- Equality of numbers of any kind. -/
def Number.same : Number → Number → Bool
  | .whole m, .whole n => m == n
  | .whole m, .binary x => x.equalsInt m
  | .whole m, .decimal d => d.equalsInt m
  | .binary x, .whole n => x.equalsInt n
  | .binary x, .binary y => x.sameNumber y
  | .binary x, .decimal d => sameBinaryDecimal x d
  | .decimal d, .whole n => d.equalsInt n
  | .decimal d, .binary x => sameBinaryDecimal x d
  | .decimal d, .decimal e => d.sameNumber e

/-- Equality of moments: those with an offset are compared in universal time. -/
def sameMoment (m n : Moment) : Bool :=
  match m.time.offset, n.time.offset with
  | none, none => m == n
  | some a, some b => m.micros - a == n.micros - b
  | _, _ => false

/-- Equality of times of day: those with an offset are compared in universal time. -/
def sameTime (t u : Time) : Bool :=
  let micros (t : Time) : Int := 1000000 * (3600 * t.hour + 60 * t.minute + t.second) + t.micro
  match t.offset, u.offset with
  | none, none => t == u
  | some a, some b => micros t - a == micros u - b
  | _, _ => false

/-- Equality of values that hold no others. -/
def sameScalar (v w : Value) : Bool :=
  match v.number?, w.number? with
  | some m, some n => m.same n
  | none, none =>
    match v.text?, w.text? with
    | some s, some t => s == t
    | none, none =>
      match v, w with
      | .null, .null => true
      | .bytes a, .bytes b => a == b
      | .date a, .date b => a == b
      | .datetime a, .datetime b => sameMoment a b
      | .time a, .time b => sameTime a b
      | _, _ => false
    | _, _ => false
  | _, _ => false

mutual

/-- Equality of values. -/
def same : Value → Value → Bool
  | .list items, other =>
    match other with
    | .list others => sameItems items others
    | _ => false
  | .tuple items, other =>
    match other with
    | .tuple others => sameItems items others
    | _ => false
  | .map entries, other =>
    match other with
    | .map others => entries.length == others.length && sameEntries entries others
    | _ => false
  | value, other => sameScalar value other

/-- Equality of rows of values. -/
def sameItems : List Value → List Value → Bool
  | [], others => others.isEmpty
  | item :: items, others =>
    match others with
    | [] => false
    | other :: rest => same item other && sameItems items rest

/-- Holds when each entry is found among the others. -/
def sameEntries : List (Value × Value) → List (Value × Value) → Bool
  | [], _ => true
  | entry :: entries, others => others.any (sameEntry entry) && sameEntries entries others

/-- Equality of entries. -/
def sameEntry : Value × Value → Value × Value → Bool
  | (key, value), other => same key other.1 && same value other.2

end

instance : BEq Value := ⟨same⟩

end DataLayer.Value
