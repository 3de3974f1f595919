import SchemaGate.Json.Value

/-!
# Comparing JSON values

Numbers are compared by what they stand for, not by how they are written.  Order is exact; two numbers
of different kinds are equal when they round to the same floating-point number.
-/

namespace SchemaGate

/-- The number `significand · 2 ^ exponent`. -/
structure Dyadic where
  significand : Int
  exponent : Int
deriving DecidableEq, Repr

namespace Dyadic

def lt (a b : Dyadic) : Bool :=
  let low := min a.exponent b.exponent
  a.significand * twoTo (a.exponent - low).toNat < b.significand * twoTo (b.exponent - low).toNat

def toInt? (a : Dyadic) : Option Int :=
  if 0 ≤ a.exponent then some (a.significand * twoTo a.exponent.toNat)
  else
    let unit : Int := twoTo (-a.exponent).toNat
    if a.significand % unit = 0 then some (a.significand / unit) else none

def ofFloat (f : Float) : Dyadic :=
  match Binary.ofFloat? f with
  | none => ⟨0, 0⟩
  | some b => ⟨if isSigned f then -(b.significand : Int) else b.significand, b.exponent⟩

end Dyadic

namespace Number

def toDyadic : Number → Dyadic
  | .integer n => ⟨n, 0⟩
  | .float f => .ofFloat f

def toFloat : Number → Float
  | .integer n => Float.ofInt n
  | .float f => f

def lt (a b : Number) : Bool :=
  a.toDyadic.lt b.toDyadic

def le (a b : Number) : Bool :=
  !b.lt a

def same : Number → Number → Bool
  | .integer a, .integer b => a = b
  | a, b => a.toFloat == b.toFloat

def isWhole (n : Number) : Bool :=
  n.toDyadic.toInt?.isSome

/-- Whether the number is a multiple of `divisor`.  For a whole divisor the numbers count as they
round to floating point.  For any other the shortest decimals of both are divided; zero passes, and
no other number below the divisor does. -/
def isMultipleOf (n : Number) (divisor : Float) : Bool :=
  let f := n.toFloat
  match (Dyadic.ofFloat divisor).toInt? with
  | some d =>
    match (Dyadic.ofFloat f).toInt? with
    | some v => d ≠ 0 && v % d = 0
    | none => false
  | none =>
    if f == 0 then true
    else if f < divisor then false
    else
      let a := Decimal.ofFloat f
      let b := Decimal.ofFloat divisor
      let low := min a.exponent b.exponent
      let whole := b.digits * tenTo (b.exponent - low).toNat
      whole ≠ 0 && a.digits * tenTo (a.exponent - low).toNat % whole = 0

end Number

namespace Json

mutual

/-- Whether two values are equal, numbers being compared by value. -/
def same : Json → Json → Bool
  | .null, .null => true
  | .bool a, .bool b => a = b
  | .number a, .number b => a.same b
  | .string a, .string b => a = b
  | .array a, .array b => sameItems a b
  | .object a, .object b => sameMembers a b
  | _, _ => false

def sameItems : List Json → List Json → Bool
  | [], [] => true
  | a :: as, b :: bs => same a b && sameItems as bs
  | _, _ => false

def sameMembers : List (String × Json) → List (String × Json) → Bool
  | [], [] => true
  | (m, a) :: as, (n, b) :: bs => m = n && same a b && sameMembers as bs
  | _, _ => false

end

def allDistinct : List Json → Bool
  | [] => true
  | v :: rest => !rest.any (same v) && allDistinct rest

end Json

end SchemaGate
