import SchemaGate.Number.Power

/-!
# Shortest decimals

The decimal with the fewest digits that reads back as a given floating-point number; of two such
decimals the nearer, and of two equally near the one that ends in an even digit.  The search runs in
exact arithmetic: a number `m · 2 ^ q` owns the reals that round to it, and the first grid of decimals
that meets this range gives the answer.
-/

namespace SchemaGate

/-- The value `digits · 10 ^ exponent`. -/
structure Decimal where
  digits : Nat
  exponent : Int
deriving DecidableEq, Repr

namespace Decimal

def zero : Decimal := ⟨0, 0⟩

def digitText (d : Decimal) : String :=
  toString d.digits

def magnitude (d : Decimal) : Int :=
  d.exponent + (d.digitText.length - 1 : Nat)

def zeros (n : Nat) : String :=
  String.ofList (List.replicate n '0')

/-- Positional notation; `whole` is what follows the digits of a value without a fraction. -/
def positional (whole : String) (d : Decimal) : String :=
  let ds := d.digitText
  if 0 ≤ d.exponent then ds ++ zeros d.exponent.toNat ++ whole
  else
    let point := ds.length - d.exponent.natAbs
    if d.exponent.natAbs < ds.length then
      String.ofList (ds.toList.take point) ++ "." ++ String.ofList (ds.toList.drop point)
    else "0." ++ zeros (d.exponent.natAbs - ds.length) ++ ds

def scientific (d : Decimal) : String :=
  let mantissa := match d.digitText.toList with
    | [] => ""
    | [c] => c.toString
    | c :: rest => c.toString ++ "." ++ String.ofList rest
  let k := d.magnitude
  mantissa ++ "e" ++ (if 0 ≤ k then "+" else "-") ++ toString k.natAbs

def dropZeros (digits : Nat) (exponent : Int) : Nat → Decimal
  | 0 => ⟨digits, exponent⟩
  | fuel + 1 =>
    if digits ≠ 0 ∧ digits % 10 = 0 then dropZeros (digits / 10) (exponent + 1) fuel
    else ⟨digits, exponent⟩

end Decimal

/-- A positive floating-point number `significand · 2 ^ exponent`; `atBoundary` tells that the gap
below it is half the gap above. -/
structure Binary where
  significand : Nat
  exponent : Int
  atBoundary : Bool
deriving DecidableEq, Repr

namespace Binary

/-- Both sides of `c · 10 ^ g` and `x · 2 ^ p` as whole numbers of one unit. -/
def scaled (c : Nat) (g : Int) (x : Nat) (p : Int) : Nat × Nat :=
  (c * tenTo g.toNat * twoTo (-p).toNat, x * twoTo p.toNat * tenTo (-g).toNat)

/-- Whether `c · 10 ^ g` rounds to the number. -/
def owns (b : Binary) (c : Nat) (g : Int) : Bool :=
  let p := b.exponent - 2
  let (value, low) := scaled c g (4 * b.significand - (if b.atBoundary then 1 else 2)) p
  let (_, high) := scaled c g (4 * b.significand + 2) p
  if b.significand % 2 = 0 then low ≤ value && value ≤ high else low < value && value < high

/-- The largest `k` with `10 ^ k` at most the number. -/
def magnitude (b : Binary) : Int :=
  let num := b.significand * twoTo b.exponent.toNat
  let den := twoTo (-b.exponent).toNat
  if den ≤ num then ((toString (num / den)).length - 1 : Nat)
  else
    let d := (toString (den / num)).length
    if den ≤ num * tenTo (d - 1) then -((d - 1 : Nat) : Int) else -(d : Int)

/-- The decimal nearest to the number on the grid of multiples of `10 ^ g`, if any rounds to it. -/
def onGrid? (b : Binary) (g : Int) : Option Nat :=
  let (unit, value) := scaled 1 g (4 * b.significand) (b.exponent - 2)
  let below := value / unit
  let rest := value % unit
  match b.owns below g, b.owns (below + 1) g with
  | true, true =>
    if 2 * rest < unit then some below
    else if unit < 2 * rest then some (below + 1)
    else if below % 2 = 0 then some below else some (below + 1)
  | true, false => some below
  | false, true => some (below + 1)
  | false, false => none

def shortest (b : Binary) : Decimal :=
  let k := b.magnitude
  let grids := (List.range 17).map fun (n : Nat) => k - (n : Int)
  match grids.findSome? fun g => (b.onGrid? g).map fun digits => (digits, g) with
  | some (digits, g) => Decimal.dropZeros digits g 20
  | none => Decimal.zero

end Binary

def Binary.ofFloat? (f : Float) : Option Binary :=
  let bits : Nat := f.toBits.toNat
  let biased : Nat := bits / twoTo 52 % 2048
  let fraction : Nat := bits % twoTo 52
  if biased = 2047 ∨ (biased = 0 ∧ fraction = 0) then none
  else if biased = 0 then some ⟨fraction, -1074, false⟩
  else some ⟨fraction + twoTo 52, (biased : Int) - 1075, fraction = 0 && 1 < biased⟩

/-- Whether the sign bit is set, as it also is on the negative zero. -/
def isSigned (f : Float) : Bool :=
  twoTo 63 ≤ f.toBits.toNat

/-- The shortest decimal of the magnitude of a finite number. -/
def Decimal.ofFloat (f : Float) : Decimal :=
  match Binary.ofFloat? f with
  | some b => b.shortest
  | none => Decimal.zero

end SchemaGate
