/-!
# Patterns

Regular expressions and the places of a text where they end.  Only whether a pattern occurs matters
here, so a pattern denotes, for each place where it may begin, the set of places where it may end; no
order of trial is needed.
-/

namespace SchemaGate

/-- Inclusive ranges of code points. -/
abbrev CharSet := List (Nat × Nat)

namespace CharSet

def mem (c : Char) (s : CharSet) : Bool :=
  s.any fun (low, high) => low ≤ c.toNat && c.toNat ≤ high

def ofChars (text : String) : CharSet :=
  text.toList.map fun c => (c.toNat, c.toNat)

def sorted (s : CharSet) : CharSet :=
  s.mergeSort fun a b => a.1 ≤ b.1

/-- The gaps at and after `start` between ranges sorted by their first code points. -/
def gaps (start : Nat) : CharSet → CharSet
  | [] => if start ≤ 0x10FFFF then [(start, 0x10FFFF)] else []
  | (low, high) :: rest =>
    let after := gaps (max start (high + 1)) rest
    if start < low then (start, low - 1) :: after else after

def complement (s : CharSet) : CharSet :=
  gaps 0 s.sorted

end CharSet

inductive Pattern where
  | empty
  | set (chars : CharSet)
  | seq (first second : Pattern)
  | alt (left right : Pattern)
  /-- Between `least` and `most` copies; without `most`, any number from `least` on. -/
  | times (body : Pattern) (least : Nat) (most : Option Nat)
  | textStart
  | textEnd
  | wordEdge (wanted : Bool)
  | ahead (wanted : Bool) (body : Pattern)
  | behind (wanted : Bool) (body : Pattern)
deriving Repr, Inhabited

namespace Pattern

def isWordAt (text : Array Char) (i : Nat) : Bool :=
  match text[i]? with
  | some c => c.isAlphanum || c = '_'
  | none => false

def isWordEdge (text : Array Char) (i : Nat) : Bool :=
  (if i = 0 then false else isWordAt text (i - 1)) != isWordAt text i

/-- The places reached from `places` by at most `fuel` steps, together with `places`. -/
def closure (step : Nat → List Nat) : (fuel : Nat) → (seen fresh : List Nat) → List Nat
  | 0, seen, _ => seen
  | fuel + 1, seen, fresh =>
    let next := (fresh.flatMap step).eraseDups.filter fun i => !seen.contains i
    if next.isEmpty then seen else closure step fuel (seen ++ next) next

/-- The places reached from `places` by exactly `n` steps. -/
def steps (step : Nat → List Nat) : Nat → List Nat → List Nat
  | 0, places => places
  | n + 1, places =>
    if places.isEmpty then [] else steps step n (places.flatMap step).eraseDups

/-- The places of the text where the pattern may end when it begins at the given one. -/
def ends (text : Array Char) : Pattern → Nat → List Nat
  | .empty, i => [i]
  | .set chars, i =>
    match text[i]? with
    | some c => if chars.mem c then [i + 1] else []
    | none => []
  | .seq a b, i => ((ends text a i).flatMap (ends text b)).eraseDups
  | .alt a b, i => (ends text a i ++ ends text b i).eraseDups
  | .times body least most, i =>
    let first := steps (ends text body) least [i]
    let extra := match most with
      | some most => most - least
      | none => text.size + 1
    closure (ends text body) extra first first
  | .textStart, i => if i = 0 then [i] else []
  | .textEnd, i => if i = text.size then [i] else []
  | .wordEdge wanted, i => if isWordEdge text i = wanted then [i] else []
  | .ahead wanted body, i => if !(ends text body i).isEmpty = wanted then [i] else []
  | .behind wanted body, i =>
    if ((List.range (i + 1)).any fun j => (ends text body j).contains i) = wanted then [i] else []

def occursIn (p : Pattern) (text : String) : Bool :=
  let chars := text.toList.toArray
  (List.range (chars.size + 1)).any fun i => !(ends chars p i).isEmpty

end Pattern

end SchemaGate
