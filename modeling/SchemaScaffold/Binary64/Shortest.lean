import SchemaScaffold.Binary64.Basic

/-!
# The shortest decimal that reads back

* `Decimal`: digits and the power of ten of the last of them.
* `Binary64.shortest`: on the coarsest decimal grid that meets the interval of reals that round to
  the number, the point nearest to it, the even one of two.
-/

namespace SchemaScaffold

/-- The decimal `digits · 10 ^ power`. -/
structure Decimal where
  digits : Nat
  power : Int
  deriving Repr, DecidableEq

namespace Decimal

/-- The numerator and the denominator of ten to a power. -/
def powerRatio : Int → Nat × Nat
  | .ofNat up => (Nat.pow 10 up, 1)
  | .negSucc down => (1, Nat.pow 10 (down + 1))

/-- The decimal without zeros at its end. -/
def strip : Nat → Decimal → Decimal
  | 0, d => d
  | fuel + 1, d =>
    if d.digits ≠ 0 ∧ d.digits % 10 = 0 then strip fuel ⟨d.digits / 10, d.power + 1⟩ else d

end Decimal

namespace Binary64

/-- The bounds of the reals that round to `x`, in quarters of its last place: `x` itself is
`4 · mantissa` of them, and below a power of two the places are half as wide. -/
def interval (x : Binary64) : Nat × Nat :=
  let below := if x.mantissa = Nat.pow 2 52 ∧ x.exponent > -1074 then 1 else 2
  (4 * x.mantissa - below, 4 * x.mantissa + 2)

/-- Compares `digits · 10 ^ power` with `quarters · 2 ^ (exponent - 2)`. -/
def compareGrid (digits : Nat) (power : Int) (quarters : Nat) (exponent : Int) : Ordering :=
  let (tenNum, tenDen) := Decimal.powerRatio power
  let (twoNum, twoDen) := (Binary64.mk false quarters (exponent - 2)).toRatio
  compare (digits * tenNum * twoDen) (twoNum * tenDen)

/-- Whether the decimal reads back as `x`; the ends of the interval count for even mantissas. -/
def readsBack (x : Binary64) (digits : Nat) (power : Int) : Bool :=
  let (low, high) := x.interval
  let atLow := compareGrid digits power low x.exponent
  let atHigh := compareGrid digits power high x.exponent
  if x.mantissa % 2 = 0 then atLow != .lt && atHigh != .gt else atLow == .gt && atHigh == .lt

/-- The floor of `x / 10 ^ power`. -/
def floorAt (x : Binary64) (power : Int) : Nat :=
  let (num, den) := x.toRatio
  let (tenNum, tenDen) := Decimal.powerRatio power
  num * tenDen / (den * tenNum)

/-- Of the two grid points around `x`, the nearer one that reads back, of equally near ones the
even one. -/
def gridPoint? (x : Binary64) (power : Int) : Option Decimal :=
  let down := x.floorAt power
  let near :=
    match compareGrid (2 * down + 1) power (8 * x.mantissa) x.exponent with
    | .lt => down + 1
    | .eq => down + down % 2
    | .gt => down
  match x.readsBack down power && down != 0, x.readsBack (down + 1) power with
  | true, true => some ⟨near, power⟩
  | true, false => some ⟨down, power⟩
  | false, true => some ⟨down + 1, power⟩
  | false, false => none

/-- The number of digits before the decimal point, negative for zeros after it. -/
def magnitude (x : Binary64) : Int :=
  let whole := x.floorAt 0
  if whole ≠ 0 then (toString whole).length
  else
    let reaches (zeros : Nat) : Bool := x.floorAt (Int.negSucc zeros) ≠ 0
    Int.negOfNat (((List.range 330).find? reaches).getD 0)

/-- The shortest decimal that reads back as the absolute value of `x`, the nearest of those. -/
def shortest (x : Binary64) : Decimal :=
  if x.mantissa = 0 then ⟨0, 0⟩
  else
    let magnitude := x.magnitude
    let found := (List.range 17).findSome? fun count =>
      x.gridPoint? (magnitude - (count + 1 : Nat))
    (found.getD ⟨0, 0⟩).strip 20

end Binary64

end SchemaScaffold
