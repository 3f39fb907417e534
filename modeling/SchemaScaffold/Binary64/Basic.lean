/-!
# Binary floating-point numbers of 64 bits

* `Binary64`: a finite number `± mantissa · 2 ^ exponent`.
* `Binary64.ofRatio?`: the number nearest to a quotient, ties going to the even mantissa; there is
  none beyond the largest finite number.
* `Binary64.times?`, `Binary64.over?`: product and quotient, rounded once.
* `Binary64.scale?`: a whole number times a power of ten, as decimal literals are read: the number
  and the power are rounded first and then their product or quotient.
-/

namespace SchemaScaffold

/-- A finite number of 53 significant bits; its exponent is at least -1074. -/
structure Binary64 where
  negative : Bool
  mantissa : Nat
  exponent : Int
  deriving Repr, DecidableEq

namespace Binary64

/-- The positive number zero. -/
def zero : Binary64 := ⟨false, 0, 0⟩

/-- The quotient rounded to a whole number, a tie going to the even one. -/
def roundDiv (num den : Nat) : Nat :=
  let quotient := num / den
  let twice := 2 * (num % den)
  if twice < den then quotient
  else if den < twice then quotient + 1
  else if quotient % 2 = 0 then quotient else quotient + 1

/-- The quotient of `num` by `den · 2 ^ exponent`, rounded to a whole number. -/
def roundScaled (num den : Nat) (exponent : Int) : Nat :=
  match exponent with
  | .ofNat up => roundDiv num (den * Nat.pow 2 up)
  | .negSucc down => roundDiv (num * Nat.pow 2 (down + 1)) den

/-- The exponent at which a quotient has 53 significant bits, or as many as the range allows. -/
def exponentFor (num den : Nat) : Int :=
  let estimate : Int := num.log2 - den.log2 - 53
  let fitting :=
    match estimate with
    | .ofNat up => if num / (den * Nat.pow 2 up) < Nat.pow 2 53 then estimate else estimate + 1
    | .negSucc down =>
      if num * Nat.pow 2 (down + 1) / den < Nat.pow 2 53 then estimate else estimate + 1
  max fitting (-1074)

/-- The nonnegative number nearest to a quotient, none if it is too large. -/
def ofRatio? (num den : Nat) : Option Binary64 :=
  if num = 0 then some zero
  else
    let exponent := exponentFor num den
    let mantissa := roundScaled num den exponent
    let (mantissa, exponent) :=
      if mantissa = Nat.pow 2 53 then (Nat.pow 2 52, exponent + 1) else (mantissa, exponent)
    if exponent > 971 then none else some ⟨false, mantissa, exponent⟩

/-- The numerator and the denominator of the absolute value. -/
def toRatio (x : Binary64) : Nat × Nat :=
  match x.exponent with
  | .ofNat up => (x.mantissa * Nat.pow 2 up, 1)
  | .negSucc down => (x.mantissa, Nat.pow 2 (down + 1))

/-- The number with the given sign and the absolute value of `x`. -/
def withSign (negative : Bool) (x : Binary64) : Binary64 := { x with negative }

/-- The rounded product of two absolute values. -/
def times? (x y : Binary64) : Option Binary64 :=
  ofRatio? (x.toRatio.1 * y.toRatio.1) (x.toRatio.2 * y.toRatio.2)

/-- The rounded quotient of two absolute values. -/
def over? (x y : Binary64) : Option Binary64 :=
  ofRatio? (x.toRatio.1 * y.toRatio.2) (x.toRatio.2 * y.toRatio.1)

/-- The number nearest to a power of ten. -/
def powerOfTen? (power : Nat) : Option Binary64 := ofRatio? (Nat.pow 10 power) 1

/-- The power of ten that a division takes at once. -/
def powerStep : Nat := 308

/-- Divides by `10 ^ powerStep` the given number of times, or until nothing is left. -/
def divideSteps (x : Binary64) : Nat → Option Binary64
  | 0 => some x
  | steps + 1 =>
    if x.mantissa = 0 then some x
    else
      match (powerOfTen? powerStep).bind x.over? with
      | some smaller => smaller.divideSteps steps
      | none => none

/-- Divides by ten to the given power, in steps of `10 ^ powerStep` and a rest. -/
def divideByPower (x : Binary64) (power : Nat) : Option Binary64 := do
  let steps := (power - 1) / powerStep
  let smaller ← x.divideSteps steps
  if smaller.mantissa = 0 then some smaller
  else smaller.over? (← powerOfTen? (power - powerStep * steps))

/-- A whole number times a power of ten; none if it is too large. -/
def scale? (significand : Nat) (power : Int) : Option Binary64 := do
  let x ← ofRatio? significand 1
  match power with
  | .ofNat up =>
    if x.mantissa = 0 then some x
    else if up ≤ powerStep then x.times? (← powerOfTen? up) else none
  | .negSucc down => x.divideByPower (down + 1)

end Binary64

end SchemaScaffold
