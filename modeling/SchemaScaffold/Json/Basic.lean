import SchemaScaffold.Binary64.Shortest

/-!
# JSON values

* `Json.Number`, `Json.Scalar`, `Json`: values; an object keeps its members in order.
* `Json.Number.text`: whole numbers in full, other numbers with the fewest digits that read back.
* `Json.member?`: the member of an object under a key.
-/

namespace SchemaScaffold

namespace Json

/-- A number: a whole number within 64 bits, or a floating-point number. -/
inductive Number where
  | natural (n : Nat)
  /-- the whole number `-n` -/
  | negative (n : Nat)
  | real (x : Binary64)
  deriving Repr, DecidableEq

/-- How a floating-point number is written: positionally while its decimal point falls within
sixteen digits or four zeros, otherwise with an exponent, which has a sign. -/
def Number.realText (x : Binary64) : String :=
  let d := x.shortest
  let digits := toString d.digits
  let point : Int := digits.length + d.power
  let zeros (n : Int) : String := String.ofList (List.replicate n.toNat '0')
  let body :=
    if d.digits = 0 then "0.0"
    else if 0 ≤ d.power ∧ point ≤ 16 then digits ++ zeros d.power ++ ".0"
    else if 0 < point ∧ point ≤ 16 then
      String.ofList (digits.toList.take point.toNat) ++ "." ++
        String.ofList (digits.toList.drop point.toNat)
    else if -5 < point ∧ point ≤ 0 then "0." ++ zeros (-point) ++ digits
    else
      let mantissa :=
        match digits.toList with
        | [c] => String.ofList [c]
        | c :: rest => String.ofList (c :: '.' :: rest)
        | [] => ""
      mantissa ++ (if 0 < point then "e+" else "e") ++ toString (point - 1)
  (if x.negative then "-" else "") ++ body

/-- The text of a number. -/
def Number.text : Number → String
  | .natural n => toString n
  | .negative n => "-" ++ toString n
  | .real x => realText x

/-- A value without parts. -/
inductive Scalar where
  | null
  | bool (b : Bool)
  | number (n : Number)
  | string (s : String)
  deriving Repr, DecidableEq

end Json

/-- A JSON value. -/
inductive Json where
  | scalar (value : Json.Scalar)
  | array (items : List Json)
  | object (members : List (String × Json))
  deriving Repr

namespace Json

/-- The value `null`. -/
def null : Json := .scalar .null

/-- A truth value. -/
def bool (b : Bool) : Json := .scalar (.bool b)

/-- A string. -/
def string (s : String) : Json := .scalar (.string s)

/-- A whole number. -/
def natural (n : Nat) : Json := .scalar (.number (.natural n))

/-- A string, or `null` where there is none. -/
def optional : Option String → Json
  | some s => .string s
  | none => .null

/-- The member of an object under a key. -/
def member? (key : String) : Json → Option Json
  | .object members => members.lookup key
  | _ => none

end Json

end SchemaScaffold
