import SchemaScaffold.Fault

/-!
# Taken relationship names

When the conventional name of a relationship is already taken on its table, a policy decides on
another one.

* `Collision`: the question put to a policy.
* `Policy`: an answer for each question, which may depend on a state and may fail.
* `Policy.suffix`, `Policy.reject`, `Policy.append`, `Policy.dictated`, `Policy.failing`: policies.
* `Policy.recorded`: a policy that keeps the questions it has been asked.
-/

namespace SchemaScaffold

/-- A relationship name that is already taken. -/
structure Collision where
  /-- the table that will own the relationship -/
  table : String
  /-- the conventional name -/
  proposed : String
  /-- the relationship names of the table, in order -/
  existing : List String
  deriving Repr, DecidableEq

namespace Collision

/-- Whether a name is taken on the table. -/
def isTaken (collision : Collision) (name : String) : Bool := collision.existing.contains name

/-- The proposed name with a number behind it. -/
def numbered (collision : Collision) (n : Nat) : String := collision.proposed ++ toString n

/-- The least number from 2 on that makes the proposed name free. One of the first numbers must, as
many as there are existing names and one more. -/
def freeNumber? (collision : Collision) : Option Nat :=
  (List.range' 2 (collision.existing.length + 1)).find? fun n =>
    !collision.isTaken (collision.numbered n)

end Collision

/-- A way to decide on taken names, with a state of its own. -/
structure Policy (σ : Type) where
  resolve : Collision → σ → Except Fault String × σ

namespace Policy

variable {σ : Type}

/-- A policy without state. -/
def stateless (answer : Collision → Except Fault String) : Policy σ :=
  ⟨fun collision state => (answer collision, state)⟩

/-- Appends the least free number. -/
def suffix : Policy σ := stateless fun collision =>
  match collision.freeNumber? with
  | some n => .ok (collision.numbered n)
  | none => .error (.nameTaken collision.table collision.proposed)

/-- Accepts no taken name. -/
def reject : Policy σ := stateless fun collision =>
  .error (.nameTaken collision.table collision.proposed)

/-- Appends a fixed text. -/
def append (text : String) : Policy σ := stateless fun collision => .ok (collision.proposed ++ text)

/-- Fails with the given fault. -/
def failing (fault : Fault) : Policy σ := stateless fun _ => .error fault

/-- The fault of a policy that has no more names to give. -/
def noNamesLeft : Fault := ⟨.note "no names left", []⟩

/-- Gives the names of its state, one after another. -/
def dictated : Policy (List String) :=
  ⟨fun _ names =>
    match names with
    | [] => (.error noNamesLeft, [])
    | name :: rest => (.ok name, rest)⟩

/-- The policy that also keeps every question, the latest last. -/
def recorded (policy : Policy σ) : Policy (σ × List Collision) :=
  ⟨fun collision state =>
    let (answer, next) := policy.resolve collision state.1
    (answer, next, state.2 ++ [collision])⟩

end Policy

end SchemaScaffold
