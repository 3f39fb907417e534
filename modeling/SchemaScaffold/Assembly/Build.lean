import SchemaScaffold.Assembly.Collision

/-!
# Steps that can stop

* `Stop`: why no schema comes out: a fault, or a name that the conventions cannot form.
* `Build`: a step that may ask the collision policy and may stop; what the policy's state has
  become is known also after a stop.
* `consult`: one question to the policy.
-/

namespace SchemaScaffold

/-- Why no schema comes out. -/
inductive Stop where
  | fault (fault : Fault)
  /-- the conventional name for this table cannot be formed -/
  | unnameable (table : String)
  deriving Repr, DecidableEq

/-- A step over the policy's state that may stop. -/
abbrev Build (σ : Type) := ExceptT Stop (StateM σ)

namespace Build

variable {σ α : Type}

/-- Runs a step from a state of the policy. -/
def result (step : Build σ α) (state : σ) : Except Stop α × σ := step.run.run state

/-- A step that asks nothing. -/
def lift (outcome : Except Stop α) : Build σ α := ExceptT.mk (pure outcome)

variable {β : Type}

@[simp] theorem result_pure (a : α) (state : σ) :
    (pure a : Build σ α).result state = (.ok a, state) := rfl

@[simp] theorem result_throw (stop : Stop) (state : σ) :
    (throw stop : Build σ α).result state = (.error stop, state) := rfl

@[simp] theorem result_lift (outcome : Except Stop α) (state : σ) :
    (lift outcome : Build σ α).result state = (outcome, state) := rfl

theorem result_bind (step : Build σ α) (next : α → Build σ β) (state : σ) :
    (step >>= next).result state =
      match step.result state with
      | (.ok a, after) => (next a).result after
      | (.error stop, after) => (.error stop, after) := by
  unfold result
  simp only [ExceptT.run_bind, StateT.run_bind]
  rcases StateT.run step.run state with ⟨stop | a, after⟩ <;> rfl

/-- A sequence of two steps succeeds if and only if both do, one after the other. -/
theorem result_bind_eq_ok {step : Build σ α} {next : α → Build σ β} {state final : σ} {b : β} :
    (step >>= next).result state = (.ok b, final) ↔
      ∃ a after, step.result state = (.ok a, after) ∧ (next a).result after = (.ok b, final) := by
  rw [result_bind]
  rcases step.result state with ⟨stop | a, after⟩
  · simp
  · constructor
    · intro h
      exact ⟨a, after, rfl, h⟩
    · rintro ⟨_, _, ⟨rfl, rfl⟩, h⟩
      exact h

end Build

/-- Stops at the structure of the document. -/
def Stop.invalid {α : Type} (problem : Problem) : Except Stop α :=
  .error (.fault (.invalid problem))

/-- A conventional name, or a stop where there is none. -/
def Stop.named (table : String) : Option String → Except Stop String
  | some name => .ok name
  | none => .error (.unnameable table)

theorem Stop.named_eq_error_iff {table : String} {formed : Option String} {stop : Stop} :
    Stop.named table formed = .error stop ↔ formed = none ∧ stop = .unnameable table := by
  cases formed <;> simp [named, eq_comm]

theorem Stop.bind_eq_ok_iff {α β : Type} {x : Except Stop α} {f : α → Except Stop β} {b : β} :
    (x >>= f) = .ok b ↔ ∃ a, x = .ok a ∧ f a = .ok b := by
  cases x with
  | error _ => simp [bind, Except.bind]
  | ok _ => simp [bind, Except.bind]

theorem Stop.bind_eq_error_iff {α β : Type} {x : Except Stop α} {f : α → Except Stop β}
    {stop : Stop} :
    (x >>= f) = .error stop ↔
      x = .error stop ∨ ∃ a, x = .ok a ∧ f a = .error stop := by
  cases x with
  | error _ => simp [bind, Except.bind]
  | ok _ => simp [bind, Except.bind]

/-- What comes after a part of a build matters only where that part succeeds. -/
theorem Stop.bind_congr {α β : Type} {x : Except Stop α} {f g : α → Except Stop β}
    (h : ∀ a, x = .ok a → f a = g a) : x >>= f = x >>= g := by
  cases x with
  | error _ => rfl
  | ok a => exact h a rfl

/-- Puts one question to the policy. -/
def consult {σ : Type} (policy : Policy σ) (collision : Collision) : Build σ String :=
  ExceptT.mk fun state =>
    match policy.resolve collision state with
    | (.ok name, next) => (.ok name, next)
    | (.error fault, next) => (.error (.fault fault), next)

theorem Build.result_consult {σ : Type} (policy : Policy σ) (collision : Collision) (state : σ) :
    (consult policy collision).result state =
      match policy.resolve collision state with
      | (.ok name, next) => (.ok name, next)
      | (.error fault, next) => (.error (.fault fault), next) := rfl

end SchemaScaffold
