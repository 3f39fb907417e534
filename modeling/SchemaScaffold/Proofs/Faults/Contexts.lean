import SchemaScaffold.Fault

/-!
# Faults in their contexts

A fault can be told with the contexts in which it came about, each put in front of what is there.

* `Context`: a fault that is to be put in front of another one.
* `Context.Blocks`: it can be put in front of nothing.
* `Fault.withContexts`: contexts are put in front one after another, up to the first that blocks.
* `Fault.withContexts_eq_ok_iff`: the causes of the contexts come to stand in front of those of the
  fault, the last one outermost.
* `withContexts_layers`: where a sequence of contexts stops, and what a fault says behind it.
-/

namespace SchemaScaffold

/-- A fault that is to be put in front of another one, and whether it is in use elsewhere then. -/
structure Context where
  fault : Fault
  shared : Bool := false
  deriving Repr, DecidableEq

/-- A context cannot be put in front of anything: it is in use elsewhere, or it has causes of its
own behind it. -/
def Context.Blocks (context : Context) : Prop :=
  context.shared = true ∨ context.fault.behind ≠ []

instance (context : Context) : Decidable context.Blocks :=
  inferInstanceAs (Decidable (context.shared = true ∨ context.fault.behind ≠ []))

/-- A context that can be put in front has one cause only. -/
theorem Context.causes_of_not_blocks {context : Context} (h : ¬ context.Blocks) :
    context.fault.causes = [context.fault.cause] := by
  have hBehind : context.fault.behind = [] := Decidable.not_not.mp (not_or.mp h).2
  rw [Fault.causes, hBehind]

namespace Fault

theorem causes_injective : Function.Injective causes := by
  rintro ⟨cause, behind⟩ ⟨cause', behind'⟩ h
  obtain ⟨rfl, rfl⟩ := List.cons.inj h
  rfl

theorem causes_ne_nil (fault : Fault) : fault.causes ≠ [] := List.cons_ne_nil _ _

/-! ## One context -/

variable {fault outer : Fault} {context : Context}

theorem withContext?_eq_none_iff :
    fault.withContext? context.fault context.shared = none ↔ context.Blocks := by
  simp only [withContext?, Context.Blocks, ite_eq_left_iff, reduceCtorEq, imp_false,
    Decidable.not_not, Bool.or_eq_true, Bool.not_eq_true', List.isEmpty_eq_false_iff, ne_eq]

theorem withContext?_eq_some_iff :
    fault.withContext? context.fault context.shared = some outer ↔
      ¬ context.Blocks ∧ outer.causes = context.fault.cause :: fault.causes := by
  by_cases h : context.Blocks
  · rw [withContext?_eq_none_iff.mpr h]
    simp [h]
  · have hFree : (context.shared || !context.fault.behind.isEmpty) = false := by
      simpa [Context.Blocks] using h
    have hSome : fault.withContext? context.fault context.shared =
        some ⟨context.fault.cause, fault.causes⟩ := by
      rw [withContext?, hFree, if_neg Bool.false_ne_true]
    rw [hSome, Option.some.injEq, eq_comm, ← causes_injective.eq_iff]
    exact (and_iff_right h).symm

/-! ## Sequences of contexts -/

/-- Puts contexts in front of a fault, one after another. Where one of them cannot be put there, it
stops and gives the place of that one in the sequence. -/
def withContexts (fault : Fault) : List Context → Except Nat Fault
  | [] => .ok fault
  | context :: rest =>
    match fault.withContext? context.fault context.shared with
    | none => .error 0
    | some middle => (middle.withContexts rest).mapError (· + 1)

variable {contexts : List Context}

theorem withContexts_cons_of_blocks {rest : List Context} (h : context.Blocks) :
    fault.withContexts (context :: rest) = .error 0 := by
  rw [withContexts, withContext?_eq_none_iff.mpr h]

theorem exists_withContexts_cons (fault : Fault) (rest : List Context) (h : ¬ context.Blocks) :
    ∃ middle : Fault, middle.causes = context.fault.cause :: fault.causes ∧
      fault.withContexts (context :: rest) = (middle.withContexts rest).mapError (· + 1) := by
  have hSome := withContext?_eq_some_iff.mpr
    ⟨h, (rfl : (⟨context.fault.cause, fault.causes⟩ : Fault).causes = _)⟩
  exact ⟨_, rfl, by rw [withContexts, hSome]⟩

theorem mapError_eq_error_iff {place : Nat} {result : Except Nat Fault} :
    result.mapError (· + 1) = .error place ↔
      ∃ inner, result = .error inner ∧ inner + 1 = place := by
  cases result with
  | error inner =>
    constructor
    · intro h
      exact ⟨inner, rfl, Except.error.inj h⟩
    · rintro ⟨inner', hInner, rfl⟩
      rw [Except.error.inj hInner]
      rfl
  | ok middle =>
    constructor
    · intro h
      cases h
    · rintro ⟨_, h, _⟩
      cases h

theorem mapError_eq_ok_iff {result : Except Nat Fault} :
    result.mapError (· + 1) = .ok outer ↔ result = .ok outer := by
  cases result with
  | error inner =>
    constructor <;> intro h <;> cases h
  | ok middle => exact Iff.rfl

/-- The sequence stops at the first context that blocks, and at no other. -/
theorem withContexts_eq_error_iff {place : Nat} :
    fault.withContexts contexts = .error place ↔
      contexts.findIdx? (fun context => context.Blocks) = some place := by
  induction contexts generalizing fault place with
  | nil => simp [withContexts]
  | cons context rest ih =>
    rw [List.findIdx?_cons]
    by_cases h : context.Blocks
    · rw [withContexts_cons_of_blocks h]
      simp [h]
    · obtain ⟨middle, -, hRest⟩ := fault.exists_withContexts_cons rest h
      rw [hRest, mapError_eq_error_iff, if_neg (by simpa using h), Option.map_eq_some_iff]
      exact exists_congr fun _ => and_congr_left fun _ => ih

/-- Without a context that blocks, the causes of the contexts stand in front of those of the fault,
the last one outermost. -/
theorem withContexts_eq_ok_iff :
    fault.withContexts contexts = .ok outer ↔ (∀ context ∈ contexts, ¬ context.Blocks) ∧
      outer.causes = (contexts.map fun context => context.fault.cause).reverse ++ fault.causes := by
  induction contexts generalizing fault with
  | nil =>
    rw [withContexts, Except.ok.injEq, eq_comm, ← causes_injective.eq_iff]
    simp
  | cons context rest ih =>
    rw [List.forall_mem_cons]
    by_cases h : context.Blocks
    · rw [withContexts_cons_of_blocks h]
      simp [h]
    · obtain ⟨middle, hMiddle, hRest⟩ := fault.exists_withContexts_cons rest h
      rw [hRest, mapError_eq_ok_iff, ih, hMiddle, List.map_cons, List.reverse_cons,
        List.append_assoc]
      simp [h]

end Fault

/-! ## What a fault says behind contexts -/

/-- Texts that are joined already can be joined with others in front of them. -/
theorem intercalate_append_intercalate (separator : String) (front : List String)
    {back : List String} (hBack : back ≠ []) :
    separator.intercalate (front ++ [separator.intercalate back]) =
      separator.intercalate (front ++ back) := by
  by_cases hFront : front = []
  · rw [hFront, List.nil_append, List.nil_append, String.intercalate_singleton]
  · rw [String.intercalate_append_of_ne_nil hFront (List.cons_ne_nil _ _),
      String.intercalate_append_of_ne_nil hFront hBack, String.intercalate_singleton]

/-- The last of the contexts, or the fault itself if there is none. -/
def outermost (fault : Fault) (contexts : List Context) : Fault :=
  (contexts.getLast?.map Context.fault).getD fault

/-- What a fault says when contexts have been put in front of it. -/
structure Layered (fault : Fault) (contexts : List Context) (outer : Fault) : Prop where
  /-- the messages of the contexts, the last one first, and then that of the fault -/
  message : outer.message = ": ".intercalate
    ((contexts.map fun context => context.fault.message).reverse ++ [fault.message])
  isInvalid : outer.isInvalid = true ↔
    fault.isInvalid = true ∨ ∃ context ∈ contexts, context.fault.isInvalid = true
  isUnresolved : outer.isUnresolved = true ↔
    fault.isUnresolved = true ∨ ∃ context ∈ contexts, context.fault.isUnresolved = true
  isNameTaken : outer.isNameTaken = true ↔
    fault.isNameTaken = true ∨ ∃ context ∈ contexts, context.fault.isNameTaken = true
  /-- what is behind the outermost fault has no part in its source -/
  source?_eq : outer.source? = (outermost fault contexts).source?

namespace Layered

variable {fault outer : Fault} {contexts : List Context}

theorem message_eq (hFree : ∀ context ∈ contexts, ¬ context.Blocks)
    (hCauses : outer.causes =
      (contexts.map fun context => context.fault.cause).reverse ++ fault.causes) :
    outer.message = ": ".intercalate
      ((contexts.map fun context => context.fault.message).reverse ++ [fault.message]) := by
  have hMessages : (contexts.map fun context => context.fault.message) =
      contexts.map fun context => context.fault.cause.message := by
    refine List.map_congr_left fun context hContext => ?_
    rw [Fault.message, Context.causes_of_not_blocks (hFree context hContext), List.map_singleton,
      String.intercalate_singleton]
  have hBack : fault.causes.map Cause.message ≠ [] := by simp [Fault.causes_ne_nil]
  calc outer.message
      = ": ".intercalate ((contexts.map fun context => context.fault.cause.message).reverse ++
          fault.causes.map Cause.message) := by
        rw [Fault.message, hCauses, List.map_append, List.map_reverse, List.map_map]
        rfl
    _ = _ := by
        rw [hMessages, Fault.message, intercalate_append_intercalate _ _ hBack]

/-- What is asked of all causes is asked of those of the fault and of each context. -/
theorem any_causes_iff (hFree : ∀ context ∈ contexts, ¬ context.Blocks)
    (hCauses : outer.causes =
      (contexts.map fun context => context.fault.cause).reverse ++ fault.causes)
    (kind : Cause → Bool) :
    outer.causes.any kind = true ↔ fault.causes.any kind = true ∨
      ∃ context ∈ contexts, context.fault.causes.any kind = true := by
  rw [hCauses, List.any_append, List.any_reverse, List.any_map, Bool.or_eq_true, or_comm,
    List.any_eq_true (l := contexts)]
  refine or_congr_right (exists_congr fun context => and_congr_right fun hContext => ?_)
  rw [Context.causes_of_not_blocks (hFree context hContext), List.any_cons, List.any_nil,
    Bool.or_false]
  rfl

theorem cause_eq (hCauses : outer.causes =
    (contexts.map fun context => context.fault.cause).reverse ++ fault.causes) :
    outer.cause = (outermost fault contexts).cause := by
  rcases List.eq_nil_or_concat contexts with rfl | ⟨front, last, rfl⟩
  · rw [Fault.causes_injective hCauses]
    rfl
  · rw [List.concat_eq_append] at hCauses ⊢
    rw [List.map_append, List.map_singleton, List.reverse_append] at hCauses
    rw [outermost, List.getLast?_concat]
    exact (List.cons.inj hCauses).1

/-- The causes of a fault say all of this. -/
theorem of_causes (hFree : ∀ context ∈ contexts, ¬ context.Blocks)
    (hCauses : outer.causes =
      (contexts.map fun context => context.fault.cause).reverse ++ fault.causes) :
    Layered fault contexts outer where
  message := message_eq hFree hCauses
  isInvalid := any_causes_iff hFree hCauses Cause.isInvalid
  isUnresolved := any_causes_iff hFree hCauses Cause.isUnresolved
  isNameTaken := any_causes_iff hFree hCauses Cause.isNameTaken
  source?_eq := by rw [Fault.source?, Fault.source?, cause_eq hCauses]

end Layered

/-- **Contexts in front of a fault.** Contexts that are put in front of a fault, one after another,
stop at the first one that is in use elsewhere or has causes of its own. If and only if there is
none, there is a fault with all of them in front, and it is told from the outside in, the last
context first and the old fault at the end; it is of a kind if and only if the old fault or a
context is; and its source is that of the outermost one alone. -/
theorem withContexts_layers (fault : Fault) (contexts : List Context) :
    (∀ place, fault.withContexts contexts = .error place ↔
      contexts.findIdx? (fun context => context.Blocks) = some place) ∧
    ((∃ outer, fault.withContexts contexts = .ok outer ∧ Layered fault contexts outer) ↔
      ∀ context ∈ contexts, ¬ context.Blocks) := by
  constructor
  · intro place
    exact Fault.withContexts_eq_error_iff
  · constructor
    · rintro ⟨outer, hResult, -⟩
      exact (Fault.withContexts_eq_ok_iff.mp hResult).1
    · intro hFree
      cases hResult : fault.withContexts contexts with
      | error place =>
        have hNone : contexts.findIdx? (fun context => context.Blocks) = none := by
          simpa [List.findIdx?_eq_none_iff] using hFree
        rw [Fault.withContexts_eq_error_iff, hNone] at hResult
        cases hResult
      | ok outer =>
        have hCauses := (Fault.withContexts_eq_ok_iff.mp hResult).2
        exact ⟨outer, rfl, .of_causes hFree hCauses⟩

example : ((Fault.invalid (.other "no columns")).withContexts
    [⟨⟨.note "tables", []⟩, false⟩, ⟨⟨.note "shop.json", []⟩, false⟩]).map Fault.message =
      .ok "shop.json: tables: invalid schema: no columns" := by
  rfl

end SchemaScaffold
