import Mathlib.Order.Bounds.Basic
import SchemaScaffold.Proofs.Relationships.Chains
import SchemaScaffold.Proofs.Relationships.Convergence

/-!
# The second pass as a closure

Where a name alone decides which table a composable relationship leads to, the second pass can be
described without its order: the names that a table ends with are those it must have.

* `TargetsFollow`: a composable relationship leads to the table that its name decides.
* `ClosedFamily`: names for each table, closed under going over two relationships.
* `relateThrough_isLeast`: the second pass gives the least closed family.
-/

namespace SchemaScaffold

/-- Every composable relationship leads to the table that is assigned to its name. -/
def TargetsFollow (target : String → String) (tables : Keyed Table) : Prop :=
  ∀ owner name r, Owns tables owner name r → r.isComposable = true → r.table = target name

/-- The names under which a table owns composable relationships. -/
def composableNames (tables : Keyed Table) (owner : String) : Set String :=
  {name | ∃ r, Owns tables owner name r ∧ r.isComposable = true}

/-- Names for each table: those of its own composable relationships, and with a name also every
name of the table it leads to, unless that name leads back or is taken by a `belongsTo`. -/
structure ClosedFamily (target : String → String) (tables : Keyed Table)
    (family : String → Set String) : Prop where
  own : ∀ owner name r, Owns tables owner name r → r.isComposable = true → name ∈ family owner
  compose : ∀ owner through name, through ∈ family owner → name ∈ family (target through) →
    target name ≠ owner → (∀ r, Owns tables owner name r → r.isBelongsTo = false) →
    name ∈ family owner

theorem TargetsFollow.congr {target : String → String} {tables tables' : Keyed Table}
    (h : TargetsFollow target tables)
    (hSame : ∀ owner name r, Owns tables owner name r ↔ Owns tables' owner name r) :
    TargetsFollow target tables' := by
  intro owner name r hOwns
  exact h owner name r ((hSame owner name r).mpr hOwns)

theorem Relationship.isComposable_eq_true_iff {r : Relationship} :
    r.isComposable = true ↔ r.isBelongsTo = false := by
  simp [isComposable]

/-! ## Additions -/

theorem Missing.targetsFollow {target : String → String} {tables next : Keyed Table}
    {proposal : Proposal} {through : String} {first second : Relationship}
    (h : Missing tables proposal through first second)
    (hAdded : Registered tables proposal proposal.name next)
    (hFollow : TargetsFollow target tables) : TargetsFollow target next := by
  intro owner name r hOwns hComposable
  rcases hAdded.owns_iff.mp hOwns with hOld | ⟨-, rfl, rfl⟩
  · exact hFollow owner name r hOld hComposable
  · rw [← h.chained.table_eq]
    exact hFollow _ _ _ h.owns_second h.second_composable

/-- An addition stays within every closed family that holds what was there before. -/
theorem Missing.within {target : String → String} {start tables next : Keyed Table}
    {family : String → Set String} {proposal : Proposal} {through : String}
    {first second : Relationship} (h : Missing tables proposal through first second)
    (hAdded : Registered tables proposal proposal.name next)
    (hStart : ∀ owner name r, Owns start owner name r → Owns tables owner name r)
    (hFollow : TargetsFollow target tables) (hClosed : ClosedFamily target start family)
    (hWithin : composableNames tables ≤ family) : composableNames next ≤ family := by
  rintro owner name ⟨r, hOwns, hComposable⟩
  rcases hAdded.owns_iff.mp hOwns with hOld | ⟨rfl, rfl, -⟩
  · exact hWithin owner ⟨r, hOld, hComposable⟩
  · have hFirst : through ∈ family proposal.owner :=
      hWithin _ ⟨first, h.owns_first, h.first_composable⟩
    have hSecond : proposal.name ∈ family (target through) := by
      rw [← hFollow _ _ _ h.owns_first h.first_composable]
      exact hWithin _ ⟨second, h.owns_second, h.second_composable⟩
    have hLeaves : target proposal.name ≠ proposal.owner := by
      rw [← hFollow _ _ _ h.owns_second h.second_composable]
      exact h.leaves
    refine hClosed.compose _ _ _ hFirst hSecond hLeaves fun r hr => ?_
    exact absurd (hStart _ _ _ hr) (h.free r)

namespace ThroughRun

variable {target : String → String} {tables final : Keyed Table} {additions : List Proposal}

theorem targetsFollow (h : ThroughRun tables additions final)
    (hFollow : TargetsFollow target tables) : TargetsFollow target final :=
  h.induction hFollow fun _ _ _ _ _ _ hBefore hMissing hAdded =>
    hMissing.targetsFollow hAdded hBefore

/-- A run stays within every closed family. -/
theorem within {family : String → Set String} (h : ThroughRun tables additions final)
    (hFollow : TargetsFollow target tables) (hClosed : ClosedFamily target tables family) :
    composableNames final ≤ family := by
  have hAll := h.induction (P := fun reached =>
    (∀ owner name r, Owns tables owner name r → Owns reached owner name r) ∧
      TargetsFollow target reached ∧ composableNames reached ≤ family) ?_ ?_
  · exact hAll.2.2
  · refine ⟨fun _ _ _ hOwns => hOwns, hFollow, ?_⟩
    rintro owner name ⟨r, hOwns, hComposable⟩
    exact hClosed.own owner name r hOwns hComposable
  · rintro before proposal through first second next ⟨hStart, hBefore, hWithin⟩ hMissing hAdded
    exact ⟨fun owner name r hOwns => hAdded.mono (hStart owner name r hOwns),
      hMissing.targetsFollow hAdded hBefore,
      hMissing.within hAdded hStart hBefore hClosed hWithin⟩

/-- No addition is a `belongsTo`. -/
theorem owns_of_isBelongsTo (h : ThroughRun tables additions final) {owner name : String}
    {r : Relationship} (hOwns : Owns final owner name r) (hBelongsTo : r.isBelongsTo = true) :
    Owns tables owner name r := by
  rcases h.owns_iff.mp hOwns with hOld | hNew
  · exact hOld
  · obtain ⟨passage, hPassage⟩ := Option.isSome_iff_exists.mp (h.isSome_passage? _ hNew)
    have hComposable := Relationship.isComposable_of_passage? hPassage
    rw [Relationship.isComposable_eq_true_iff, hBelongsTo] at hComposable
    cases hComposable

/-- Where the run stops, the names are closed. -/
theorem closedFamily (h : ThroughRun tables additions final)
    (hFollow : TargetsFollow target tables) :
    ClosedFamily target tables (composableNames final) where
  own := fun owner name r hOwns hComposable => ⟨r, h.mono hOwns, hComposable⟩
  compose := by
    rintro owner through name ⟨first, hFirst, hFirstComposable⟩
      ⟨second, hSecond, hSecondComposable⟩ hLeaves hFree
    have hFollowFinal := h.targetsFollow hFollow
    rw [← hFollowFinal _ _ _ hFirst hFirstComposable] at hSecond
    rw [← hFollowFinal _ _ _ hSecond hSecondComposable] at hLeaves
    obtain ⟨r, hr⟩ :=
      h.saturated _ _ _ _ _ hFirst hFirstComposable hSecond hSecondComposable hLeaves
    refine ⟨r, hr, Relationship.isComposable_eq_true_iff.mpr ?_⟩
    cases hBelongsTo : r.isBelongsTo with
    | false => rfl
    | true =>
      rw [hFree r (h.owns_of_isBelongsTo hr hBelongsTo)] at hBelongsTo
      cases hBelongsTo

theorem isLeast (h : ThroughRun tables additions final) (hFollow : TargetsFollow target tables) :
    IsLeast {family | ClosedFamily target tables family} (composableNames final) :=
  ⟨h.closedFamily hFollow, fun _ hClosed => h.within hFollow hClosed⟩

end ThroughRun

/-- Where the relationships start out the same, the names end up the same, whatever the order of the
tables and of the additions. -/
theorem ThroughRun.composableNames_eq {target : String → String}
    {tables tables' final final' : Keyed Table} {additions additions' : List Proposal}
    (hSame : ∀ owner name r, Owns tables owner name r ↔ Owns tables' owner name r)
    (h : ThroughRun tables additions final) (h' : ThroughRun tables' additions' final')
    (hFollow : TargetsFollow target tables) : composableNames final = composableNames final' := by
  have hFollow' := hFollow.congr hSame
  have hFamilies : {family | ClosedFamily target tables family} =
      {family | ClosedFamily target tables' family} := by
    refine Set.ext fun family => ?_
    constructor
    · intro hClosed
      exact ⟨by simpa only [hSame] using hClosed.own, by simpa only [hSame] using hClosed.compose⟩
    · intro hClosed
      exact ⟨by simpa only [hSame] using hClosed.own, by simpa only [hSame] using hClosed.compose⟩
  have hLeast := h.isLeast hFollow
  rw [hFamilies] at hLeast
  exact hLeast.unique (h'.isLeast hFollow')

/-! ## The second pass -/

variable {σ : Type}

/-- **The second pass computes a least closure.** Where names decide which tables composable
relationships lead to, it ends with exactly the names of the least closed family, and each of them
still leads to the table that its name decides. -/
theorem relateThrough_isLeast (policy : Policy σ) (tables : Keyed Table) (state : σ)
    (target : String → String) (hFollow : TargetsFollow target tables) :
    ∃ final, (relateThrough policy tables).result state = (.ok final, state) ∧
      IsLeast {family | ClosedFamily target tables family} (composableNames final) ∧
      TargetsFollow target final := by
  obtain ⟨additions, final, hResult, hRun⟩ := relateThrough_run policy tables state
  exact ⟨final, hResult, hRun.isLeast hFollow, hRun.targetsFollow hFollow⟩

theorem relateThrough_isLeast_circle :
    TargetsFollow id circleOfTables ∧
    ∃ final, (relateThrough (.reject : Policy Unit) circleOfTables).result () = (.ok final, ()) ∧
      IsLeast {family | ClosedFamily id circleOfTables family} (composableNames final) ∧
      TargetsFollow id final := by
  have hFollow : TargetsFollow id circleOfTables := by
    rintro owner name r ⟨table, hTable, hGet⟩ -
    have hEntry : (owner, table) ∈ [("teams", tableWithMany "teams" "projects"),
        ("projects", tableWithMany "projects" "tasks"), ("tasks", tableWithMany "tasks" "teams")] :=
      Keyed.get?_eq_some_iff.mp hTable
    simp only [List.mem_cons, Prod.mk.injEq, List.not_mem_nil, or_false] at hEntry
    rcases hEntry with ⟨-, rfl⟩ | ⟨-, rfl⟩ | ⟨-, rfl⟩
    all_goals
      simp only [tableWithMany, Keyed.get?_insert, Keyed.get?_empty] at hGet
      split at hGet
      · rename_i hName
        cases hGet
        exact hName.symm
      · cases hGet
  exact ⟨hFollow, relateThrough_isLeast .reject circleOfTables () id hFollow⟩

end SchemaScaffold
