import Mathlib.Logic.Relation
import SchemaScaffold.Proofs.Relationships.Search

/-!
# Relationships over others come down to direct ones

A relationship over two others names its parts, and a part may itself go over two others. The tables
alone could hold parts that justify each other in a circle. The second pass cannot: what it adds goes
over relationships that were there before it.

* `Chained`: a relationship over two others agrees with its parts.
* `Unfolds`: a composable relationship comes down to a list of direct ones. `Grounded` tables have
  such a list for all of them.
* `Replaces`: one step of putting the two parts in the place of a relationship. On sound and grounded
  tables the steps come to an end (`wellFounded_replaces`), and they keep where a path leads
  (`Replaces.leads`).
* `ThroughRun.soundThrough`, `ThroughRun.wellFoundedThrough`: the second pass leaves such tables.
-/

namespace SchemaScaffold

/-! ## Parts -/

/-- A relationship over two others of the tables, under the name of the second. -/
structure Chained (tables : Keyed Table) (owner name : String) (r : Relationship)
    (passage : Passage) (first second : Relationship) : Prop where
  relatedMethod_eq : passage.relatedMethod = name
  owns_first : Owns tables owner passage.through first
  first_composable : first.isComposable = true
  owns_second : Owns tables first.table name second
  second_composable : second.isComposable = true
  table_eq : second.table = r.table
  model_eq : second.model = r.model
  throughModel_eq : passage.throughModel = first.model
  primaryKey_eq : r.primaryKey = first.primaryKey
  foreignKey_eq : r.foreignKey = first.foreignKey
  leaves : r.table ≠ owner

/-- Every relationship over two others agrees with its parts. -/
def SoundThrough (tables : Keyed Table) : Prop :=
  ∀ owner name r passage, Owns tables owner name r → r.passage? = some passage →
    ∃ first second, Chained tables owner name r passage first second

/-- Every relationship comes from a declared relation. -/
def AllDirect (tables : Keyed Table) : Prop :=
  ∀ owner name r, Owns tables owner name r → r.isDirect = true

theorem Relationship.passage?_of_isDirect {r : Relationship} (h : r.isDirect = true) :
    r.passage? = none := by
  simpa [isDirect] using h

theorem Relationship.exists_passage? {r : Relationship} (h : r.isDirect ≠ true) :
    ∃ passage, r.passage? = some passage := by
  simpa [isDirect, Option.ne_none_iff_exists'] using h

theorem Relationship.isComposable_of_passage? {r : Relationship} {passage : Passage}
    (h : r.passage? = some passage) : r.isComposable = true := by
  cases r with
  | mk kind => cases kind <;> first | rfl | cases h

theorem Missing.chained {tables : Keyed Table} {proposal : Proposal} {through : String}
    {first second : Relationship} (h : Missing tables proposal through first second) :
    Chained tables proposal.owner proposal.name proposal.relationship
      ⟨through, first.model, proposal.name⟩ first second := by
  have hLeaves := h.leaves
  rw [h.relationship_eq]
  exact {
    relatedMethod_eq := rfl
    owns_first := h.owns_first
    first_composable := h.first_composable
    owns_second := h.owns_second
    second_composable := h.second_composable
    table_eq := rfl
    model_eq := rfl
    throughModel_eq := rfl
    primaryKey_eq := rfl
    foreignKey_eq := rfl
    leaves := hLeaves }

theorem Chained.mono {tables next : Keyed Table} {owner name : String} {r : Relationship}
    {passage : Passage} {first second : Relationship}
    (hMono : ∀ {owner name r}, Owns tables owner name r → Owns next owner name r)
    (h : Chained tables owner name r passage first second) :
    Chained next owner name r passage first second :=
  { h with
    owns_first := hMono h.owns_first
    owns_second := hMono h.owns_second }

theorem soundThrough_of_allDirect {tables : Keyed Table} (h : AllDirect tables) :
    SoundThrough tables := by
  intro owner name r passage hOwns hPassage
  rw [Relationship.passage?_of_isDirect (h owner name r hOwns)] at hPassage
  cases hPassage

/-- An addition agrees with its parts, and no earlier relationship loses its own. -/
theorem Missing.soundThrough {tables next : Keyed Table} {proposal : Proposal} {through : String}
    {first second : Relationship} (h : Missing tables proposal through first second)
    (hAdded : Registered tables proposal proposal.name next) (hSound : SoundThrough tables) :
    SoundThrough next := by
  intro owner name r passage hOwns hPassage
  rcases hAdded.owns_iff.mp hOwns with hOld | ⟨rfl, rfl, rfl⟩
  · obtain ⟨first, second, hChained⟩ := hSound owner name r passage hOld hPassage
    exact ⟨first, second, hChained.mono hAdded.mono⟩
  · have hEq := Option.some.inj (h.passage?_eq.symm.trans hPassage)
    exact hEq ▸ ⟨first, second, h.chained.mono hAdded.mono⟩

theorem ThroughRun.soundThrough {tables final : Keyed Table} {additions : List Proposal}
    (h : ThroughRun tables additions final) (hDirect : AllDirect tables) : SoundThrough final :=
  h.induction (soundThrough_of_allDirect hDirect) fun _ _ _ _ _ _ hBefore hMissing hAdded =>
    hMissing.soundThrough hAdded hBefore

/-! ## Unfolding -/

/-- A relationship of a table, by the names of both. -/
structure Hop where
  owner : String
  name : String
  deriving Repr, DecidableEq

/-- A composable relationship comes down to a list of direct ones. -/
inductive Unfolds (tables : Keyed Table) : String → String → List Hop → Prop
  | direct {owner name : String} {r : Relationship} (hOwns : Owns tables owner name r)
      (hComposable : r.isComposable = true) (hDirect : r.isDirect = true) :
      Unfolds tables owner name [⟨owner, name⟩]
  | parts {owner name : String} {r first : Relationship} {passage : Passage} {front back : List Hop}
      (hOwns : Owns tables owner name r) (hPassage : r.passage? = some passage)
      (hFirst : Owns tables owner passage.through first)
      (hFront : Unfolds tables owner passage.through front)
      (hBack : Unfolds tables first.table passage.relatedMethod back) :
      Unfolds tables owner name (front ++ back)

/-- Every composable relationship comes down to direct ones. -/
def Grounded (tables : Keyed Table) : Prop :=
  ∀ owner name r, Owns tables owner name r → r.isComposable = true →
    ∃ hops, Unfolds tables owner name hops

namespace Unfolds

variable {tables next : Keyed Table} {owner name : String} {hops hops' : List Hop}

theorem mono (hMono : ∀ {owner name r}, Owns tables owner name r → Owns next owner name r)
    (h : Unfolds tables owner name hops) : Unfolds next owner name hops := by
  induction h with
  | direct hOwns hComposable hDirect => exact .direct (hMono hOwns) hComposable hDirect
  | parts hOwns hPassage hFirst _ _ ihFront ihBack =>
    exact .parts (hMono hOwns) hPassage (hMono hFirst) ihFront ihBack

theorem length_pos (h : Unfolds tables owner name hops) : 0 < hops.length := by
  induction h with
  | direct _ _ _ => simp
  | parts _ _ _ _ _ ihFront _ =>
    rw [List.length_append]
    omega

/-- There is only one way to unfold a relationship. -/
theorem unique (h : Unfolds tables owner name hops) (h' : Unfolds tables owner name hops') :
    hops = hops' := by
  induction h generalizing hops' with
  | direct hOwns _ hDirect =>
    cases h' with
    | direct _ _ _ => rfl
    | parts hOwns' hPassage _ _ _ =>
      have hEq := hOwns.unique hOwns'
      subst hEq
      rw [Relationship.passage?_of_isDirect hDirect] at hPassage
      cases hPassage
  | parts hOwns hPassage hFirst _ _ ihFront ihBack =>
    cases h' with
    | direct hOwns' _ hDirect =>
      have hEq := hOwns.unique hOwns'
      subst hEq
      rw [Relationship.passage?_of_isDirect hDirect] at hPassage
      cases hPassage
    | parts hOwns' hPassage' hFirst' hFront' hBack' =>
      have hEq := hOwns.unique hOwns'
      subst hEq
      have hPassageEq := Option.some.inj (hPassage.symm.trans hPassage')
      subst hPassageEq
      have hFirstEq := hFirst.unique hFirst'
      subst hFirstEq
      rw [ihFront hFront', ihBack hBack']

end Unfolds

theorem grounded_of_allDirect {tables : Keyed Table} (h : AllDirect tables) : Grounded tables :=
  fun owner name r hOwns hComposable => ⟨_, .direct hOwns hComposable (h owner name r hOwns)⟩

/-- An addition goes over relationships that come down to direct ones already. -/
theorem Missing.grounded {tables next : Keyed Table} {proposal : Proposal} {through : String}
    {first second : Relationship} (h : Missing tables proposal through first second)
    (hAdded : Registered tables proposal proposal.name next) (hGrounded : Grounded tables) :
    Grounded next := by
  intro owner name r hOwns hComposable
  rcases hAdded.owns_iff.mp hOwns with hOld | ⟨rfl, rfl, rfl⟩
  · obtain ⟨hops, hUnfolds⟩ := hGrounded owner name r hOld hComposable
    exact ⟨hops, hUnfolds.mono hAdded.mono⟩
  · obtain ⟨front, hFront⟩ := hGrounded _ _ _ h.owns_first h.first_composable
    obtain ⟨back, hBack⟩ := hGrounded _ _ _ h.owns_second h.second_composable
    exact ⟨front ++ back, .parts hOwns h.passage?_eq (hAdded.mono h.owns_first)
      (hFront.mono hAdded.mono) (hBack.mono hAdded.mono)⟩

theorem ThroughRun.grounded {tables final : Keyed Table} {additions : List Proposal}
    (h : ThroughRun tables additions final) (hDirect : AllDirect tables) : Grounded final :=
  h.induction (grounded_of_allDirect hDirect) fun _ _ _ _ _ _ hBefore hMissing hAdded =>
    hMissing.grounded hAdded hBefore

/-! ## Replacing a relationship by its parts -/

/-- One relationship over two others, anywhere in a list, gives way to the two. -/
inductive Replaces (tables : Keyed Table) : List Hop → List Hop → Prop
  | parts {front back : List Hop} {owner name : String} {r first : Relationship} {passage : Passage}
      (hOwns : Owns tables owner name r) (hPassage : r.passage? = some passage)
      (hFirst : Owns tables owner passage.through first) :
      Replaces tables (front ++ ⟨owner, name⟩ :: back)
        (front ++ ⟨owner, passage.through⟩ :: ⟨first.table, passage.relatedMethod⟩ :: back)

/-- The hops lead from the first table to the last, each over a composable relationship. -/
inductive Leads (tables : Keyed Table) : String → List Hop → String → Prop
  | nil {table : String} : Leads tables table [] table
  | cons {owner name target : String} {r : Relationship} {rest : List Hop}
      (hOwns : Owns tables owner name r) (hComposable : r.isComposable = true)
      (hRest : Leads tables r.table rest target) : Leads tables owner (⟨owner, name⟩ :: rest) target

/-- Replacing relationships over two others by the two ends after finitely many steps, wherever one
starts and whichever is replaced first, and what one relationship ends in is a path of at least two
direct ones that leads where it leads. -/
structure WellFoundedThrough (tables : Keyed Table) : Prop where
  wellFounded : WellFounded fun after before => Replaces tables before after
  path : ∀ owner name r passage, Owns tables owner name r → r.passage? = some passage →
    ∀ hops, Relation.ReflTransGen (Replaces tables) [⟨owner, name⟩] hops →
      (∀ next, ¬ Replaces tables hops next) →
      Leads tables owner hops r.table ∧ 2 ≤ hops.length ∧
        ∀ hop ∈ hops, ∃ part, Owns tables hop.owner hop.name part ∧
          part.isComposable = true ∧ part.isDirect = true

namespace Leads

variable {tables : Keyed Table} {owner middle target : String} {front back hops : List Hop}

theorem append (hFront : Leads tables owner front middle) (hBack : Leads tables middle back target) :
    Leads tables owner (front ++ back) target := by
  induction hFront with
  | nil => exact hBack
  | cons hOwns hComposable _ ih => exact .cons hOwns hComposable (ih hBack)

theorem exists_of_append (h : Leads tables owner (front ++ back) target) :
    ∃ middle, Leads tables owner front middle ∧ Leads tables middle back target := by
  induction front generalizing owner with
  | nil => exact ⟨owner, .nil, h⟩
  | cons hop rest ih =>
    cases h with
    | cons hOwns hComposable hRest =>
      obtain ⟨middle, hFront, hBack⟩ := ih hRest
      exact ⟨middle, .cons hOwns hComposable hFront, hBack⟩

theorem exists_owns (h : Leads tables owner hops target) :
    ∀ hop ∈ hops, ∃ r, Owns tables hop.owner hop.name r ∧ r.isComposable = true := by
  induction h with
  | nil => simp
  | cons hOwns hComposable _ ih => exact List.forall_mem_cons.mpr ⟨⟨_, hOwns, hComposable⟩, ih⟩

end Leads

/-- A relationship leads where its two parts lead, one after the other. -/
theorem Replaces.leads {tables : Keyed Table} {hops next : List Hop} {owner target : String}
    (hSound : SoundThrough tables) (h : Replaces tables hops next)
    (hLeads : Leads tables owner hops target) : Leads tables owner next target := by
  cases h with
  | parts hOwns hPassage hFirst =>
    obtain ⟨middle, hFront, hBack⟩ := hLeads.exists_of_append
    cases hBack with
    | cons hOwns' _ hRest =>
      have hEq := hOwns.unique hOwns'
      subst hEq
      obtain ⟨first, second, hChained⟩ := hSound _ _ _ _ hOwns hPassage
      have hFirstEq := hFirst.unique hChained.owns_first
      subst hFirstEq
      rw [← hChained.table_eq] at hRest
      rw [hChained.relatedMethod_eq]
      exact hFront.append (.cons hFirst hChained.first_composable
        (.cons hChained.owns_second hChained.second_composable hRest))

/-- On sound tables every relationship over two others can be replaced. -/
theorem exists_replaces {tables : Keyed Table} (hSound : SoundThrough tables)
    {owner name : String} {r : Relationship} (hOwns : Owns tables owner name r)
    (hDirect : r.isDirect ≠ true) (front back : List Hop) :
    ∃ next, Replaces tables (front ++ ⟨owner, name⟩ :: back) next := by
  obtain ⟨passage, hPassage⟩ := Relationship.exists_passage? hDirect
  obtain ⟨first, second, hChained⟩ := hSound owner name r passage hOwns hPassage
  exact ⟨_, .parts hOwns hPassage hChained.owns_first⟩

/-- On grounded tables hops have positive weights, so that a relationship weighs as much as its two
parts: the number of direct relationships it comes down to. -/
theorem exists_weight {tables : Keyed Table} (hSound : SoundThrough tables)
    (hGrounded : Grounded tables) :
    ∃ weight : Hop → Nat, (∀ hop, 0 < weight hop) ∧
      ∀ owner name r passage first, Owns tables owner name r → r.passage? = some passage →
        Owns tables owner passage.through first →
        weight ⟨owner, name⟩ =
          weight ⟨owner, passage.through⟩ + weight ⟨first.table, passage.relatedMethod⟩ := by
  classical
  let weight : Hop → Nat := fun hop =>
    if h : ∃ hops, Unfolds tables hop.owner hop.name hops then h.choose.length else 1
  have hWeight : ∀ {owner name hops}, Unfolds tables owner name hops →
      weight ⟨owner, name⟩ = hops.length := by
    intro owner name hops h
    have hExists : ∃ hops, Unfolds tables owner name hops := ⟨hops, h⟩
    simp only [weight, dif_pos hExists]
    rw [hExists.choose_spec.unique h]
  refine ⟨weight, ?_, ?_⟩
  · intro hop
    by_cases h : ∃ hops, Unfolds tables hop.owner hop.name hops
    · obtain ⟨hops, hUnfolds⟩ := h
      rw [hWeight hUnfolds]
      exact hUnfolds.length_pos
    · simp only [weight, dif_neg h]
      exact Nat.one_pos
  · intro owner name r passage first hOwns hPassage hFirst
    obtain ⟨first', second, hChained⟩ := hSound owner name r passage hOwns hPassage
    have hEq := hFirst.unique hChained.owns_first
    subst hEq
    obtain ⟨front, hFront⟩ := hGrounded _ _ _ hFirst hChained.first_composable
    obtain ⟨back, hBack⟩ := hGrounded _ _ _ hChained.owns_second hChained.second_composable
    rw [← hChained.relatedMethod_eq] at hBack
    rw [hWeight (.parts hOwns hPassage hFirst hFront hBack), hWeight hFront, hWeight hBack,
      List.length_append]

/-- A replacement makes a list longer and keeps its weight, which no list is longer than. -/
theorem wellFounded_replaces {tables : Keyed Table} (hSound : SoundThrough tables)
    (hGrounded : Grounded tables) : WellFounded fun after before => Replaces tables before after := by
  obtain ⟨weight, hPos, hParts⟩ := exists_weight hSound hGrounded
  have hLength : ∀ hops : List Hop, hops.length ≤ (hops.map weight).sum := by
    intro hops
    induction hops with
    | nil => exact Nat.le_refl _
    | cons hop rest ih =>
      have := hPos hop
      simp only [List.length_cons, List.map_cons, List.sum_cons]
      omega
  refine Subrelation.wf (r := InvImage (· < ·) fun hops : List Hop =>
    (hops.map weight).sum - hops.length) ?_ (InvImage.wf _ Nat.lt_wfRel.wf)
  intro after before h
  cases h with
  | @parts front back owner name r first passage hOwns hPassage hFirst =>
    have hSum := hParts owner name r passage first hOwns hPassage hFirst
    have hBound := hLength
      (front ++ ⟨owner, passage.through⟩ :: ⟨first.table, passage.relatedMethod⟩ :: back)
    simp only [InvImage, List.map_append, List.map_cons, List.sum_append, List.sum_cons,
      List.length_append, List.length_cons] at hBound ⊢
    omega

theorem Replaces.length_lt {tables : Keyed Table} {hops next : List Hop}
    (h : Replaces tables hops next) : hops.length < next.length := by
  cases h with
  | parts _ _ _ => simp

theorem length_le_of_replaces {tables : Keyed Table} {hops next : List Hop}
    (h : Relation.ReflTransGen (Replaces tables) hops next) : hops.length ≤ next.length := by
  induction h with
  | refl => exact Nat.le_refl _
  | tail _ hStep ih => exact Nat.le_trans ih (Nat.le_of_lt hStep.length_lt)

theorem leads_of_replaces {tables : Keyed Table} (hSound : SoundThrough tables)
    {hops next : List Hop} {owner target : String}
    (h : Relation.ReflTransGen (Replaces tables) hops next)
    (hLeads : Leads tables owner hops target) : Leads tables owner next target := by
  induction h with
  | refl => exact hLeads
  | tail _ hStep ih => exact hStep.leads hSound ih

/-- On sound and grounded tables every relationship over two others ends in a direct path. -/
theorem wellFoundedThrough_of_grounded {tables : Keyed Table} (hSound : SoundThrough tables)
    (hGrounded : Grounded tables) : WellFoundedThrough tables where
  wellFounded := wellFounded_replaces hSound hGrounded
  path := by
    intro owner name r passage hOwns hPassage hops hReach hEnd
    have hStart : Leads tables owner [⟨owner, name⟩] r.table :=
      .cons hOwns (Relationship.isComposable_of_passage? hPassage) .nil
    have hLeads := leads_of_replaces hSound hReach hStart
    have hDirect : ∀ front back {hop part}, hops = front ++ hop :: back →
        Owns tables hop.owner hop.name part → part.isDirect = true := by
      intro front back hop part hSplit hPart
      refine Classical.byContradiction fun hNot => ?_
      obtain ⟨next, hNext⟩ := exists_replaces hSound hPart hNot front back
      exact hEnd next (hSplit ▸ hNext)
    refine ⟨hLeads, ?_, ?_⟩
    · rcases Relation.ReflTransGen.cases_head hReach with rfl | ⟨next, hStep, hRest⟩
      · have := hDirect [] [] rfl hOwns
        rw [Relationship.passage?_of_isDirect this] at hPassage
        cases hPassage
      · have hOne := hStep.length_lt
        have hMore := length_le_of_replaces hRest
        simp only [List.length_singleton] at hOne
        omega
    · intro hop hMem
      obtain ⟨part, hPart, hComposable⟩ := hLeads.exists_owns hop hMem
      obtain ⟨front, back, hSplit⟩ := List.append_of_mem hMem
      exact ⟨part, hPart, hComposable, hDirect front back hSplit hPart⟩

theorem ThroughRun.wellFoundedThrough {tables final : Keyed Table} {additions : List Proposal}
    (h : ThroughRun tables additions final) (hDirect : AllDirect tables) :
    WellFoundedThrough final :=
  wellFoundedThrough_of_grounded (h.soundThrough hDirect) (h.grounded hDirect)

end SchemaScaffold
