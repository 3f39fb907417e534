import SchemaScaffold.Proofs.Relationships.FirstPass
import SchemaScaffold.Proofs.Relationships.Transcript

/-!
# Passes over a part of the tables

Where no relation and no relationship leaves a part of the tables, both passes do on the part what
they do there on all tables. What they do elsewhere lies between, and does not show.

* `Keyed.restrict`: the entries under some of the names.
* `Parted`, `Edge.IsParted`: relationships and edges with both ends in the part, or none.
* `proposals_restrict`: what the edges of the part propose.
* `Registrations.restrict`, `ThroughRun.restrict`: the transcripts of both passes, cut down to what
  concerns the part.
-/

namespace SchemaScaffold

universe u

/-! ## Parts of ordered maps -/

namespace Keyed

variable {α : Type u} {keep : String → Bool}

/-- The entries under the names that are kept, in the same order. -/
def restrict (m : Keyed α) (keep : String → Bool) : Keyed α where
  entries := m.entries.filter fun entry => keep entry.1
  nodup_keys := m.nodup_keys.sublist (List.filter_sublist.map _)

theorem mem_entries_restrict_iff {m : Keyed α} {entry : String × α} :
    entry ∈ (m.restrict keep).entries ↔ entry ∈ m.entries ∧ keep entry.1 = true :=
  List.mem_filter

theorem get?_restrict_eq_some_iff {m : Keyed α} {key : String} {value : α} :
    (m.restrict keep).get? key = some value ↔ m.get? key = some value ∧ keep key = true := by
  rw [get?_eq_some_iff, mem_entries_restrict_iff, get?_eq_some_iff]

theorem get?_restrict_of_kept (m : Keyed α) {key : String} (hKept : keep key = true) :
    (m.restrict keep).get? key = m.get? key := by
  refine Option.ext fun value => ?_
  rw [get?_restrict_eq_some_iff, and_iff_left hKept]

theorem keys_restrict (m : Keyed α) : (m.restrict keep).keys = m.keys.filter keep := by
  rw [keys, restrict, keys, List.filter_map]
  rfl

theorem values_restrict_sublist (m : Keyed α) (keep : String → Bool) :
    (m.restrict keep).values.Sublist m.values :=
  List.filter_sublist.map _

theorem filter_put {key : String} (value : α) (entries : List (String × α)) :
    (put key value entries).filter (fun entry => keep entry.1) =
      if keep key then put key value (entries.filter fun entry => keep entry.1)
      else entries.filter fun entry => keep entry.1 := by
  induction entries with
  | nil => cases hKey : keep key <;> simp [put, hKey]
  | cons entry rest ih =>
    obtain ⟨k, old⟩ := entry
    by_cases hk : k = key
    · subst hk
      cases hKey : keep k <;> simp [put, hKey]
    · cases hKey : keep key <;> cases hOther : keep k <;> simp_all [put]

theorem restrict_insert_of_kept (m : Keyed α) {key : String} (hKept : keep key = true)
    (value : α) : (m.insert key value).restrict keep = (m.restrict keep).insert key value := by
  refine Keyed.ext ((filter_put value m.entries).trans ?_)
  rw [if_pos hKept]
  rfl

theorem restrict_insert_of_not_kept (m : Keyed α) {key : String} (hKept : keep key = false)
    (value : α) : (m.insert key value).restrict keep = m.restrict keep := by
  refine Keyed.ext ((filter_put value m.entries).trans ?_)
  rw [hKept]
  rfl

end Keyed

variable {keep : String → Bool}

theorem owns_restrict_iff {tables : Keyed Table} {owner name : String} {r : Relationship} :
    Owns (tables.restrict keep) owner name r ↔ Owns tables owner name r ∧ keep owner = true := by
  simp only [Owns, Keyed.get?_restrict_eq_some_iff]
  constructor
  · rintro ⟨table, ⟨hTable, hKept⟩, hGet⟩
    exact ⟨⟨table, hTable, hGet⟩, hKept⟩
  · rintro ⟨⟨table, hTable, hGet⟩, hKept⟩
    exact ⟨table, ⟨hTable, hKept⟩, hGet⟩

/-! ## Registrations -/

namespace Registered

variable {tables next : Keyed Table} {proposal : Proposal} {name : String}

/-- A registration in the part is one on the part. -/
theorem restrict (h : Registered tables proposal name next) (hKept : keep proposal.owner = true) :
    Registered (tables.restrict keep) proposal name (next.restrict keep) := by
  obtain ⟨table, hTable, hFree, rfl⟩ := h
  exact ⟨table, Keyed.get?_restrict_eq_some_iff.mpr ⟨hTable, hKept⟩, hFree,
    Keyed.restrict_insert_of_kept tables hKept _⟩

/-- A registration elsewhere does not show. -/
theorem restrict_eq (h : Registered tables proposal name next)
    (hKept : keep proposal.owner = false) : next.restrict keep = tables.restrict keep := by
  obtain ⟨table, hTable, hFree, rfl⟩ := h
  exact Keyed.restrict_insert_of_not_kept tables hKept _

end Registered

/-- A policy without a state settles the names in the part as if there were no other tables. -/
theorem Registrations.restrict {policy : Policy Unit} {tables final : Keyed Table}
    {state after : Unit} {done : List Proposal} {asked : List Collision}
    (h : Registrations policy tables state done asked final after) (keep : String → Bool) :
    ∃ asked', Registrations policy (tables.restrict keep) state
      (done.filter fun proposal => keep proposal.owner) asked' (final.restrict keep) after := by
  induction h with
  | nil => exact ⟨[], .nil⟩
  | @cons tables next final _ _ _ proposal rest asked more table name hOwner hName hAppended _ ih =>
    obtain ⟨asked', hRest⟩ := ih
    have hRegistered := registered_iff_appended.mpr hAppended
    cases hKept : keep proposal.owner with
    | true =>
      rw [List.filter_cons, if_pos hKept]
      exact ⟨_, .cons (Keyed.get?_restrict_eq_some_iff.mpr ⟨hOwner, hKept⟩) hName
        (hRegistered.restrict hKept).appended hRest⟩
    | false =>
      rw [List.filter_cons, if_neg (by simp [hKept]), ← hRegistered.restrict_eq hKept]
      exact ⟨asked', hRest⟩

/-! ## The first pass -/

/-- Both ends of an edge are in the part, or none. -/
def Edge.IsParted (keep : String → Bool) (edge : Edge) : Prop :=
  keep edge.source.table = keep edge.target.table

theorem Edge.source_table_eq_of_isPartner {edge other : Edge} (h : edge.isPartner other = true) :
    other.source.table = edge.source.table := by
  simp only [isPartner, Bool.and_eq_true, decide_eq_true_eq] at h
  exact h.1

/-- An edge proposes relationships of one side only. -/
theorem Proposes.kept_eq {tables : Keyed Table} {edges : List Edge} {edge : Edge}
    {proposal : Proposal} (h : Proposes tables edges edge proposal)
    (hParted : ∀ edge ∈ edges, edge.IsParted keep) (hEdge : edge ∈ edges) :
    keep proposal.owner = keep edge.source.table ∧
      keep proposal.relationship.table = keep proposal.owner := by
  have hEnds := hParted edge hEdge
  cases h with
  | belongsTo => exact ⟨rfl, hEnds.symm⟩
  | has => exact ⟨hEnds.symm, hEnds⟩
  | @link _ _ other _ _ _ _ hOther hPartner =>
    -- the owner is the target of a partner, which leaves the same link table
    have hOtherEnds := hParted other hOther
    rw [Edge.IsParted, Edge.source_table_eq_of_isPartner hPartner] at hOtherEnds
    exact ⟨hOtherEnds.symm, hEnds.symm.trans hOtherEnds⟩

/-- An edge of the part proposes the same on the part. -/
theorem edgeProposals_restrict {tables : Keyed Table} {edges : List Edge} {edge : Edge}
    (hSource : keep edge.source.table = true) (hTarget : keep edge.target.table = true) :
    edgeProposals (tables.restrict keep) (edges.filter fun edge => keep edge.source.table) edge =
      edgeProposals tables edges edge := by
  have hPartners : (edges.filter fun edge => keep edge.source.table).filter edge.isPartner =
      edges.filter edge.isPartner := by
    rw [List.filter_filter]
    refine List.filter_congr fun other _ => ?_
    cases hPartner : edge.isPartner other with
    | false => rfl
    | true => rw [Edge.source_table_eq_of_isPartner hPartner, hSource, Bool.and_true]
  simp only [edgeProposals, Keyed.get?_restrict_of_kept tables hSource,
    Keyed.get?_restrict_of_kept tables hTarget, hPartners]

theorem filter_flatMap_of_forall {α β : Type} {parts : α → List β} {p : α → Bool} {q : β → Bool} :
    ∀ {l : List α}, (∀ a ∈ l, ∀ b ∈ parts a, q b = p a) →
      (l.flatMap parts).filter q = (l.filter p).flatMap parts
  | [], _ => rfl
  | a :: rest, h => by
    obtain ⟨hHead, hRest⟩ := List.forall_mem_cons.mp h
    rw [List.flatMap_cons, List.filter_append, filter_flatMap_of_forall hRest, List.filter_cons]
    cases hp : p a with
    | true => rw [List.filter_eq_self.mpr fun b hb => (hHead b hb).trans hp]; rfl
    | false => rw [List.filter_eq_nil_iff.mpr fun b hb => by simp [hHead b hb, hp]]; rfl

/-- The edges of the part propose on the part what they propose on all tables. -/
theorem proposals_restrict {tables : Keyed Table} {edges : List Edge} {done : List Proposal}
    (hParted : ∀ edge ∈ edges, edge.IsParted keep)
    (hDone : proposals tables edges = done.map Except.ok) :
    proposals (tables.restrict keep) (edges.filter fun edge => keep edge.source.table) =
      (done.filter fun proposal => keep proposal.owner).map Except.ok := by
  -- no outcome is a stop, so that it does not matter on which side stops are counted
  let concerns : Except Stop Proposal → Bool := fun outcome =>
    outcome.toOption.any fun proposal => keep proposal.owner
  have hSame : proposals (tables.restrict keep) (edges.filter fun edge => keep edge.source.table) =
      (edges.filter fun edge => keep edge.source.table).flatMap (edgeProposals tables edges) := by
    refine List.flatMap_congr fun edge hEdge => ?_
    obtain ⟨hEdge, hSource⟩ := List.mem_filter.mp hEdge
    exact edgeProposals_restrict hSource ((hParted edge hEdge).symm.trans hSource)
  have hSides : ∀ edge ∈ edges, ∀ outcome ∈ edgeProposals tables edges edge,
      concerns outcome = keep edge.source.table := by
    intro edge hEdge outcome hOutcome
    have hMem : outcome ∈ proposals tables edges := List.mem_flatMap.mpr ⟨edge, hEdge, hOutcome⟩
    rw [hDone] at hMem
    obtain ⟨proposal, -, rfl⟩ := List.mem_map.mp hMem
    exact ((mem_edgeProposals_iff.mp hOutcome).kept_eq hParted hEdge).1
  rw [hSame, ← filter_flatMap_of_forall hSides]
  change (proposals tables edges).filter concerns = _
  rw [hDone, List.filter_map]
  rfl

/-! ## The second pass -/

/-- Every relationship leads from the part into the part, or from elsewhere to elsewhere. -/
def Parted (keep : String → Bool) (tables : Keyed Table) : Prop :=
  ∀ owner name r, Owns tables owner name r → keep r.table = keep owner

theorem parted_of_relateDirectly {σ : Type} {policy : Policy σ} {tables final : Keyed Table}
    {edges : List Edge} {state after : σ} (hStart : Unrelated tables)
    (hParted : ∀ edge ∈ edges, edge.IsParted keep)
    (h : (relateDirectly policy tables edges).result state = (.ok final, after)) :
    Parted keep final := by
  refine relateDirectly_induction (P := Parted keep) ?_ ?_ h
  · intro owner name r hOwns
    exact absurd hOwns (hStart owner name r)
  · intro before proposal _ next hBefore hMem hRegistered owner name r hOwns
    rcases hRegistered.owns_iff.mp hOwns with hOld | ⟨rfl, -, rfl⟩
    · exact hBefore owner name r hOld
    · obtain ⟨edge, hEdge, hProposes⟩ := mem_proposals_iff.mp hMem
      exact (hProposes.kept_eq hParted hEdge).2

/-- An addition leads to where its second part does. -/
theorem Missing.parted {tables next : Keyed Table} {proposal : Proposal} {through : String}
    {first second : Relationship} (h : Missing tables proposal through first second)
    (hAdded : Registered tables proposal proposal.name next) (hParted : Parted keep tables) :
    Parted keep next := by
  intro owner name r hOwns
  rcases hAdded.owns_iff.mp hOwns with hOld | ⟨rfl, -, rfl⟩
  · exact hParted owner name r hOld
  · rw [h.relationship_eq]
    exact (hParted _ _ _ h.owns_second).trans (hParted _ _ _ h.owns_first)

/-- Nothing is lacking in the part where nothing is lacking at all. -/
theorem Saturated.restrict {tables : Keyed Table} (h : Saturated tables) (keep : String → Bool) :
    Saturated (tables.restrict keep) := by
  intro owner through first name second hFirst hFirstComposable hSecond hSecondComposable hLeaves
  obtain ⟨hFirst, hKept⟩ := owns_restrict_iff.mp hFirst
  obtain ⟨hSecond, -⟩ := owns_restrict_iff.mp hSecond
  obtain ⟨r, hr⟩ := h _ _ _ _ _ hFirst hFirstComposable hSecond hSecondComposable hLeaves
  exact ⟨r, owns_restrict_iff.mpr ⟨hr, hKept⟩⟩

theorem findSome?_congr {α β : Type} {f g : α → Option β} :
    ∀ {l : List α}, (∀ a ∈ l, f a = g a) → l.findSome? f = l.findSome? g
  | [], _ => rfl
  | a :: rest, h => by
    obtain ⟨hHead, hRest⟩ := List.forall_mem_cons.mp h
    rw [List.findSome?_cons, List.findSome?_cons, hHead, findSome?_congr hRest]

theorem findSome?_filter_of_forall {α β : Type} {f : α → Option β} {p : α → Bool} {l : List α}
    {b : β} (h : l.findSome? f = some b) (hKept : ∀ a ∈ l, f a = some b → p a = true) :
    (l.filter p).findSome? f = some b := by
  obtain ⟨front, a, back, rfl, ha, hFront⟩ := List.findSome?_eq_some_iff.mp h
  refine List.findSome?_eq_some_iff.mpr ⟨front.filter p, a, back.filter p, ?_, ha, ?_⟩
  · rw [List.filter_append, List.filter_cons_of_pos (hKept a (by simp) ha)]
  · exact fun b hb => hFront b (List.mem_of_mem_filter hb)

theorem Table.owner_of_nextOver? {tables : Keyed Table} {owner : String} {table : Table}
    {through : String} {first : Relationship} {proposal : Proposal}
    (h : Table.nextOver? tables owner table through first = some proposal) :
    proposal.owner = owner := by
  unfold Table.nextOver? at h
  split at h
  · obtain ⟨middle, -, hFind⟩ := Option.bind_eq_some_iff.mp h
    obtain ⟨entry, -, rfl⟩ := Option.map_eq_some_iff.mp hFind
    rfl
  · cases h

/-- The first relationship over others that a table lacks, in the order of its own. -/
def Table.nextOf? (tables : Keyed Table) (entry : String × Table) : Option Proposal :=
  entry.2.relationships.entries.findSome? fun leg =>
    Table.nextOver? tables entry.1 entry.2 leg.1 leg.2

theorem nextThrough?_eq_findSome? (tables : Keyed Table) :
    nextThrough? tables = tables.entries.findSome? (Table.nextOf? tables) := rfl

/-- What a table of the part lacks, it lacks on the part. -/
theorem Table.nextOf?_restrict {tables : Keyed Table} (hParted : Parted keep tables)
    {entry : String × Table} (hEntry : entry ∈ tables.entries) (hKept : keep entry.1 = true) :
    Table.nextOf? (tables.restrict keep) entry = Table.nextOf? tables entry := by
  refine findSome?_congr fun leg hLeg => ?_
  have hOwns : Owns tables entry.1 leg.1 leg.2 :=
    ⟨entry.2, Keyed.get?_eq_some_iff.mpr hEntry, Keyed.get?_eq_some_iff.mpr hLeg⟩
  have hMiddle : keep leg.2.table = true := (hParted _ _ _ hOwns).trans hKept
  simp only [Table.nextOver?, Keyed.get?_restrict_of_kept tables hMiddle]

/-- What the search finds for the part, it finds on the part. -/
theorem nextThrough?_restrict {tables : Keyed Table} {proposal : Proposal}
    (hParted : Parted keep tables) (h : nextThrough? tables = some proposal)
    (hKept : keep proposal.owner = true) :
    nextThrough? (tables.restrict keep) = some proposal := by
  rw [nextThrough?_eq_findSome?] at h ⊢
  have hOwner : ∀ entry ∈ tables.entries, Table.nextOf? tables entry = some proposal →
      keep entry.1 = true := by
    intro entry _ hFound
    obtain ⟨leg, -, hNext⟩ := List.exists_of_findSome?_eq_some hFound
    rw [← Table.owner_of_nextOver? hNext]
    exact hKept
  have hSame : ∀ entry ∈ (tables.restrict keep).entries,
      Table.nextOf? (tables.restrict keep) entry = Table.nextOf? tables entry := by
    intro entry hEntry
    obtain ⟨hEntry, hKept⟩ := Keyed.mem_entries_restrict_iff.mp hEntry
    exact Table.nextOf?_restrict hParted hEntry hKept
  exact (findSome?_congr hSame).trans (findSome?_filter_of_forall h hOwner)

/-- **The second pass on a part**: it adds to the part what it adds there on all tables. -/
theorem ThroughRun.restrict {tables final : Keyed Table} {additions : List Proposal}
    (h : ThroughRun tables additions final) (hParted : Parted keep tables) :
    ThroughRun (tables.restrict keep) (additions.filter fun proposal => keep proposal.owner)
      (final.restrict keep) := by
  induction h with
  | done hNone =>
    exact .done (saturated_iff.mp ((saturated_of_nextThrough? hNone).restrict keep))
  | @add tables next final proposal rest hFound hAdded _ ih =>
    obtain ⟨through, first, second, hMissing⟩ := missing_of_nextThrough? hFound
    have hRest := ih (hMissing.parted hAdded hParted)
    -- an addition elsewhere may come first in the search, but it leaves the part as it is
    cases hKept : keep proposal.owner with
    | true =>
      rw [List.filter_cons, if_pos hKept]
      exact .add (nextThrough?_restrict hParted hFound hKept) (hAdded.restrict hKept) hRest
    | false =>
      rw [List.filter_cons, if_neg (by simp [hKept]), ← hAdded.restrict_eq hKept]
      exact hRest

end SchemaScaffold
