import Mathlib.Data.List.Perm.Basic
import SchemaScaffold.Proofs.Assembly.Agreement
import SchemaScaffold.Proofs.Assembly.TableOrder

/-!
# Declarations in another order, without a collision

In another order the declarations of a document propose the same relationships in another order. As
long as no name is taken, each of them is registered under its conventional name, whatever has been
registered before it.

* `CollisionFree`: proposals for known tables, under names that are free there and different from
  each other. These are the proposals that are registered without a question
  (`Registrations.collisionFree`, `CollisionFree.exists_registrations`), and their order does not
  matter (`CollisionFree.perm`).
* `Registrations.owns_iff`: what tables own after registrations without a question.
* `proposals_perm`, `Assembled.exists_edges_perm`: relations in another order propose the same.
* `resolve_reject_reordered`: builds that refuse every taken name do not depend on the order.
-/

namespace SchemaScaffold

/-! ## Registrations without a question -/

/-- The owner of a proposal, and the name that it asks for there. -/
def Proposal.slot (proposal : Proposal) : String × String := (proposal.owner, proposal.name)

/-- Nothing that is proposed meets a taken name: neither one that tables begin with, nor one of
another proposal. -/
structure CollisionFree (tables : Keyed Table) (done : List Proposal) : Prop where
  known : ∀ proposal ∈ done, proposal.owner ∈ tables.keys
  free : ∀ proposal ∈ done, ∀ r, ¬ Owns tables proposal.owner proposal.name r
  distinct : (done.map Proposal.slot).Nodup

theorem Alike.mem_keys_iff {tables tables' : Keyed Table} (h : Alike tables tables')
    {key : String} : key ∈ tables.keys ↔ key ∈ tables'.keys := by
  rw [Keyed.mem_keys_iff, Keyed.mem_keys_iff, h key]

namespace CollisionFree

variable {tables tables' next : Keyed Table} {done done' rest : List Proposal} {proposal : Proposal}

/-- The order of the proposals does not matter. -/
theorem perm (h : CollisionFree tables done) (hPerm : done.Perm done') :
    CollisionFree tables done' where
  known := fun proposal hProposal => h.known proposal (hPerm.mem_iff.mpr hProposal)
  free := fun proposal hProposal => h.free proposal (hPerm.mem_iff.mpr hProposal)
  distinct := (hPerm.map _).nodup_iff.mp h.distinct

theorem congr (h : CollisionFree tables done) (hAlike : Alike tables tables') :
    CollisionFree tables' done where
  known := fun proposal hProposal => hAlike.mem_keys_iff.mp (h.known proposal hProposal)
  free := fun proposal hProposal r hOwns =>
    h.free proposal hProposal r ((owns_congr hAlike).mpr hOwns)
  distinct := h.distinct

/-- A registration takes one name, and leaves the others as they are. -/
theorem cons_iff (hNext : Registered tables proposal proposal.name next) :
    CollisionFree tables (proposal :: rest) ↔ CollisionFree next rest := by
  constructor
  · rintro ⟨hKnown, hFree, hDistinct⟩
    obtain ⟨hSlot, hRest⟩ := List.nodup_cons.mp hDistinct
    refine ⟨?_, ?_, hRest⟩
    · intro other hOther
      rw [hNext.keys_eq]
      exact hKnown other (List.mem_cons_of_mem _ hOther)
    · intro other hOther r hOwns
      rcases hNext.owns_iff.mp hOwns with hOld | ⟨hOwner, hName, -⟩
      · exact hFree other (List.mem_cons_of_mem _ hOther) r hOld
      · exact hSlot (List.mem_map.mpr ⟨other, hOther, Prod.ext hOwner hName⟩)
  · rintro ⟨hKnown, hFree, hDistinct⟩
    have hOwned := hNext.owns_iff.mpr (Or.inr ⟨rfl, rfl, rfl⟩)
    obtain ⟨table, hTable, hHere, -⟩ := id hNext
    refine ⟨?_, ?_, ?_⟩
    · refine List.forall_mem_cons.mpr ⟨Keyed.mem_keys_iff.mpr ⟨table, hTable⟩, ?_⟩
      intro other hOther
      rw [← hNext.keys_eq]
      exact hKnown other hOther
    · refine List.forall_mem_cons.mpr ⟨(contains_eq_false_iff_not_owns hTable).mp hHere, ?_⟩
      intro other hOther r hOwns
      exact hFree other hOther r (hNext.mono hOwns)
    · refine List.nodup_cons.mpr ⟨?_, hDistinct⟩
      intro hSlot
      obtain ⟨other, hOther, hEq⟩ := List.mem_map.mp hSlot
      obtain ⟨hOwner, hName⟩ := Prod.mk.inj hEq
      exact hFree other hOther _ (hOwner ▸ hName ▸ hOwned)

/-- Without a collision everything is registered without a question. -/
theorem exists_registrations {σ : Type} (policy : Policy σ) (state : σ)
    (h : CollisionFree tables done) :
    ∃ final, Registrations policy tables state done [] final state := by
  induction done generalizing tables with
  | nil => exact ⟨tables, .nil⟩
  | cons proposal rest ih =>
    obtain ⟨table, hTable⟩ := Keyed.mem_keys_iff.mp (h.known proposal List.mem_cons_self)
    have hFree : table.relationships.contains proposal.name = false :=
      (contains_eq_false_iff_not_owns hTable).mpr (h.free proposal List.mem_cons_self)
    have hNext : Registered tables proposal proposal.name _ := ⟨table, hTable, hFree, rfl⟩
    obtain ⟨final, hRest⟩ := ih ((cons_iff hNext).mp h)
    have hKept : Settles policy table proposal state [] (.ok proposal.name) state :=
      .kept (Keyed.contains_eq_false_iff_not_mem.mp hFree)
    exact ⟨final, .cons hTable hKept hNext.appended hRest⟩

end CollisionFree

namespace Registrations

variable {σ τ : Type} {policy : Policy σ} {tables tables' final : Keyed Table} {state after : σ}
  {done done' : List Proposal}

/-- Registrations without a question, from the last one back to the first. -/
theorem induction_silent {P : Keyed Table → List Proposal → Prop}
    (h : Registrations policy tables state done [] final after) (hEnd : P final [])
    (hStep : ∀ before proposal next rest, Registered before proposal proposal.name next →
      P next rest → P before (proposal :: rest)) : P tables done := by
  generalize hAsked : ([] : List Collision) = asked at h
  induction h with
  | nil => exact hEnd
  | cons hOwner hName hAppended _ ih =>
    obtain ⟨rfl, rfl⟩ := List.append_eq_nil_iff.mp hAsked.symm
    obtain ⟨-, hKept, -⟩ := hName.of_not_asked
    obtain rfl := Except.ok.inj hKept
    exact hStep _ _ _ _ (registered_iff_appended.mpr hAppended) (ih hEnd rfl)

theorem collisionFree (h : Registrations policy tables state done [] final after) :
    CollisionFree tables done := by
  refine h.induction_silent ?_ fun before proposal next rest hNext hRest => ?_
  · exact ⟨by simp, by simp, List.nodup_nil⟩
  · exact (CollisionFree.cons_iff hNext).mpr hRest

/-- Without a question tables come to own what is proposed, under the names that are proposed. -/
theorem owns_iff (h : Registrations policy tables state done [] final after)
    {owner name : String} {r : Relationship} :
    Owns final owner name r ↔ Owns tables owner name r ∨ ⟨owner, name, r⟩ ∈ done := by
  refine h.induction_silent (P := fun reached pending =>
    Owns final owner name r ↔ Owns reached owner name r ∨ ⟨owner, name, r⟩ ∈ pending) (by simp) ?_
  intro before proposal next rest hNext hRest
  rw [hRest, hNext.owns_iff, List.mem_cons, or_assoc]
  refine or_congr_right (or_congr_left ?_)
  obtain ⟨other, free, relationship⟩ := proposal
  rw [Proposal.mk.injEq]

/-- In another order the same is registered, on tables that are alike. -/
theorem reordered (h : Registrations policy tables state done [] final after)
    (hAlike : Alike tables tables') (hPerm : done.Perm done') (other : Policy τ) (start : τ) :
    ∃ final', Registrations other tables' start done' [] final' start ∧
      ∀ owner name r, Owns final owner name r ↔ Owns final' owner name r := by
  have hFree : CollisionFree tables' done' := (h.collisionFree.perm hPerm).congr hAlike
  obtain ⟨final', h'⟩ := hFree.exists_registrations other start
  refine ⟨final', h', ?_⟩
  intro owner name r
  rw [h.owns_iff, h'.owns_iff, owns_congr hAlike, hPerm.mem_iff]

end Registrations

/-! ## Relations in another order -/

theorem mapM_perm {α β : Type} {check : α → Except Stop β} {l l' : List α} {out : List β}
    (hPerm : l.Perm l') (h : l.mapM check = .ok out) :
    ∃ out', l'.mapM check = .ok out' ∧ out.Perm out' := by
  obtain ⟨out', hAll, hOut⟩ := List.perm_comp_forall₂ hPerm.symm (mapM_eq_ok_iff.mp h)
  exact ⟨out', mapM_eq_ok_iff.mpr hAll, hOut.symm⟩

theorem edgeProposals_perm (tables : Keyed Table) {edges edges' : List Edge}
    (h : edges.Perm edges') (edge : Edge) :
    (edgeProposals tables edges edge).Perm (edgeProposals tables edges' edge) := by
  unfold edgeProposals
  split
  · split
    · exact (h.filter edge.isPartner).map _
    · exact List.Perm.refl _
  · exact List.Perm.refl _
  · exact List.Perm.refl _

/-- A way over a link table is proposed for every pair of edges that leave it, whichever of them is
declared first. -/
theorem proposals_perm (tables : Keyed Table) {edges edges' : List Edge} (h : edges.Perm edges') :
    (proposals tables edges).Perm (proposals tables edges') :=
  h.flatMap fun edge _ => edgeProposals_perm tables h edge

/-- What a list of successes is a permutation of is one as well. -/
theorem exists_eq_map_ok_of_perm {done : List Proposal} {pending : List (Except Stop Proposal)}
    (h : (done.map Except.ok).Perm pending) :
    ∃ done', pending = done'.map Except.ok ∧ done.Perm done' := by
  have hAll : List.Forall₂ (fun outcome proposal => outcome = Except.ok proposal)
      (done.map (Except.ok : Proposal → Except Stop Proposal)) done := by
    rw [List.forall₂_map_left_iff, List.forall₂_same]
    exact fun _ _ => rfl
  obtain ⟨done', hAll', hDone⟩ := List.perm_comp_forall₂ h.symm hAll
  refine ⟨done', ?_, hDone.symm⟩
  rw [← List.forall₂_eq_eq_eq, List.forall₂_map_right_iff]
  exact hAll'

/-- A first pass without a question can be had from the same edges in another order. -/
theorem DirectCourse.reordered {σ τ : Type} {policy : Policy σ} {state after : σ}
    {tables tables' direct : Keyed Table} {edges edges' : List Edge}
    (h : DirectCourse policy tables state (proposals tables edges) [] (.ok direct) after)
    (hAlike : Alike tables tables') (hPerm : edges.Perm edges') (other : Policy τ) (start : τ) :
    ∃ direct', DirectCourse other tables' start (proposals tables' edges') [] (.ok direct') start ∧
      ∀ owner name r, Owns direct owner name r ↔ Owns direct' owner name r := by
  generalize hAsked : ([] : List Collision) = asked at h
  cases h with
  | @completed done asked direct after hPending hDone =>
    subst hAsked
    have hProposals : (done.map Except.ok).Perm (proposals tables' edges') := by
      rw [← hPending, proposals_congr hAlike]
      exact proposals_perm tables' hPerm
    obtain ⟨done', hPending', hDonePerm⟩ := exists_eq_map_ok_of_perm hProposals
    obtain ⟨direct', hDone', hOwns⟩ := hDone.reordered hAlike hDonePerm other start
    exact ⟨direct', .completed hPending' hDone', hOwns⟩

/-! ## Builds -/

section

variable {separator : String} {document document' : Document}

theorem Assembled.exists_edges_perm {registry registry' : Registry} {tables tables' : Keyed Table}
    {edges : List Edge} (h : Assembled separator document registry tables)
    (h' : Assembled separator document' registry' tables')
    (hSame : document.SameUpToOrder document')
    (hEdges : document.relations.mapM (Edge.ofDecl registry) = .ok edges) :
    ∃ edges', document'.relations.mapM (Edge.ofDecl registry') = .ok edges' ∧
      edges.Perm edges' := by
  rw [h.ofDecl_eq h' hSame.toSameTables] at hEdges
  exact mapM_perm hSame.relations hEdges

/-- The tables of a finished build are those of its documents, up to relationships. -/
theorem Staged.alike_bare {registry registry' : Registry}
    {tables tables' direct direct' final final' : Keyed Table} {edges edges' : List Edge}
    (h : Staged separator document registry tables edges direct final)
    (h' : Staged separator document' registry' tables' edges' direct' final')
    (hStart : Alike tables tables') :
    Alike (final.mapValues Table.bare) (final'.mapValues Table.bare) := by
  obtain ⟨additions, hRun⟩ := h.run
  obtain ⟨additions', hRun'⟩ := h'.run
  intro key
  calc (final.mapValues Table.bare).get? key
      = (tables.mapValues Table.bare).get? key := by rw [hRun.bare_eq, h.bare_eq]
    _ = (tables'.mapValues Table.bare).get? key := by
        rw [Keyed.get?_mapValues, Keyed.get?_mapValues, hStart key]
    _ = (final'.mapValues Table.bare).get? key := by rw [hRun'.bare_eq, h'.bare_eq]

/-- A build without a question can be had in every order of the declarations, with the same
tables and the same direct relationships. -/
theorem Course.reordered {σ τ : Type} {policy : Policy σ} {state after : σ} {schema : Schema}
    (hSame : document.SameUpToOrder document')
    (h : Course separator policy document state [] (.ok schema) after) (other : Policy τ)
    (start : τ) :
    ∃ schema', Course separator other document' start [] (.ok schema') start ∧
      Alike (schema.tables.mapValues Table.bare) (schema'.tables.mapValues Table.bare) ∧
      SameDirect schema.tables schema'.tables := by
  cases h with
  | @completed registry tables direct final edges _ additions after hTables hEdges hDirect hRun
      hThrough =>
    obtain ⟨hValid, hModels, hAssembled⟩ := assembleTables_eq_ok_iff.mp hTables
    have hValid' := hSame.hasValidTables hValid
    have hModels' : document'.HasModels := fun decl hDecl =>
      hModels decl (hSame.tables.mem_iff.mpr hDecl)
    obtain ⟨registry', tables', hAssembled'⟩ := hValid'.exists_assembled separator
    have hTables' := assembleTables_eq_ok_iff.mpr ⟨hValid', hModels', hAssembled'⟩
    have hAlike := hAssembled.alike hAssembled' hSame.toSameTables
    obtain ⟨edges', hEdges', hPerm⟩ := hAssembled.exists_edges_perm hAssembled' hSame hEdges
    obtain ⟨direct', hDirect', hOwns⟩ := hDirect.reordered hAlike hPerm other start
    obtain ⟨additions', final', -, hRun'⟩ := relateThrough_run other direct' start
    have hStaged := staged_of_run hTables hEdges hDirect.result_eq hRun
    have hStaged' := staged_of_run hTables' hEdges' hDirect'.result_eq hRun'
    have hThrough' := hRun'.registrations other start
    refine ⟨⟨final'⟩, .completed hTables' hEdges' hDirect' hRun' hThrough',
      hStaged.alike_bare hStaged' hAlike, ?_⟩
    intro owner name r hr
    rw [hStaged.owns_direct_iff hr, hStaged'.owns_direct_iff hr, hOwns]

variable {σ : Type}

/-- **Without collisions the order of declarations does not matter to the first pass.** If a
document is built although every taken name is refused, then so is every document that declares the
same tables, lists of columns and relations in another order. Both have the same tables up to
relationships, and under each name a table of the one owns the same `belongsTo`, `hasOne`,
`hasMany` or `belongsToMany` as in the other. -/
theorem resolve_reject_reordered (hSame : document.SameUpToOrder document') {state after : σ}
    {schema : Schema}
    (h : (resolve separator (.reject : Policy σ) document).result state = (.ok schema, after)) :
    ∃ schema', (resolve separator (.reject : Policy σ) document').result state =
        (.ok schema', after) ∧
      Alike (schema.tables.mapValues Table.bare) (schema'.tables.mapValues Table.bare) ∧
      SameDirect schema.tables schema'.tables := by
  obtain ⟨asked, hCourse⟩ := exists_course_of_ok h
  obtain ⟨rfl, rfl⟩ : asked = [] ∧ after = state := by
    cases hCourse with
    | completed hTables hEdges hDirect =>
      cases hDirect with
      | completed hPending hDone =>
        obtain rfl := hDone.asked_eq_nil
        exact ⟨rfl, hDone.eq_stateAfter⟩
  obtain ⟨schema', hCourse', hTables, hDirect⟩ := hCourse.reordered hSame .reject after
  exact ⟨schema', hCourse'.result_eq, hTables, hDirect⟩

end

/-! ## A document backwards -/

/-- The tables, lists of columns and relations of a document, each from the last to the first. -/
def Document.backwards (document : Document) : Document where
  tables := document.tables.reverse
  columns := ⟨document.columns.entries.reverse, by
    rw [List.map_reverse]
    exact List.nodup_reverse.mpr document.columns.nodup_keys⟩
  relations := document.relations.reverse

theorem Document.sameUpToOrder_backwards (document : Document) :
    document.SameUpToOrder document.backwards where
  tables := (List.reverse_perm _).symm
  columns := (List.reverse_perm _).symm
  relations := (List.reverse_perm _).symm

/-- News about rice and mail about staff, with a table that links news and mail. -/
def circulars : Document where
  tables := [plainTable "N" "news", plainTable "M" "mail", plainTable "R" "rice",
    plainTable "S" "staff", plainTable "L" "news_mail"]
  columns := .ofList [
    ("N", [plainColumn "N1" "id", plainColumn "N2" "rice_id"]),
    ("M", [plainColumn "M1" "id", { plainColumn "M2" "staff_id" with unique := true }]),
    ("R", [plainColumn "R1" "id"]),
    ("S", [plainColumn "S1" "id"]),
    ("L", [plainColumn "L1" "news_id", plainColumn "L2" "mail_id"])]
  relations := [relationBetween "L" "L1" "N" "N1", relationBetween "N" "N2" "R" "R1",
    relationBetween "L" "L2" "M" "M1", relationBetween "M" "M2" "S" "S1"]

/-- The names of the relationships of a table, with their kinds, in the order of registration. -/
def kindsOf (tables : Keyed Table) (owner : String) : List (String × String) :=
  (entriesOf tables owner).map fun entry => (entry.1, entry.2.kind.name)

/-- Read backwards, the declarations give `news` its relationships in another order. -/
theorem resolve_reject_reordered_circulars :
    circulars.SameUpToOrder circulars.backwards ∧
      ∃ schema schema',
        (resolve "_" (.reject : Policy Unit) circulars).result () = (.ok schema, ()) ∧
        (resolve "_" (.reject : Policy Unit) circulars.backwards).result () =
          (.ok schema', ()) ∧
        kindsOf schema.tables "news" = [("rice", "belongsTo"), ("mail", "belongsToMany")] ∧
        kindsOf schema'.tables "news" = [("mail", "belongsToMany"), ("rice", "belongsTo")] ∧
        Alike (schema.tables.mapValues Table.bare) (schema'.tables.mapValues Table.bare) ∧
        SameDirect schema.tables schema'.tables := by
  have hSame := circulars.sameUpToOrder_backwards
  have hForwards : ((resolve "_" (.reject : Policy Unit) circulars).result ()).1.toOption.map
      (fun schema => kindsOf schema.tables "news") =
      some [("rice", "belongsTo"), ("mail", "belongsToMany")] := by
    decide +kernel
  have hBackwards :
      ((resolve "_" (.reject : Policy Unit) circulars.backwards).result ()).1.toOption.map
        (fun schema => kindsOf schema.tables "news") =
      some [("mail", "belongsToMany"), ("rice", "belongsTo")] := by
    decide +kernel
  obtain ⟨schema, hBuild, hNews⟩ := exists_result_of_map hForwards
  obtain ⟨built, hBuilt, hNews'⟩ := exists_result_of_map hBackwards
  obtain ⟨schema', hBuild', hTables, hDirect⟩ := resolve_reject_reordered hSame hBuild
  rw [hBuilt, Prod.mk.injEq, Except.ok.injEq] at hBuild'
  obtain ⟨rfl, -⟩ := hBuild'
  exact ⟨hSame, schema, built, hBuild, hBuilt, hNews, hNews', hTables, hDirect⟩

end SchemaScaffold
