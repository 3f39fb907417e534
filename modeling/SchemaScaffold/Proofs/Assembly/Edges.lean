import Mathlib.Data.List.Forall2
import SchemaScaffold.Proofs.Assembly.Declarations
import SchemaScaffold.Proofs.Relationships.Proposals

/-!
# Relations with both ends resolved

* `Place.ofEndpoint_eq_ok_iff`, `mapM_ofDecl_eq_ok_iff`: when ends and relations are resolved, and to
  what.
* `Assembled.exists_place_iff`: on what was assembled from a document, exactly the endpoints that the
  document declares are resolved.
* `Assembled.exists_edges_iff`: all relations are resolved exactly in a valid document.
* `Assembled.isKnown`: the ends of an edge are in assembled tables.
-/

namespace SchemaScaffold

theorem Place.ofEndpoint_eq_ok_iff {registry : Registry} {endpoint : Endpoint} {place : Place} :
    Place.ofEndpoint registry endpoint = .ok place ↔
      registry.columns.get? endpoint.columnId = some ⟨place.table, place.column⟩ ∧
        registry.nameOfTable? endpoint.tableId = some place.table := by
  obtain ⟨table, column⟩ := place
  unfold Place.ofEndpoint Registry.tableOfColumn? Registry.nameOfColumn?
  cases registry.columns.get? endpoint.columnId with
  | none => simp
  | some entry =>
    obtain ⟨owner, name⟩ := entry
    cases registry.nameOfTable? endpoint.tableId with
    | none => simp
    | some declared =>
      by_cases hSame : declared = owner
      · subst hSame
        simp only [Option.map_some, if_true, Except.ok.injEq, Place.mk.injEq, Option.some.injEq,
          ColumnEntry.mk.injEq]
        constructor
        · rintro ⟨rfl, rfl⟩
          exact ⟨⟨rfl, rfl⟩, rfl⟩
        · rintro ⟨⟨rfl, rfl⟩, -⟩
          exact ⟨rfl, rfl⟩
      · simp only [Option.map_some, if_neg hSame, Stop.invalid, reduceCtorEq, Option.some.injEq,
          ColumnEntry.mk.injEq, false_iff]
        rintro ⟨⟨rfl, -⟩, rfl⟩
        exact hSame rfl

theorem Edge.ofDecl_eq_ok_iff {registry : Registry} {decl : RelationDecl} {edge : Edge} :
    Edge.ofDecl registry decl = .ok edge ↔
      Place.ofEndpoint registry decl.source = .ok edge.source ∧
        Place.ofEndpoint registry decl.target = .ok edge.target := by
  unfold Edge.ofDecl
  simp only [Stop.bind_eq_ok_iff, Except.ok.injEq]
  constructor
  · rintro ⟨source, hSource, target, hTarget, rfl⟩
    exact ⟨hSource, hTarget⟩
  · rintro ⟨hSource, hTarget⟩
    exact ⟨edge.source, hSource, edge.target, hTarget, rfl⟩

/-- A list of checks succeeds if and only if each of them does. -/
theorem mapM_eq_ok_iff {α β : Type} {check : α → Except Stop β} {l : List α} {out : List β} :
    l.mapM check = .ok out ↔ List.Forall₂ (fun a b => check a = .ok b) l out := by
  induction l generalizing out with
  | nil =>
    rw [List.mapM_nil, List.forall₂_nil_left_iff]
    constructor
    · intro h
      cases h
      rfl
    · rintro rfl
      rfl
  | cons a rest ih =>
    simp only [List.mapM_cons, Stop.bind_eq_ok_iff, List.forall₂_cons_left_iff, ih]
    constructor
    · rintro ⟨b, hHead, bs, hRest, h⟩
      cases h
      exact ⟨b, bs, hHead, hRest, rfl⟩
    · rintro ⟨b, bs, hHead, hRest, rfl⟩
      exact ⟨b, hHead, bs, hRest, rfl⟩

theorem exists_mapM_iff {α β : Type} {check : α → Except Stop β} {l : List α} :
    (∃ out, l.mapM check = .ok out) ↔ ∀ a ∈ l, ∃ b, check a = .ok b := by
  simp only [mapM_eq_ok_iff]
  induction l with
  | nil => simp
  | cons a rest ih =>
    simp only [List.forall₂_cons_left_iff, List.forall_mem_cons, ← ih]
    constructor
    · rintro ⟨-, b, out, hHead, hRest, rfl⟩
      exact ⟨⟨b, hHead⟩, out, hRest⟩
    · rintro ⟨⟨b, hHead⟩, out, hRest⟩
      exact ⟨b :: out, b, out, hHead, hRest, rfl⟩

theorem exists_of_forall₂_of_mem_right {α β : Type} {R : α → β → Prop} {l : List α} {l' : List β}
    (h : List.Forall₂ R l l') {b : β} (hb : b ∈ l') : ∃ a ∈ l, R a b := by
  induction h with
  | nil => cases hb
  | @cons a b' _ _ hR _ ih =>
    rcases List.mem_cons.mp hb with rfl | hRest
    · exact ⟨a, List.mem_cons_self, hR⟩
    · obtain ⟨a', ha', hR'⟩ := ih hRest
      exact ⟨a', List.mem_cons_of_mem _ ha', hR'⟩

theorem exists_of_mem_mapM {α β : Type} {check : α → Except Stop β} {l : List α} {out : List β}
    (h : l.mapM check = .ok out) {b : β} (hb : b ∈ out) : ∃ a ∈ l, check a = .ok b :=
  exists_of_forall₂_of_mem_right (mapM_eq_ok_iff.mp h) hb

/-! ## Edges of a document -/

namespace Assembled

variable {separator : String} {document : Document} {registry : Registry} {tables : Keyed Table}

/-- Exactly the declared endpoints are resolved. -/
theorem exists_place_iff (h : Assembled separator document registry tables)
    (hValid : document.HasValidTables) {endpoint : Endpoint} :
    (∃ place, Place.ofEndpoint registry endpoint = .ok place) ↔ document.Declares endpoint := by
  simp only [Place.ofEndpoint_eq_ok_iff, h.column_get?_eq_some_iff, h.nameOfTable?_eq_some_iff,
    ColumnEntry.mk.injEq]
  constructor
  · rintro ⟨place, ⟨decl, hDecl, column, hColumn, hId, hName, -⟩, other, hOther, hOtherId, hSame⟩
    have hEq : other = decl :=
      List.inj_on_of_nodup_map hValid.tableNames hOther hDecl (hSame.trans hName.symm)
    subst hEq
    exact ⟨other, hOther, hOtherId, List.mem_map.mpr ⟨column, hColumn, hId⟩⟩
  · rintro ⟨decl, hDecl, hTableId, hColumnId⟩
    obtain ⟨column, hColumn, hId⟩ := List.mem_map.mp hColumnId
    exact ⟨⟨decl.name, column.name⟩, ⟨decl, hDecl, column, hColumn, hId, rfl, rfl⟩, decl, hDecl,
      hTableId, rfl⟩

/-- The relations are resolved exactly in a valid document. -/
theorem exists_edges_iff (h : Assembled separator document registry tables)
    (hValid : document.HasValidTables) :
    (∃ edges, document.relations.mapM (Edge.ofDecl registry) = .ok edges) ↔ document.IsValid := by
  have hEach : ∀ decl : RelationDecl, (∃ edge, Edge.ofDecl registry decl = .ok edge) ↔
      document.Declares decl.source ∧ document.Declares decl.target := by
    intro decl
    rw [← h.exists_place_iff hValid, ← h.exists_place_iff hValid]
    simp only [Edge.ofDecl_eq_ok_iff]
    constructor
    · rintro ⟨edge, hSource, hTarget⟩
      exact ⟨⟨_, hSource⟩, _, hTarget⟩
    · rintro ⟨⟨source, hSource⟩, target, hTarget⟩
      exact ⟨⟨source, target⟩, hSource, hTarget⟩
  rw [exists_mapM_iff]
  simp only [hEach]
  constructor
  · intro hEndpoints
    exact { hValid with endpoints := hEndpoints }
  · intro hAll
    exact hAll.endpoints

theorem place_mem (h : Assembled separator document registry tables) {endpoint : Endpoint}
    {place : Place} (hPlace : Place.ofEndpoint registry endpoint = .ok place) :
    place.table ∈ tables.keys := by
  obtain ⟨decl, hDecl, -, hName⟩ :=
    h.nameOfTable?_eq_some_iff.mp (Place.ofEndpoint_eq_ok_iff.mp hPlace).2
  exact Keyed.mem_keys_iff.mpr ⟨_, h.get?_eq_some_iff.mpr ⟨decl, hDecl, hName, rfl⟩⟩

/-- The ends of an edge are in assembled tables. -/
theorem isKnown (h : Assembled separator document registry tables) {edges : List Edge}
    (hEdges : document.relations.mapM (Edge.ofDecl registry) = .ok edges) :
    ∀ edge ∈ edges, edge.IsKnown tables := by
  intro edge hEdge
  obtain ⟨decl, -, hDecl⟩ := exists_of_mem_mapM hEdges hEdge
  obtain ⟨hSource, hTarget⟩ := Edge.ofDecl_eq_ok_iff.mp hDecl
  exact ⟨h.place_mem hSource, h.place_mem hTarget⟩

end Assembled

end SchemaScaffold
