import SchemaScaffold.Artifact.Model
import SchemaScaffold.Proofs.Artifacts.CallChains

/-!
# The calls that give related models

The body of an accessor is a call with several texts as its arguments, in an order of its own for
each kind, and for a many-to-many relationship two calls more. All the texts can be told apart.

* `literals`, `filterMap_text?_literals`: texts as arguments, which are read back.
* `Relationship.calls`, `Relationship.accessor_eq_chainText`: the calls that an accessor makes.
* `Relationship.AccessedAlike`, `Relationship.accessor_eq_iff`: two accessors have the same body
  exactly if their relationships are of the same kind and agree in all that this kind shows.
-/

namespace SchemaScaffold

/-! ## Texts as arguments -/

/-- Several texts as the arguments of a call. -/
def literals (texts : List String) : List Piece :=
  (marks ", ").intercalate (texts.map fun text => [.literal text])

/-- The text of a literal. -/
def Piece.text? : Piece → Option String
  | .mark _ => none
  | .literal text => some text

theorem literals_cons_cons (first second : String) (rest : List String) :
    literals (first :: second :: rest) =
      .literal first :: (marks ", " ++ literals (second :: rest)) := by
  simp [literals, List.intercalate_cons_cons]

theorem flatMap_toList_literals (texts : List String) :
    (literals texts).flatMap Piece.toList = (arguments (texts.map quoted)).toList := by
  induction texts with
  | nil => rfl
  | cons first rest ih =>
    cases rest with
    | nil => simp [literals, arguments, Piece.toList]
    | cons second rest =>
      rw [List.map_cons, List.map_cons, arguments, String.intercalate_cons_cons, ← arguments,
        ← List.map_cons, literals_cons_cons, List.flatMap_cons, List.flatMap_append, ih,
        flatMap_toList_marks, String.toList_append, String.toList_append, List.append_assoc,
        Piece.toList]

theorem filterMap_text?_literals (texts : List String) :
    (literals texts).filterMap Piece.text? = texts := by
  have hMarks : (marks ", ").filterMap Piece.text? = [] := rfl
  induction texts with
  | nil => rfl
  | cons first rest ih =>
    cases rest with
    | nil => rfl
    | cons second rest =>
      rw [literals_cons_cons, List.filterMap_cons, List.filterMap_append, hMarks, ih,
        List.nil_append]
      rfl

theorem literals_inj {texts others : List String} :
    literals texts = literals others ↔ texts = others := by
  constructor
  · intro h
    rw [← filterMap_text?_literals texts, h, filterMap_text?_literals]
  · intro h
    rw [h]

theorem mark_not_mem_literals {c : Char} (hc : c ∉ ", ".toList) (texts : List String) :
    .mark c ∉ literals texts := by
  induction texts with
  | nil => exact List.not_mem_nil
  | cons first rest ih =>
    cases rest with
    | nil => simp [literals]
    | cons second rest =>
      rw [literals_cons_cons, List.mem_cons, List.mem_append, mark_mem_marks_iff]
      rintro (h | h | h)
      · cases h
      · exact hc h
      · exact ih h

/-! ## The calls of an accessor -/

/-- The names of kinds are words. -/
theorem RelationshipKind.isAlpha_of_mem_name (kind : RelationshipKind) :
    ∀ c ∈ kind.name.toList, c.isAlpha = true := by
  rw [← List.all_eq_true]
  cases kind <;> simp only [name] <;> decide

namespace Relationship

/-- The model whose class the method of a relationship names: the one in the middle if it goes over
two others. -/
def namedModel (r : Relationship) : String :=
  match r.passage? with
  | some passage => passage.throughModel
  | none => r.model

/-- What the method of a relationship names behind the model. -/
def namedTexts (relationship : Relationship) : List String :=
  match relationship.kind with
  | .belongsTo => [relationship.foreignKey, relationship.primaryKey]
  | .hasOne | .hasMany => [relationship.primaryKey, relationship.foreignKey]
  | .hasManyThrough passage =>
    [passage.relatedMethod, relationship.primaryKey, relationship.foreignKey]
  | .belongsToMany pivot =>
    [relationship.foreignKey, pivot.relatedForeignKey, relationship.primaryKey,
     pivot.relatedPrimaryKey]

/-- The calls behind the first one. -/
def pivotCalls (relationship : Relationship) : List Call :=
  match relationship.kind with
  | .belongsToMany pivot =>
    ⟨"pivotTable", [.literal pivot.table]⟩ :: callIf pivot.withTimestamps "withTimestamps"
  | _ => []

/-- The calls of an accessor. -/
def calls (relationship : Relationship) : List Call :=
  let texts := modelPath relationship.namedModel :: relationship.namedTexts
  ⟨relationship.kind.name, literals texts⟩ :: relationship.pivotCalls

theorem accessor_eq_chainText (relationship : Relationship) :
    relationship.accessor = chainText "return this" relationship.calls := by
  obtain ⟨kind, table, model, primaryKey, foreignKey⟩ := relationship
  rw [← String.toList_inj]
  cases kind with
  | belongsToMany pivot =>
    cases hTimes : pivot.withTimestamps <;>
      simp [accessor, chainText, calls, namedModel, passage?, namedTexts, pivotCalls, callIf,
        hTimes, Call.toList_text, flatMap_toList_literals, Piece.toList]
  | _ =>
    simp [accessor, chainText, calls, namedModel, passage?, namedTexts, pivotCalls,
      Call.toList_text, flatMap_toList_literals]

theorem isPlain_of_mem_calls (relationship : Relationship) :
    ∀ call ∈ relationship.calls, call.IsPlain := by
  have hTexts : ∀ texts, .mark ')' ∉ literals texts ∧ .mark '\'' ∉ literals texts := fun texts =>
    ⟨mark_not_mem_literals (by decide) texts, mark_not_mem_literals (by decide) texts⟩
  intro call hCall
  rcases List.mem_cons.mp hCall with rfl | hPivot
  · exact Call.isPlain_of_word relationship.kind.isAlpha_of_mem_name (hTexts _)
  · unfold pivotCalls at hPivot
    split at hPivot
    · rcases List.mem_cons.mp hPivot with rfl | hTimes
      · exact Call.isPlain_of (by decide) (by simp)
      · obtain ⟨-, rfl⟩ := mem_callIf_iff.mp hTimes
        exact Call.isPlain_of (by decide) (by simp)
    · cases hPivot

/-! ## What an accessor tells of a relationship -/

/-- Relationships of the same kind that agree in all that an accessor of this kind shows. -/
def AccessedAlike (a b : Relationship) : Prop :=
  match a.kind, b.kind with
  | .belongsTo, .belongsTo | .hasOne, .hasOne | .hasMany, .hasMany =>
    a.model = b.model ∧ a.foreignKey = b.foreignKey ∧ a.primaryKey = b.primaryKey
  | .hasManyThrough passage, .hasManyThrough other =>
    passage.throughModel = other.throughModel ∧ passage.relatedMethod = other.relatedMethod ∧
      a.primaryKey = b.primaryKey ∧ a.foreignKey = b.foreignKey
  | .belongsToMany pivot, .belongsToMany other =>
    a.model = b.model ∧ a.foreignKey = b.foreignKey ∧
      pivot.relatedForeignKey = other.relatedForeignKey ∧ a.primaryKey = b.primaryKey ∧
        pivot.relatedPrimaryKey = other.relatedPrimaryKey ∧ pivot.table = other.table ∧
          pivot.withTimestamps = other.withTimestamps
  | _, _ => False

theorem calls_eq_iff {a b : Relationship} :
    a.calls = b.calls ↔
      (a.kind.name = b.kind.name ∧ a.namedModel = b.namedModel ∧ a.namedTexts = b.namedTexts) ∧
        a.pivotCalls = b.pivotCalls := by
  have hPath (model other : String) : modelPath model = modelPath other ↔ model = other :=
    String.append_right_inj _
  rw [calls, calls, List.cons.injEq, Call.mk.injEq, literals_inj, List.cons.injEq, hPath]

theorem calls_eq_iff_accessedAlike {a b : Relationship} :
    a.calls = b.calls ↔ a.AccessedAlike b := by
  obtain ⟨kind, table, model, primaryKey, foreignKey⟩ := a
  obtain ⟨other, otherTable, otherModel, otherPrimaryKey, otherForeignKey⟩ := b
  rw [calls_eq_iff]
  -- of 25 pairs of kinds all but five are told apart by their names
  cases kind <;> cases other <;>
    simp [AccessedAlike, RelationshipKind.name, namedModel, passage?, namedTexts, pivotCalls,
      callIf_inj, and_assoc, and_comm, and_left_comm]

/-- **The body of an accessor tells its relationship from all that are not accessed alike**, and
from none that are: no text in one argument reaches into the next one or into the calls behind. -/
theorem accessor_eq_iff (a b : Relationship) : a.accessor = b.accessor ↔ a.AccessedAlike b := by
  rw [accessor_eq_chainText, accessor_eq_chainText,
    chainText_inj (by decide) a.isPlain_of_mem_calls b.isPlain_of_mem_calls,
    calls_eq_iff_accessedAlike]

end Relationship

end SchemaScaffold
