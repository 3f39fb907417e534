import SchemaScaffold.Proofs.Artifacts.ColumnRules

/-!
# Rules and canonical types

A migration takes the canonical type of a column whatever type the column has. The rules for a
column are made from its type as it stands, with cases for the types that are not canonical; these
cases give what the canonical type gives, but for two kinds of columns.

* `Column.isKey_canonical`: counting up makes a column a key once its type is canonical.
* `Column.fakeCut_canonical_iff`: the values of a `char` are cut to its length only then.
* `Column.rules_canonical_iff`: the rules are those of the column with its canonical type exactly if
  neither makes a difference.
* `canonical_changes_rules`: the rules of `counter` and `initials` do change.
-/

namespace SchemaScaffold

namespace Column

/-! ## What the canonical type changes -/

theorem isKey_canonical (column : Column) :
    column.canonical.isKey = (column.autoIncrement || column.isKey) := by
  have hCountsUp : column.canonicalType.countsUp =
      (column.autoIncrement || column.type.countsUp) := by
    unfold canonicalType ColumnType.canonical
    cases column.autoIncrement with
    | true => rfl
    | false => cases column.length.isSome <;> cases column.type <;> rfl
  show (column.canonicalType.countsUp || column.foreignKey.isSome) = _
  rw [hCountsUp, isKey, Bool.or_assoc]

/-- The rules have cases for all types, which go by what canonical types stand for. -/
theorem found_canonical {column : Column} (hCounts : column.autoIncrement = false) :
    column.canonical.generator? = column.generator? ∧
      column.canonical.validator? = column.validator? ∧
        column.canonical.sanitizer? = column.sanitizer? := by
  obtain ⟨name, type, length, nullable, unique, index, unsigned, defaultValue, comment,
    autoIncrement, foreignKey⟩ := column
  cases hCounts
  cases length <;> cases type <;> exact ⟨rfl, rfl, rfl⟩

theorem fakeCut_canonical_iff {column : Column} (hCounts : column.autoIncrement = false) :
    column.canonical.fakeCut = column.fakeCut ↔
      ¬ (column.type = .char ∧ column.length.isSome = true) := by
  obtain ⟨name, type, length, nullable, unique, index, unsigned, defaultValue, comment,
    autoIncrement, foreignKey⟩ := column
  cases hCounts
  cases length <;> cases type <;>
    simp [canonical, canonicalType, ColumnType.canonical, ColumnType.widened, ColumnType.sized,
      ColumnType.respelled, fakeCut]

/-! ## The rules -/

/-- A key has no rule, and a column that counts up is one by its canonical type; any other column
has the same rule as before if the same is found and said. -/
theorem ruleOf_canonical_eq_iff {α : Type} {column : Column} {found other : Option α}
    {text otherText : α → String} :
    column.canonical.ruleOf found text = column.ruleOf other otherText ↔
      column.isKey = true ∨ (column.autoIncrement = false ∧
        (found.map text).getD "" = (other.map otherText).getD "") := by
  unfold ruleOf
  rw [isKey_canonical]
  cases column.isKey with
  | true => simp
  | false => cases column.autoIncrement <;> simp

theorem fakeRule_canonical_iff {column : Column} :
    column.canonical.fakeRule = column.fakeRule ↔
      column.isKey = true ∨ (column.autoIncrement = false ∧
        ¬ (column.type = .char ∧ column.length.isSome = true)) := by
  rw [fakeRule_eq_ruleOf, fakeRule_eq_ruleOf, ruleOf_canonical_eq_iff]
  refine or_congr_right (and_congr_right fun hCounts => ?_)
  rw [← fakeCut_canonical_iff hCounts, (found_canonical hCounts).1]
  cases hFound : column.generator? with
  | some generator =>
    rw [Option.map_some, Option.map_some, Option.getD_some, Option.getD_some]
    exact String.append_right_inj _
  | none =>
    rw [fakeCut_canonical_iff hCounts]
    refine iff_of_true rfl ?_
    rintro ⟨hChar, -⟩
    rw [generator?_eq_none_iff, hChar] at hFound
    cases hFound

theorem validationRule_canonical_iff {column : Column} :
    column.canonical.validationRule = column.validationRule ↔
      column.isKey = true ∨ column.autoIncrement = false := by
  rw [validationRule_eq_ruleOf, validationRule_eq_ruleOf, ruleOf_canonical_eq_iff]
  refine or_congr_right (and_iff_left_of_imp fun hCounts => ?_)
  rw [(found_canonical hCounts).2.1]
  rfl

theorem sanitizationRule_canonical_iff {column : Column} :
    column.canonical.sanitizationRule = column.sanitizationRule ↔
      column.isKey = true ∨ column.autoIncrement = false := by
  rw [sanitizationRule_eq_ruleOf, sanitizationRule_eq_ruleOf, ruleOf_canonical_eq_iff]
  refine or_congr_right (and_iff_left_of_imp fun hCounts => ?_)
  rw [(found_canonical hCounts).2.2]
  rfl

/-- **The rules are those of the column with its canonical type**, unless the column counts up and
is no key yet, or, for fake data, is a `char` of some length and no key. Then they differ. -/
theorem rules_canonical_iff (column : Column) :
    (column.canonical.fakeRule = column.fakeRule ↔
      column.isKey = true ∨ (column.autoIncrement = false ∧
        ¬ (column.type = .char ∧ column.length.isSome = true))) ∧
    (column.canonical.validationRule = column.validationRule ↔
      column.isKey = true ∨ column.autoIncrement = false) ∧
    (column.canonical.sanitizationRule = column.sanitizationRule ↔
      column.isKey = true ∨ column.autoIncrement = false) :=
  ⟨fakeRule_canonical_iff, validationRule_canonical_iff, sanitizationRule_canonical_iff⟩

end Column

/-- An integer that counts up. -/
def counter : Column := { name := "id", type := .integer, autoIncrement := true }

/-- Three characters. -/
def initials : Column := { name := "initials", type := .char, length := some 3 }

/-- All rules for `counter` are gone once its type is canonical, and fake `initials` are cut only
then. -/
theorem canonical_changes_rules :
    counter.canonical.fakeRule ≠ counter.fakeRule ∧
      counter.canonical.validationRule ≠ counter.validationRule ∧
        counter.canonical.sanitizationRule ≠ counter.sanitizationRule ∧
          initials.canonical.fakeRule ≠ initials.fakeRule := by
  decide

end SchemaScaffold
