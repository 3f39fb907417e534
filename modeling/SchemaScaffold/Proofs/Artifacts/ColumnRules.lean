import SchemaScaffold.Proofs.Artifacts.ColumnCalls
import SchemaScaffold.Proofs.Artifacts.Transcription

/-!
# What the records say of a column

A migration, a factory and a model each judge the type of a column for themselves. They agree which
columns are keys, and which types are not known.

* `OpensWith`, `RefersAway`: what the calls that create a column tell of it.
* `Column.ruleOf`, `Column.ruleAgrees_ruleOf`: a rule that is made as all of them are agrees with
  the call that creates the column.
* `ColumnRecord.Agrees`, `convert_columnRecordsAgree`: so the three records on a converted column
  agree, whatever its texts look like.
-/

namespace SchemaScaffold

/-! ## What a migration says -/

/-- The first call on the table in a script is to the given method. -/
def OpensWith (script method : String) : Prop :=
  ∃ call rest, readChain? "table" script = some (call :: rest) ∧ call.name = method

/-- Among the calls on the table in a script are `references` and, right behind it, `on`. -/
def RefersAway (script : String) : Prop :=
  ∃ calls column table, readChain? "table" script = some calls ∧
    [⟨"references", [.literal column]⟩, ⟨"on", [.literal table]⟩] <:+: calls

namespace Column

theorem opensWith_migrationCall_iff {column : Column} {method : String} :
    OpensWith column.migrationCall method ↔ column.openingCall.name = method := by
  simp only [OpensWith, readChain?_migrationCall, Option.some.injEq, calls, List.cons.injEq]
  constructor
  · rintro ⟨call, rest, ⟨rfl, -⟩, hName⟩
    exact hName
  · intro hName
    exact ⟨_, _, ⟨rfl, rfl⟩, hName⟩

theorem openingCall_name (column : Column) :
    column.openingCall.name =
      match column.canonicalType with
      | .unknown _ => "specificType"
      | .tinyText | .mediumText | .longText => "text"
      | type => type.name := by
  unfold openingCall
  cases column.canonicalType <;> rfl

theorem openingCall_name_eq_increments_iff {column : Column} :
    column.openingCall.name = "increments" ↔ column.canonicalType.countsUp = true := by
  rw [openingCall_name]
  cases column.canonicalType <;> simp [ColumnType.name, ColumnType.countsUp]

theorem openingCall_name_eq_specificType_iff {column : Column} :
    column.openingCall.name = "specificType" ↔ column.canonicalType.isUnknown = true := by
  rw [openingCall_name]
  cases column.canonicalType <;> simp [ColumnType.name, ColumnType.isUnknown]

theorem openingCall_name_ne_references (column : Column) :
    column.openingCall.name ≠ "references" := by
  rw [openingCall_name]
  cases column.canonicalType <;> simp [ColumnType.name]

theorem refersAway_migrationCall_iff {column : Column} :
    RefersAway column.migrationCall ↔ column.foreignKey.isSome = true := by
  simp only [RefersAway, readChain?_migrationCall, Option.some.injEq]
  constructor
  · rintro ⟨_, target, table, rfl, hCalls⟩
    have hMem : ⟨"references", [.literal target]⟩ ∈ column.calls :=
      hCalls.subset List.mem_cons_self
    rcases List.mem_cons.mp hMem with hOpening | hClause
    · exact absurd (congrArg Call.name hOpening).symm column.openingCall_name_ne_references
    · obtain ⟨key, hKey, -⟩ : ∃ key, column.foreignKey = some key ∧
          ⟨"references", [.literal target]⟩ ∈ keyCalls key := by
        simpa [mem_clauseCalls_iff] using hClause
      rw [hKey, Option.isSome_some]
  · intro hKey
    obtain ⟨key, hKey⟩ := Option.isSome_iff_exists.mp hKey
    refine ⟨_, key.column, key.table, rfl, ?_⟩
    have hBack : keyCalls key <:+ column.calls := by
      rw [calls, clauseCalls, hKey, Option.map_some, Option.getD_some]
      exact (List.suffix_append _ _).trans (List.suffix_cons _ _)
    have hFront : [⟨"references", [.literal key.column]⟩, ⟨"on", [.literal key.table]⟩] <+:
        keyCalls key := ⟨[⟨"onDelete", [.literal "set null"]⟩], rfl⟩
    exact hFront.isInfix.trans hBack.isInfix

end Column

/-! ## What a factory and a model say -/

/-- The types for which nothing is known that makes or checks their values. -/
def ColumnType.isOpaque (type : ColumnType) : Bool := type.countsUp || type.isUnknown

namespace Column

/-- The rule for a column: none for a key, and else a text on what is found for its type, which is
empty if nothing is found. -/
def ruleOf {α : Type} (column : Column) (found : Option α) (text : α → String) : Option String :=
  if column.isKey then none else some ((found.map text).getD "")

theorem fakeRule_eq_ruleOf (column : Column) :
    column.fakeRule = column.ruleOf column.generator? fun generator =>
      column.name ++ ": faker." ++ (if column.nullable then "bool() ? null : faker." else "") ++
        generator ++ column.fakeCut := by
  unfold fakeRule ruleOf
  cases column.generator? <;> rfl

theorem validationRule_eq_ruleOf (column : Column) :
    column.validationRule = column.ruleOf column.validator? fun validator =>
      column.rule (column.validationText validator) := by
  unfold validationRule ruleOf
  cases column.validator? <;> rfl

theorem sanitizationRule_eq_ruleOf (column : Column) :
    column.sanitizationRule = column.ruleOf column.sanitizer? column.rule := by
  unfold sanitizationRule ruleOf
  cases column.sanitizer? <;> rfl

theorem rule_ne_empty (column : Column) (text : String) : column.rule text ≠ "" := by
  simp [rule]

theorem generator?_eq_none_iff {column : Column} :
    column.generator? = none ↔ column.type.isOpaque = true := by
  unfold generator?
  cases column.type <;> simp [ColumnType.isOpaque, ColumnType.countsUp, ColumnType.isUnknown]

theorem validator?_eq_none_iff {column : Column} :
    column.validator? = none ↔ column.type.isOpaque = true := by
  unfold validator?
  cases column.type <;> simp [ColumnType.isOpaque, ColumnType.countsUp, ColumnType.isUnknown]

theorem sanitizer?_eq_none_iff {column : Column} :
    column.sanitizer? = none ↔ column.type.isOpaque = true := by
  unfold sanitizer?
  cases column.type <;> simp [ColumnType.isOpaque, ColumnType.countsUp, ColumnType.isUnknown]

end Column

/-! ## The records on one column -/

/-- A rule agrees with the call that creates its column: it is absent if and only if the call opens
with `increments` or goes on with a reference, and otherwise it is empty if and only if the call
opens with `specificType`. -/
structure RuleAgrees (call : String) (rule : Option String) : Prop where
  absent : rule = none ↔ OpensWith call "increments" ∨ RefersAway call
  empty : rule ≠ none → (rule = some "" ↔ OpensWith call "specificType")

/-- What is generated for a column: the call that creates it, its rule for fake data, and the rules
that check and clean its values. -/
structure ColumnRecord where
  call : String
  fake : Option String
  validation : Option String
  sanitization : Option String
  deriving Repr, DecidableEq

/-- All rules for a column agree with the call that creates it, and so with each other. -/
structure ColumnRecord.Agrees (record : ColumnRecord) : Prop where
  fake : RuleAgrees record.call record.fake
  validation : RuleAgrees record.call record.validation
  sanitization : RuleAgrees record.call record.sanitization

namespace Column

/-- A migration takes the canonical type of a column and a rule its type as it is. Where the two are
one, a rule agrees if nothing is found for exactly the opaque types. -/
theorem ruleAgrees_ruleOf {α : Type} {column : Column} (hType : column.canonicalType = column.type)
    {found : Option α} {text : α → String} (hText : ∀ a, text a ≠ "")
    (hFound : found = none ↔ column.type.isOpaque = true) :
    RuleAgrees column.migrationCall (column.ruleOf found text) where
  absent := by
    rw [opensWith_migrationCall_iff, openingCall_name_eq_increments_iff,
      refersAway_migrationCall_iff, hType, ← Bool.or_eq_true, ← isKey]
    simp [ruleOf]
  empty := by
    intro hPresent
    have hKey : column.isKey = false := by simpa [ruleOf] using hPresent
    -- a column that is no key does not count up, so that it is opaque only if it is not known
    obtain ⟨hCountsUp, -⟩ := Bool.or_eq_false_iff.mp hKey
    rw [ColumnType.isOpaque, hCountsUp, Bool.false_or] at hFound
    rw [opensWith_migrationCall_iff, openingCall_name_eq_specificType_iff, hType, ← hFound]
    cases found <;> simp [ruleOf, hKey, hText]

/-- What is generated for a column. -/
def record (column : Column) : ColumnRecord :=
  ⟨column.migrationCall, column.fakeRule, column.validationRule, column.sanitizationRule⟩

theorem agrees_record {column : Column} (hType : column.canonicalType = column.type) :
    column.record.Agrees where
  fake := by
    rw [record, fakeRule_eq_ruleOf]
    exact ruleAgrees_ruleOf hType (fun generator => by simp) generator?_eq_none_iff
  validation := by
    rw [record, validationRule_eq_ruleOf]
    exact ruleAgrees_ruleOf hType (fun validator => column.rule_ne_empty _) validator?_eq_none_iff
  sanitization := by
    rw [record, sanitizationRule_eq_ruleOf]
    exact ruleAgrees_ruleOf hType column.rule_ne_empty sanitizer?_eq_none_iff

/-- The type of a declared column is canonical. -/
theorem Transcribes.canonicalType_eq {document : Document} {decl : ColumnDecl} {column : Column}
    (h : column.Transcribes document decl) : column.canonicalType = column.type := by
  rw [canonicalType, h.length, h.autoIncrement, h.type, ColumnType.canonical_canonical]

end Column

/-- The records on a table, found by its name, have these entries on a column of the given name. -/
structure Artifacts.Lists (artifacts : Artifacts) (table column : String) (record : ColumnRecord) :
    Prop where
  migration : ∃ migration ∈ artifacts.migrations,
    migration.name = table ∧ ⟨column, record.call⟩ ∈ migration.columns
  factory : ∃ factory ∈ artifacts.factories,
    factory.table = table ∧ ⟨column, record.fake⟩ ∈ factory.columns
  model : ∃ model ∈ artifacts.models,
    model.table = table ∧ ⟨column, record.validation, record.sanitization⟩ ∈ model.columns

/-! ## The columns of a conversion -/

/-- Values that are kept under names of their own are told apart by these. -/
theorem Keyed.eq_of_mem_values {α : Type} {m : Keyed α} {name : α → String}
    (hNames : ∀ entry ∈ m.entries, entry.1 = name entry.2) {a b : α} (ha : a ∈ m.values)
    (hb : b ∈ m.values) (hEq : name a = name b) : a = b := by
  obtain ⟨⟨_, _⟩, hA, rfl⟩ := List.mem_map.mp ha
  obtain ⟨⟨_, _⟩, hB, rfl⟩ := List.mem_map.mp hb
  have hKey := (hNames _ hA).trans (hEq.trans (hNames _ hB).symm)
  exact congrArg Prod.snd (List.inj_on_of_nodup_map m.nodup_keys hA hB hKey)

/-- The entries on a column are those that are made from the column. -/
theorem Artifacts.lists_ofSchema_iff {schema : Schema} {table : Table} {column : Column}
    (hTable : table ∈ schema.entityTables) (hColumn : column ∈ table.columns.values)
    (hTables : ∀ entry ∈ schema.tables.entries, entry.1 = entry.2.name)
    (hColumns : ∀ entry ∈ table.columns.entries, entry.1 = entry.2.name) (record : ColumnRecord) :
    (ofSchema schema).Lists table.name column.name record ↔ record = column.record := by
  have hValue : table ∈ schema.tables.values := (List.mem_filter.mp hTable).1
  have hTableEq : ∀ other ∈ schema.tables.values, other.name = table.name → other = table :=
    fun other hOther hEq => Keyed.eq_of_mem_values hTables hOther hValue hEq
  have hColumnEq : ∀ other ∈ table.columns.values, other.name = column.name → other = column :=
    fun other hOther hEq => Keyed.eq_of_mem_values hColumns hOther hColumn hEq
  constructor
  · rintro ⟨⟨_, hMigration, hName, hCall⟩, ⟨_, hFactory, hName', hFake⟩,
      ⟨_, hModel, hName'', hRules⟩⟩
    obtain ⟨other, hOther, rfl⟩ := List.mem_map.mp hMigration
    obtain rfl := hTableEq other hOther hName
    obtain ⟨other, hOther, rfl⟩ := List.mem_map.mp hFactory
    obtain rfl := hTableEq other (List.mem_filter.mp hOther).1 hName'
    obtain ⟨other, hOther, rfl⟩ := List.mem_map.mp hModel
    obtain rfl := hTableEq other (List.mem_filter.mp hOther).1 hName''
    obtain ⟨other, hOther, hSame⟩ := List.mem_map.mp hCall
    obtain ⟨hName, hCallEq⟩ := ColumnCall.mk.inj hSame
    obtain rfl := hColumnEq other hOther hName
    obtain ⟨other, hOther, hSame⟩ := List.mem_map.mp hFake
    obtain ⟨hName, hFakeEq⟩ := FakeField.mk.inj hSame
    obtain rfl := hColumnEq other hOther hName
    obtain ⟨other, hOther, hSame⟩ := List.mem_map.mp hRules
    obtain ⟨hName, hValidationEq, hSanitizationEq⟩ := ColumnRules.mk.inj hSame
    obtain rfl := hColumnEq other hOther hName
    rw [Column.record, hCallEq, hFakeEq, hValidationEq, hSanitizationEq]
  · rintro rfl
    exact {
      migration := ⟨_, List.mem_map_of_mem hValue, rfl, List.mem_map_of_mem hColumn⟩
      factory := ⟨_, List.mem_map_of_mem hTable, rfl, List.mem_map_of_mem hColumn⟩
      model := ⟨_, List.mem_map_of_mem hTable, rfl, List.mem_map_of_mem hColumn⟩ }

variable {σ : Type} {separator : String} {policy : Policy σ} {document : Document} {state final : σ}
  {artifacts : Artifacts}

/-- **The records on a column agree**, for every column of every table with a model. Its rules for
fake data, for checking and for cleaning are absent if and only if the call that creates it opens
with `increments` or goes on with `references` and `on`, and of the others, exactly those are empty
for which the call opens with `specificType`. What stands in quotes has no part in it. -/
theorem convert_columnRecordsAgree
    (h : (convert separator policy document).result state = (.ok artifacts, final))
    {table : Table} (hTable : table ∈ artifacts.schema.entityTables)
    {column : Column} (hColumn : column ∈ table.columns.values) :
    (∃ record, artifacts.Lists table.name column.name record) ∧
      ∀ record, artifacts.Lists table.name column.name record → record.Agrees := by
  obtain ⟨schema, hResolve, rfl⟩ := convert_eq_ok_iff.mp h
  have hEntries := resolve_transcribes hResolve
  have hTables : ∀ entry ∈ schema.tables.entries,
      entry.1 = entry.2.name ∧ ∃ decl, entry.2.Transcribes separator document decl := by
    intro entry hEntry
    obtain ⟨decl, -, hName, hDecl⟩ := exists_of_forall₂_of_mem_right hEntries hEntry
    exact ⟨hName.trans hDecl.name.symm, decl, hDecl⟩
  obtain ⟨entry, hEntry, rfl⟩ := List.mem_map.mp (List.mem_filter.mp hTable).1
  obtain ⟨-, decl, hDecl⟩ := hTables entry hEntry
  have hLists := Artifacts.lists_ofSchema_iff hTable hColumn (fun other hOther =>
    (hTables other hOther).1) hDecl.entries_name
  refine ⟨⟨column.record, (hLists _).mpr rfl⟩, fun record hRecord => ?_⟩
  obtain ⟨columns, -, hColumns⟩ := hDecl.columns
  obtain ⟨entry, hEntry, rfl⟩ := List.mem_map.mp hColumn
  obtain ⟨declared, -, -, hDeclared⟩ := exists_of_forall₂_of_mem_right hColumns hEntry
  rw [(hLists record).mp hRecord]
  exact Column.agrees_record hDeclared.canonicalType_eq

/-- A text column with a default and a comment that look like calls. -/
def diary : Document where
  tables := [⟨"D", "diary", false, false⟩]
  columns := .ofList [
    ("D", [{ id := "D1", name := "entry", type := some "char", length := some 9,
             defaultValue := some "').increments('id",
             comment := some "').references('id').on('diary" }])]
  relations := []

/-- The column of `diary` has all its rules, since nothing in its quotes refers away. -/
theorem convert_columnRecordsAgree_diary :
    ∃ artifacts final,
      (convert "_" (.suffix : Policy Unit) diary).result () = (.ok artifacts, final) ∧
      ∃ record, artifacts.Lists "diary" "entry" record ∧ record.Agrees ∧
        record.call =
          "table.string('entry', 9).defaultTo('\\').increments(\\'id').notNullable()" ++
            ".comment('\\').references(\\'id\\').on(\\'diary')" ∧
        ¬ RefersAway record.call ∧ record.fake ≠ some "" := by
  have hRecords : ((convert "_" (.suffix : Policy Unit) diary).result ()).1.toOption.map
      (fun artifacts => (artifacts.schema.entityTables.map Table.outline,
        artifacts.migrations.map Migration.columns, artifacts.factories.map Factory.columns)) =
      some ([("diary", ["entry"])],
        [[⟨"entry", "table.string('entry', 9).defaultTo('\\').increments(\\'id').notNullable()" ++
            ".comment('\\').references(\\'id\\').on(\\'diary')"⟩]],
        [[⟨"entry", some "entry: faker.sentence().substring(0, 9)"⟩]]) := by
    decide +kernel
  obtain ⟨artifacts, hConvert, hAll⟩ := exists_result_of_map hRecords
  obtain ⟨hOutlines, hRest⟩ := Prod.mk.inj hAll
  obtain ⟨hMigrations, hFactories⟩ := Prod.mk.inj hRest
  obtain ⟨table, hTables, hOutline⟩ := List.map_eq_singleton_iff.mp hOutlines
  obtain ⟨hName, hNames⟩ := Prod.mk.inj hOutline
  obtain ⟨column, hColumns, hColumnName⟩ := List.map_eq_singleton_iff.mp hNames
  obtain ⟨⟨record, hLists⟩, hAgree⟩ := convert_columnRecordsAgree hConvert
    (hTables ▸ List.mem_singleton_self table) (hColumns ▸ List.mem_singleton_self column)
  have hAgrees := hAgree record hLists
  rw [hName, hColumnName] at hLists
  obtain ⟨migration, hMigration, -, hCall⟩ := hLists.migration
  obtain ⟨factory, hFactory, -, hFake⟩ := hLists.factory
  have hCalls := List.mem_map_of_mem (f := Migration.columns) hMigration
  have hFakes := List.mem_map_of_mem (f := Factory.columns) hFactory
  rw [hMigrations, List.mem_singleton] at hCalls
  rw [hFactories, List.mem_singleton] at hFakes
  rw [hCalls, List.mem_singleton, ColumnCall.mk.injEq] at hCall
  rw [hFakes, List.mem_singleton, FakeField.mk.injEq] at hFake
  have hPresent : record.fake ≠ none := by simp [hFake.2]
  refine ⟨artifacts, (), hConvert, record, hLists, hAgrees, hCall.2, fun hRefers => ?_, ?_⟩
  · exact hPresent (hAgrees.fake.absent.mpr (Or.inr hRefers))
  · simp [hFake.2]

end SchemaScaffold
