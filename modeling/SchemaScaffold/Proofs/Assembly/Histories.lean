import Mathlib.Data.List.Induction
import Mathlib.Data.List.Nodup
import SchemaScaffold.Proofs.Assembly.Declarations

/-!
# What a registry knows of its history

A registry is filled by requests, some of which it refuses. What it tells about ids and names can be
read off the requests alone.

* `IsEarliest`: the earliest name that stands for a value.
* `Keyed.offer`, `Keyed.offerAll`: values that are put under names as long as these are free.
* `Keyed.get?_offerAll`, `Keyed.keyOf?_offerAll_eq_some_iff`: a name stands for the first value that
  is offered for it, and the earliest name of a value is found.
* `Keyed.nodup_values_iff`: look-ups in both directions are inverse if and only if values differ.
* `Registry.Request`, `Registry.after`: requests for tables and columns, in any mixture.
* `Registry.Recalls`, `Registry.recalls_after`: what a registry tells after some requests.
-/

namespace SchemaScaffold

/-! ## Names that are taken once -/

/-- In a history of names with values, the earliest name that stands for a value: the name is new
where it comes with the value, and no name stands for the value before. -/
def IsEarliest {α : Type} (history : List (String × α)) (value : α) (key : String) : Prop :=
  ∃ before later, history = before ++ (key, value) :: later ∧ before.lookup key = none ∧
    ∀ other, before.lookup other ≠ some value

theorem isEarliest_concat_iff {α : Type} {history : List (String × α)} {entry : String × α}
    {value : α} {key : String} :
    IsEarliest (history ++ [entry]) value key ↔ IsEarliest history value key ∨
      entry = (key, value) ∧ history.lookup key = none ∧
        ∀ other, history.lookup other ≠ some value := by
  constructor
  · rintro ⟨before, later, hSplit, hFree, hFirst⟩
    rcases List.eq_nil_or_concat later with rfl | ⟨front, last, rfl⟩
    · obtain ⟨rfl, hLast⟩ := List.append_inj' hSplit rfl
      exact .inr ⟨(List.cons.inj hLast).1, hFree, hFirst⟩
    · rw [List.concat_eq_append, ← List.cons_append, ← List.append_assoc] at hSplit
      obtain ⟨rfl, -⟩ := List.append_inj' hSplit rfl
      exact .inl ⟨before, front, rfl, hFree, hFirst⟩
  · rintro (⟨before, later, rfl, hFree, hFirst⟩ | ⟨rfl, hFree, hFirst⟩)
    · exact ⟨before, later ++ [entry], by rw [List.append_assoc, List.cons_append], hFree, hFirst⟩
    · exact ⟨history, [], rfl, hFree, hFirst⟩

namespace Keyed

variable {α : Type} {m : Keyed α} {key : String} {value : α}

/-- Puts a value under a name, unless the name is taken; the answer says whether it was free. -/
def offer (m : Keyed α) (key : String) (value : α) : Bool × Keyed α :=
  if m.contains key then (false, m) else (true, m.insert key value)

/-- Puts values under names, each unless the name is taken. -/
def offerAll (m : Keyed α) (history : List (String × α)) : Keyed α :=
  history.foldl (fun m entry => (m.offer entry.1 entry.2).2) m

theorem offerAll_cons (m : Keyed α) (entry : String × α) (rest : List (String × α)) :
    m.offerAll (entry :: rest) = (m.offer entry.1 entry.2).2.offerAll rest := rfl

theorem offerAll_concat (m : Keyed α) (history : List (String × α)) (entry : String × α) :
    m.offerAll (history ++ [entry]) = ((m.offerAll history).offer entry.1 entry.2).2 := by
  rw [offerAll, List.foldl_append]
  rfl

theorem offer_of_get?_eq_none (h : m.get? key = none) (value : α) :
    m.offer key value = (true, m.insert key value) := by
  rw [offer, contains_eq_false_iff.mpr h, if_neg Bool.false_ne_true]

theorem offer_of_get?_eq_some {old : α} (h : m.get? key = some old) (value : α) :
    m.offer key value = (false, m) := by
  rw [offer, contains_eq_isSome, h, Option.isSome_some, if_pos rfl]

theorem offer_fst_eq_true_iff : (m.offer key value).1 = true ↔ m.get? key = none := by
  cases h : m.get? key with
  | none => simp [offer_of_get?_eq_none h]
  | some old => simp [offer_of_get?_eq_some h]

/-- A value that is refused changes nothing. -/
theorem offer_snd_of_refused (h : (m.offer key value).1 = false) : (m.offer key value).2 = m := by
  cases hGet : m.get? key with
  | none => simp [offer_of_get?_eq_none hGet] at h
  | some old => rw [offer_of_get?_eq_some hGet]

theorem get?_offer (m : Keyed α) (key other : String) (value : α) :
    (m.offer key value).2.get? other = (m.get? other).or (List.lookup other [(key, value)]) := by
  by_cases hSame : other = key
  · subst hSame
    rw [List.lookup_cons_self]
    cases h : m.get? other with
    | none => rw [offer_of_get?_eq_none h, get?_insert, if_pos rfl, Option.none_or]
    | some old => rw [offer_of_get?_eq_some h, h, Option.some_or]
  · have hOther : List.lookup other [(key, value)] = none := by
      rw [List.lookup_cons, beq_eq_false_iff_ne.mpr hSame]
      rfl
    rw [hOther, Option.or_none]
    cases h : m.get? key with
    | none => rw [offer_of_get?_eq_none h, get?_insert, if_neg hSame]
    | some old => rw [offer_of_get?_eq_some h]

/-- A name stands for the first value that is offered for it. -/
theorem get?_offerAll (m : Keyed α) (history : List (String × α)) (key : String) :
    (m.offerAll history).get? key = (m.get? key).or (history.lookup key) := by
  induction history generalizing m with
  | nil => rw [List.lookup_nil, Option.or_none]; rfl
  | cons entry rest ih =>
    have hSplit : ([entry] ++ rest).lookup key =
        (List.lookup key [entry]).or (rest.lookup key) := List.lookup_append
    rw [List.singleton_append] at hSplit
    rw [offerAll_cons, ih, get?_offer, hSplit, Option.or_assoc]

theorem get?_offerAll_empty (history : List (String × α)) (key : String) :
    (empty.offerAll history).get? key = history.lookup key := by
  rw [get?_offerAll, get?_empty, Option.none_or]

/-- Names that differ are all free. -/
theorem entries_offerAll {history : List (String × α)}
    (h : (m.keys ++ history.map Prod.fst).Nodup) :
    (m.offerAll history).entries = m.entries ++ history := by
  induction history generalizing m with
  | nil => rw [List.append_nil]; rfl
  | cons entry rest ih =>
    have hNew : entry.1 ∉ m.keys := not_mem_of_nodup_append h
    have hFree : m.get? entry.1 = none :=
      contains_eq_false_iff.mp (contains_eq_false_iff_not_mem.mpr hNew)
    rw [offerAll_cons, offer_of_get?_eq_none hFree, ih, entries_insert_of_not_mem hNew,
      List.append_assoc]
    · rfl
    · rw [keys_insert_of_not_mem hNew, List.append_assoc]
      exact h

/-- A map arises from its own entries. -/
theorem offerAll_empty_entries (m : Keyed α) : empty.offerAll m.entries = m :=
  Keyed.ext (entries_offerAll (m := empty) m.nodup_keys)

/-! ## Look-ups by value -/

variable [DecidableEq α]

/-- The earliest name of a value. -/
def keyOf? (m : Keyed α) (value : α) : Option String :=
  (m.entries.find? fun entry => entry.2 = value).map Prod.fst

theorem get?_of_keyOf? (h : m.keyOf? value = some key) : m.get? key = some value := by
  obtain ⟨entry, hFind, rfl⟩ := Option.map_eq_some_iff.mp h
  have hValue : entry.2 = value := by simpa using List.find?_some hFind
  rw [get?_eq_some_iff, ← hValue]
  exact List.mem_of_find?_eq_some hFind

theorem keyOf?_eq_none_iff : m.keyOf? value = none ↔ ∀ key, m.get? key ≠ some value := by
  simp only [keyOf?, Option.map_eq_none_iff, List.find?_eq_none, decide_eq_true_eq, ne_eq,
    get?_eq_some_iff]
  constructor
  · intro h key hEntry
    exact h _ hEntry rfl
  · rintro h ⟨key, _⟩ hEntry rfl
    exact h key hEntry

theorem keyOf?_offer (m : Keyed α) (key : String) (value other : α) :
    (m.offer key value).2.keyOf? other =
      (m.keyOf? other).or (if m.get? key = none ∧ value = other then some key else none) := by
  cases h : m.get? key with
  | some old => simp [offer_of_get?_eq_some h]
  | none =>
    have hNew : m.contains key = false := contains_eq_false_iff.mpr h
    rw [offer_of_get?_eq_none h, keyOf?, entries_insert_of_not_contains hNew, List.find?_append,
      Option.map_or, ← keyOf?]
    by_cases hValue : value = other <;> simp [hValue]

/-- The earliest name of a value is found. -/
theorem keyOf?_offerAll_eq_some_iff {history : List (String × α)} :
    (empty.offerAll history).keyOf? value = some key ↔ IsEarliest history value key := by
  induction history using List.reverseRecOn with
  | nil => simp [offerAll, keyOf?, IsEarliest]
  | append_singleton history entry ih =>
    have hNone : (empty.offerAll history).keyOf? value = none ↔
        ∀ other, history.lookup other ≠ some value := by
      simp only [keyOf?_eq_none_iff, get?_offerAll_empty]
    rw [offerAll_concat, keyOf?_offer, get?_offerAll_empty, Option.or_eq_some_iff, ih, hNone,
      isEarliest_concat_iff]
    refine or_congr_right ⟨?_, ?_⟩
    · rintro ⟨hFirst, hSome⟩
      obtain ⟨⟨hFree, rfl⟩, hKey⟩ := Option.ite_none_right_eq_some.mp hSome
      obtain rfl := Option.some.inj hKey
      exact ⟨rfl, hFree, hFirst⟩
    · rintro ⟨rfl, hFree, hFirst⟩
      exact ⟨hFirst, Option.ite_none_right_eq_some.mpr ⟨⟨hFree, rfl⟩, rfl⟩⟩

/-- Look-ups in both directions are inverse to each other if and only if no value has two names. -/
theorem nodup_values_iff (m : Keyed α) :
    m.values.Nodup ↔ ∀ key value, m.get? key = some value ↔ m.keyOf? value = some key := by
  constructor
  · intro hNodup key value
    refine ⟨fun hGet => ?_, get?_of_keyOf?⟩
    have hFind := find?_of_nodup_map Prod.snd hNodup (get?_eq_some_iff.mp hGet)
    rw [keyOf?, hFind, Option.map_some]
  · intro hInverse
    refine List.Nodup.map_on ?_ (List.Nodup.of_map Prod.fst m.nodup_keys)
    rintro ⟨key, value⟩ hEntry ⟨key', value'⟩ hEntry' hValue
    obtain rfl : value = value' := hValue
    have hKey := (hInverse key value).mp (get?_eq_some_iff.mpr hEntry)
    have hKey' := (hInverse key' value).mp (get?_eq_some_iff.mpr hEntry')
    rw [Option.some.inj (hKey.symm.trans hKey')]

end Keyed

/-! ## Requests -/

namespace Registry

/-- A request to register a table, or a column of a table, under an id. -/
inductive Request where
  | table (id name : String)
  | column (id table name : String)
  deriving Repr, DecidableEq

/-- Two requests are for the same id. The ids of tables and those of columns are kept apart. -/
def Request.SameId : Request → Request → Prop
  | .table id _, .table id' _ => id = id'
  | .column id _ _, .column id' _ _ => id = id'
  | _, _ => False

/-- What a request registers as a table: its id and its name. -/
def Request.table? : Request → Option (String × String)
  | .table id name => some (id, name)
  | .column _ _ _ => none

/-- What a request registers as a column: its id, and its table with its name. -/
def Request.column? : Request → Option (String × ColumnEntry)
  | .table _ _ => none
  | .column id owner name => some (id, ⟨owner, name⟩)

/-- The ids and names that are asked for as tables, in order. -/
def tablesIn (requests : List Request) : List (String × String) :=
  requests.filterMap Request.table?

/-- The ids, tables and names that are asked for as columns, in order. -/
def columnsIn (requests : List Request) : List (String × ColumnEntry) :=
  requests.filterMap Request.column?

/-- The answer to a request, and the registry after it. -/
def perform (registry : Registry) : Request → Bool × Registry
  | .table id name => registry.addTable id name
  | .column id table name => registry.addColumn id table name

/-- The registry after some requests. -/
def after (registry : Registry) (requests : List Request) : Registry :=
  requests.foldl (fun registry request => (registry.perform request).2) registry

/-- The answers to some requests. -/
def answers (registry : Registry) : List Request → List Bool
  | [] => []
  | request :: rest => (registry.perform request).1 :: (registry.perform request).2.answers rest

variable {registry : Registry} {requests : List Request}

theorem addTable_eq (registry : Registry) (id name : String) :
    registry.addTable id name =
      ((registry.tables.offer id name).1,
        { registry with tables := (registry.tables.offer id name).2 }) := by
  unfold addTable Keyed.offer
  split <;> rfl

theorem addColumn_eq (registry : Registry) (id table name : String) :
    registry.addColumn id table name =
      ((registry.columns.offer id ⟨table, name⟩).1,
        { registry with columns := (registry.columns.offer id ⟨table, name⟩).2 }) := by
  unfold addColumn Keyed.offer
  split <;> rfl

/-- A request that is refused changes nothing. -/
theorem perform_snd_of_refused {request : Request} (h : (registry.perform request).1 = false) :
    (registry.perform request).2 = registry := by
  cases request with
  | table id name =>
    rw [perform, addTable_eq] at h ⊢
    simp only [Keyed.offer_snd_of_refused h]
  | column id table name =>
    rw [perform, addColumn_eq] at h ⊢
    simp only [Keyed.offer_snd_of_refused h]

theorem tables_perform (registry : Registry) (request : Request) :
    (registry.perform request).2.tables = registry.tables.offerAll request.table?.toList := by
  cases request with
  | table id name => rw [perform, addTable_eq]; rfl
  | column id table name => rw [perform, addColumn_eq]; rfl

theorem columns_perform (registry : Registry) (request : Request) :
    (registry.perform request).2.columns = registry.columns.offerAll request.column?.toList := by
  cases request with
  | table id name => rw [perform, addTable_eq]; rfl
  | column id table name => rw [perform, addColumn_eq]; rfl

/-- A part of the registry to which each request offers something is offered all of it in turn. -/
theorem part_after {α : Type} {part : Registry → Keyed α} {kind : Request → Option (String × α)}
    (hStep : ∀ registry request,
      part (registry.perform request).2 = (part registry).offerAll (kind request).toList)
    (registry : Registry) (requests : List Request) :
    part (registry.after requests) = (part registry).offerAll (requests.filterMap kind) := by
  induction requests generalizing registry with
  | nil => rfl
  | cons request rest ih =>
    rw [after, List.foldl_cons, ← after, ih, hStep]
    cases hKind : kind request with
    | none => rw [List.filterMap_cons_none hKind]; rfl
    | some entry => rw [List.filterMap_cons_some hKind]; rfl

/-- The tables depend on the requests for tables only. -/
theorem tables_after (registry : Registry) (requests : List Request) :
    (registry.after requests).tables = registry.tables.offerAll (tablesIn requests) :=
  part_after tables_perform registry requests

/-- The columns depend on the requests for columns only. -/
theorem columns_after (registry : Registry) (requests : List Request) :
    (registry.after requests).columns = registry.columns.offerAll (columnsIn requests) :=
  part_after columns_perform registry requests

/-- The registry whose entries are what the requests are for is the one after these requests. -/
theorem eq_after_of_entries (hTables : registry.tables.entries = tablesIn requests)
    (hColumns : registry.columns.entries = columnsIn requests) :
    registry = Registry.empty.after requests := by
  have hAfterTables : (Registry.empty.after requests).tables = registry.tables := by
    rw [tables_after, ← hTables]
    exact Keyed.offerAll_empty_entries registry.tables
  have hAfterColumns : (Registry.empty.after requests).columns = registry.columns := by
    rw [columns_after, ← hColumns]
    exact Keyed.offerAll_empty_entries registry.columns
  calc registry
      = ⟨registry.tables, registry.columns⟩ := rfl
    _ = ⟨(Registry.empty.after requests).tables, (Registry.empty.after requests).columns⟩ := by
        rw [hAfterTables, hAfterColumns]

/-! ## What a registry tells -/

/-- No two tables have the same name, and no two columns the same name in the same table. -/
structure NamesDiffer (registry : Registry) : Prop where
  tables : registry.tables.values.Nodup
  columns : registry.columns.values.Nodup

/-- Look-ups of names and look-ups of ids are inverse to each other: they lead from the registered
ids to the registered names, and back, one to one. -/
structure IsInvertible (registry : Registry) : Prop where
  tables : ∀ id name, registry.nameOfTable? id = some name ↔ registry.idOfTable? name = some id
  columns : ∀ id table name,
    registry.tableOfColumn? id = some table ∧ registry.nameOfColumn? id = some name ↔
      registry.idOfColumn? name table = some id

theorem idOfColumn?_eq (registry : Registry) (name table : String) :
    registry.idOfColumn? name table = registry.columns.keyOf? ⟨table, name⟩ := by
  have hTest : (fun entry : String × ColumnEntry =>
      decide (entry.2.name = name) && decide (entry.2.table = table)) =
        fun entry => decide (entry.2 = ⟨table, name⟩) := by
    funext ⟨id, table', name'⟩
    rw [Bool.eq_iff_iff]
    simp [and_comm]
  rw [idOfColumn?, hTest]
  rfl

theorem column_get?_eq_some_iff {id table name : String} :
    registry.columns.get? id = some ⟨table, name⟩ ↔
      registry.tableOfColumn? id = some table ∧ registry.nameOfColumn? id = some name := by
  unfold tableOfColumn? nameOfColumn?
  cases registry.columns.get? id with
  | none => simp
  | some entry =>
    obtain ⟨table', name'⟩ := entry
    simp

/-- Names differ if and only if ids and names lead to each other. -/
theorem namesDiffer_iff_isInvertible : registry.NamesDiffer ↔ registry.IsInvertible := by
  constructor
  · intro h
    refine ⟨(Keyed.nodup_values_iff _).mp h.tables, fun id table name => ?_⟩
    rw [← column_get?_eq_some_iff, idOfColumn?_eq]
    exact (Keyed.nodup_values_iff _).mp h.columns id _
  · intro h
    refine ⟨(Keyed.nodup_values_iff _).mpr h.tables, (Keyed.nodup_values_iff _).mpr ?_⟩
    rintro id ⟨table, name⟩
    rw [column_get?_eq_some_iff, ← idOfColumn?_eq]
    exact h.columns id table name

/-- What a registry tells after some requests, read off these requests alone. -/
structure Recalls (registry : Registry) (requests : List Request) : Prop where
  /-- the next request is accepted if and only if its id is new -/
  accepts : ∀ request,
    (registry.perform request).1 = true ↔ ∀ earlier ∈ requests, ¬ earlier.SameId request
  /-- a request that is refused leaves no trace in what comes after it -/
  refuses : ∀ request, (registry.perform request).1 = false → ∀ later,
    registry.answers (request :: later) = false :: registry.answers later ∧
      registry.after (request :: later) = registry.after later
  /-- an id stands for what it was first registered with -/
  nameOfTable?_eq : ∀ id, registry.nameOfTable? id = (tablesIn requests).lookup id
  tableOfColumn?_eq : ∀ id,
    registry.tableOfColumn? id = ((columnsIn requests).lookup id).map ColumnEntry.table
  nameOfColumn?_eq : ∀ id,
    registry.nameOfColumn? id = ((columnsIn requests).lookup id).map ColumnEntry.name
  /-- the id of a name is the earliest one that stands for it -/
  idOfTable?_eq_some_iff : ∀ name id,
    registry.idOfTable? name = some id ↔ IsEarliest (tablesIn requests) name id
  idOfTable?_eq_none_iff : ∀ name,
    registry.idOfTable? name = none ↔ ∀ id, (tablesIn requests).lookup id ≠ some name
  idOfColumn?_eq_some_iff : ∀ name table id, registry.idOfColumn? name table = some id ↔
    IsEarliest (columnsIn requests) ⟨table, name⟩ id
  idOfColumn?_eq_none_iff : ∀ name table, registry.idOfColumn? name table = none ↔
    ∀ id, (columnsIn requests).lookup id ≠ some ⟨table, name⟩
  /-- the id of a name leads back to the name -/
  nameOfTable?_of_idOfTable? : ∀ name id,
    registry.idOfTable? name = some id → registry.nameOfTable? id = some name
  nameOfColumn?_of_idOfColumn? : ∀ name table id, registry.idOfColumn? name table = some id →
    registry.tableOfColumn? id = some table ∧ registry.nameOfColumn? id = some name
  inverse : registry.NamesDiffer ↔ registry.IsInvertible

theorem lookup_filterMap_eq_none_iff {α : Type} {kind : Request → Option (String × α)}
    {id : String} :
    (requests.filterMap kind).lookup id = none ↔
      ∀ earlier ∈ requests, ∀ value, kind earlier ≠ some (id, value) := by
  simp only [List.lookup_eq_none_iff, List.mem_filterMap, bne_iff_ne]
  constructor
  · intro h earlier hEarlier value hKind
    exact h _ ⟨earlier, hEarlier, hKind⟩ rfl
  · rintro h ⟨id', value⟩ ⟨earlier, hEarlier, hKind⟩ rfl
    exact h earlier hEarlier value hKind

theorem Request.not_sameId_table_iff {earlier : Request} {id name : String} :
    ¬ earlier.SameId (.table id name) ↔ ∀ value, earlier.table? ≠ some (id, value) := by
  cases earlier <;> simp [SameId, table?]

theorem Request.not_sameId_column_iff {earlier : Request} {id owner name : String} :
    ¬ earlier.SameId (.column id owner name) ↔ ∀ value, earlier.column? ≠ some (id, value) := by
  cases earlier <;> simp [SameId, column?]

theorem get?_tables_after (requests : List Request) (id : String) :
    (Registry.empty.after requests).tables.get? id = (tablesIn requests).lookup id := by
  rw [tables_after]
  exact Keyed.get?_offerAll_empty _ _

theorem get?_columns_after (requests : List Request) (id : String) :
    (Registry.empty.after requests).columns.get? id = (columnsIn requests).lookup id := by
  rw [columns_after]
  exact Keyed.get?_offerAll_empty _ _

theorem perform_fst_after_iff {request : Request} :
    ((Registry.empty.after requests).perform request).1 = true ↔
      ∀ earlier ∈ requests, ¬ earlier.SameId request := by
  cases request with
  | table id name =>
    rw [perform, addTable_eq, Keyed.offer_fst_eq_true_iff, get?_tables_after, tablesIn,
      lookup_filterMap_eq_none_iff]
    simp only [Request.not_sameId_table_iff]
  | column id table name =>
    rw [perform, addColumn_eq, Keyed.offer_fst_eq_true_iff, get?_columns_after, columnsIn,
      lookup_filterMap_eq_none_iff]
    simp only [Request.not_sameId_column_iff]

/-- After any requests, a registry tells what can be read off them. -/
theorem recalls_after (requests : List Request) :
    (Registry.empty.after requests).Recalls requests where
  accepts _ := perform_fst_after_iff
  refuses request hRefused later := by
    have hSame := perform_snd_of_refused hRefused
    constructor
    · rw [answers, hRefused, hSame]
    · rw [after, List.foldl_cons, hSame]
      rfl
  nameOfTable?_eq := get?_tables_after requests
  tableOfColumn?_eq id := by rw [tableOfColumn?, get?_columns_after]
  nameOfColumn?_eq id := by rw [nameOfColumn?, get?_columns_after]
  idOfTable?_eq_some_iff name id := by
    rw [idOfTable?, tables_after]
    exact Keyed.keyOf?_offerAll_eq_some_iff
  idOfTable?_eq_none_iff name := by
    simp only [← get?_tables_after]
    exact Keyed.keyOf?_eq_none_iff
  idOfColumn?_eq_some_iff name table id := by
    rw [idOfColumn?_eq, columns_after]
    exact Keyed.keyOf?_offerAll_eq_some_iff
  idOfColumn?_eq_none_iff name table := by
    simp only [← get?_columns_after]
    rw [idOfColumn?_eq]
    exact Keyed.keyOf?_eq_none_iff
  nameOfTable?_of_idOfTable? _ _ h := Keyed.get?_of_keyOf? h
  nameOfColumn?_of_idOfColumn? name table id h := by
    rw [idOfColumn?_eq] at h
    exact column_get?_eq_some_iff.mp (Keyed.get?_of_keyOf? h)
  inverse := namesDiffer_iff_isInvertible

-- a name that was refused leads nowhere
example : (Registry.empty.after
    [.table "1" "news", .column "1" "news" "id", .table "1" "tuna", .table "2" "news"]).idOfTable?
      "tuna" = none := by
  decide

end Registry

end SchemaScaffold
