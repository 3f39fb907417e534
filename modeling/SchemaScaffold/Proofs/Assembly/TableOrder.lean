import SchemaScaffold.Proofs.Assembly.Reordering
import SchemaScaffold.Proofs.Relationships.Closure

/-!
# What the order of the tables decides

The search of the second pass takes the tables in order. Which of several ways a relationship over
two others goes may depend on that order, and with it the keys; where a name stands for several
tables, even the table it leads to may.

* `NamesDecide`: the direct composable relationships of one name all lead to the same table.
* `Relationship.SameButWay`: the same relationship, perhaps over two others by another way.
* `resolveWithSuffix_reordered`: what does not depend on the order.
* `order_matters`: what does.
-/

namespace SchemaScaffold

/-! ## Names that decide tables -/

/-- The names of the direct composable relationships, with the tables they lead to. -/
def directTargets (tables : Keyed Table) : List (String × String) :=
  tables.values.flatMap fun table =>
    (table.relationships.entries.filter fun entry => entry.2.isComposable && entry.2.isDirect).map
      fun entry => (entry.1, entry.2.table)

/-- Direct composable relationships of one name lead to one table. -/
def NamesDecide (tables : Keyed Table) : Prop :=
  ∀ a ∈ directTargets tables, ∀ b ∈ directTargets tables, a.1 = b.1 → a.2 = b.2

instance (tables : Keyed Table) : Decidable (NamesDecide tables) :=
  inferInstanceAs (Decidable (∀ a ∈ directTargets tables, ∀ b ∈ directTargets tables,
    a.1 = b.1 → a.2 = b.2))

theorem mem_directTargets_iff {tables : Keyed Table} {name target : String} :
    (name, target) ∈ directTargets tables ↔ ∃ owner r, Owns tables owner name r ∧
      r.isComposable = true ∧ r.isDirect = true ∧ r.table = target := by
  simp only [directTargets, List.mem_flatMap, List.mem_map, List.mem_filter, Bool.and_eq_true,
    Keyed.values, Prod.mk.injEq]
  constructor
  · rintro ⟨table, ⟨⟨owner, _⟩, hTable, rfl⟩, ⟨_, r⟩, ⟨hr, hComposable, hDirect⟩, rfl, rfl⟩
    exact ⟨owner, r, ⟨_, Keyed.get?_eq_some_iff.mpr hTable, Keyed.get?_eq_some_iff.mpr hr⟩,
      hComposable, hDirect, rfl⟩
  · rintro ⟨owner, r, ⟨table, hTable, hr⟩, hComposable, hDirect, rfl⟩
    exact ⟨table, ⟨(owner, table), Keyed.get?_eq_some_iff.mp hTable, rfl⟩, (name, r),
      ⟨Keyed.get?_eq_some_iff.mp hr, hComposable, hDirect⟩, rfl, rfl⟩

/-- On direct relationships, names that decide tables can be read as an assignment. -/
theorem exists_targetsFollow {tables : Keyed Table} (hDirect : AllDirect tables)
    (hDecide : NamesDecide tables) : ∃ target, TargetsFollow target tables := by
  classical
  refine ⟨fun name => if h : ∃ target, (name, target) ∈ directTargets tables then h.choose else "",
    ?_⟩
  intro owner name r hOwns hComposable
  have hMem : (name, r.table) ∈ directTargets tables :=
    mem_directTargets_iff.mpr ⟨owner, r, hOwns, hComposable, hDirect owner name r hOwns, rfl⟩
  have hExists : ∃ target, (name, target) ∈ directTargets tables := ⟨r.table, hMem⟩
  simp only [dif_pos hExists]
  exact hDecide _ hMem _ hExists.choose_spec rfl

/-! ## The same relationships up to the way -/

/-- Two relationships are the same, except that both may go over two others by different ways, and
then their keys may differ too. -/
def Relationship.SameButWay (r r' : Relationship) : Prop :=
  r = r' ∨ ∃ passage passage', r.passage? = some passage ∧ r'.passage? = some passage' ∧
    passage.relatedMethod = passage'.relatedMethod ∧ r.table = r'.table ∧ r.model = r'.model

theorem Relationship.SameButWay.symm {r r' : Relationship} (h : r.SameButWay r') :
    r'.SameButWay r := by
  rcases h with rfl | ⟨passage, passage', hPassage, hPassage', hMethod, hTable, hModel⟩
  · exact Or.inl rfl
  · exact Or.inr ⟨passage', passage, hPassage', hPassage, hMethod.symm, hTable.symm, hModel.symm⟩

/-- Tables own the same direct relationships. -/
def SameDirect (tables tables' : Keyed Table) : Prop :=
  ∀ owner name r, r.isDirect = true → (Owns tables owner name r ↔ Owns tables' owner name r)

/-- Tables own relationships under the same names, and they are the same up to the way. -/
def SameButWays (tables tables' : Keyed Table) : Prop :=
  (∀ owner name r, Owns tables owner name r →
    ∃ r', Owns tables' owner name r' ∧ r.SameButWay r') ∧
  ∀ owner name r', Owns tables' owner name r' → ∃ r, Owns tables owner name r ∧ r.SameButWay r'

namespace Staged

variable {separator : String} {document document' : Document} {registry registry' : Registry}
  {tables tables' direct direct' final final' : Keyed Table} {edges edges' : List Edge}

/-- The direct relationships at the end are those of the first pass. -/
theorem owns_direct_iff (h : Staged separator document registry tables edges direct final)
    {owner name : String} {r : Relationship} (hDirect : r.isDirect = true) :
    Owns final owner name r ↔ Owns direct owner name r := by
  obtain ⟨additions, hRun⟩ := h.run
  constructor
  · intro hOwns
    rcases hRun.owns_iff.mp hOwns with hOld | hNew
    · exact hOld
    · have hPassage := hRun.isSome_passage? _ hNew
      rw [Relationship.passage?_of_isDirect hDirect] at hPassage
      cases hPassage
  · exact hRun.mono

theorem namesDecide_direct (h : Staged separator document registry tables edges direct final)
    (hDecide : NamesDecide final) : NamesDecide direct := by
  have hMono : ∀ entry ∈ directTargets direct, entry ∈ directTargets final := by
    rintro ⟨name, target⟩ hEntry
    obtain ⟨owner, r, hOwns, hComposable, hDirect, hTarget⟩ := mem_directTargets_iff.mp hEntry
    exact mem_directTargets_iff.mpr
      ⟨owner, r, (h.owns_direct_iff hDirect).mpr hOwns, hComposable, hDirect, hTarget⟩
  intro a ha b hb
  exact hDecide a (hMono a ha) b (hMono b hb)

theorem sameDirect (h : Staged separator document registry tables edges direct final)
    (h' : Staged separator document' registry' tables' edges' direct' final')
    (hAlike : Alike direct direct') : SameDirect final final' := by
  intro owner name r hDirect
  rw [h.owns_direct_iff hDirect, h'.owns_direct_iff hDirect, owns_congr hAlike]

/-- From direct relationships that are alike, where names decide tables, a relationship at the one
end has its like at the other. -/
theorem exists_sameButWay (h : Staged separator document registry tables edges direct final)
    (h' : Staged separator document' registry' tables' edges' direct' final')
    (hStart : Alike tables tables') (hAlike : Alike direct direct') {target : String → String}
    (hFollow : TargetsFollow target direct) {owner name : String} {r : Relationship}
    (hOwns : Owns final owner name r) : ∃ r', Owns final' owner name r' ∧ r.SameButWay r' := by
  obtain ⟨additions, hRun⟩ := h.run
  obtain ⟨additions', hRun'⟩ := h'.run
  by_cases hDirect : r.isDirect = true
  · exact ⟨r, (h.sameDirect h' hAlike owner name r hDirect).mp hOwns, Or.inl rfl⟩
  · obtain ⟨passage, hPassage⟩ := Relationship.exists_passage? hDirect
    have hComposable := Relationship.isComposable_of_passage? hPassage
    have hNames := hRun.composableNames_eq (fun _ _ _ => owns_congr hAlike) hRun' hFollow
    have hName : name ∈ composableNames final owner := ⟨r, hOwns, hComposable⟩
    rw [hNames] at hName
    obtain ⟨r', hOwns', hComposable'⟩ := hName
    -- a direct relationship at the other end would be there at this end too
    have hDirect' : r'.isDirect ≠ true := fun hEq =>
      hDirect (hOwns.unique ((h.sameDirect h' hAlike owner name r' hEq).mpr hOwns') ▸ hEq)
    obtain ⟨passage', hPassage'⟩ := Relationship.exists_passage? hDirect'
    obtain ⟨_, _, hChained⟩ := h.final_soundThrough owner name r passage hOwns hPassage
    obtain ⟨_, _, hChained'⟩ := h'.final_soundThrough owner name r' passage' hOwns' hPassage'
    have hFollow' := hFollow.congr fun _ _ _ => owns_congr hAlike
    have hTable : r.table = r'.table :=
      (hRun.targetsFollow hFollow owner name r hOwns hComposable).trans
        (hRun'.targetsFollow hFollow' owner name r' hOwns' hComposable').symm
    obtain ⟨table, hGet, hModel⟩ := h.final_leadsInto owner name r hOwns
    obtain ⟨table', hGet', hModel'⟩ := h'.final_leadsInto owner name r' hOwns'
    rw [hStart, hTable, hGet', Option.some.injEq] at hGet
    exact ⟨r', hOwns', Or.inr ⟨passage, passage', hPassage, hPassage',
      hChained.relatedMethod_eq.trans hChained'.relatedMethod_eq.symm, hTable,
      by rw [← hModel, ← hGet, hModel']⟩⟩

theorem sameButWays (h : Staged separator document registry tables edges direct final)
    (h' : Staged separator document' registry' tables' edges' direct' final')
    (hStart : Alike tables tables') (hAlike : Alike direct direct') (hDecide : NamesDecide final) :
    SameButWays final final' := by
  obtain ⟨target, hFollow⟩ := exists_targetsFollow h.allDirect (h.namesDecide_direct hDecide)
  have hFollow' := hFollow.congr fun _ _ _ => owns_congr hAlike
  constructor
  · intro owner name r hOwns
    exact h.exists_sameButWay h' hStart hAlike hFollow hOwns
  · intro owner name r' hOwns'
    obtain ⟨r, hOwns, hSame⟩ := h'.exists_sameButWay h hStart.symm hAlike.symm hFollow' hOwns'
    exact ⟨r, hOwns, hSame.symm⟩

end Staged

/-! ## What the order decides, and what not -/

/-- **The order of the tables decides only ways.** Valid documents that differ in the order of their
tables are both built, or on both some name cannot be formed. Their tables own the same direct
relationships, and where the names of these decide tables, all relationships are the same up to the
two others that a relationship goes over, and the keys that come with them. -/
theorem resolveWithSuffix_reordered {document document' : Document}
    (hSame : document.SameButTableOrder document') (hValid : document.IsValid)
    (separator : String) :
    (∃ schema schema', resolveWithSuffix document separator = .ok schema ∧
      resolveWithSuffix document' separator = .ok schema' ∧
      SameDirect schema.tables schema'.tables ∧
      (NamesDecide schema.tables → SameButWays schema.tables schema'.tables)) ∨
    ∃ table table', resolveWithSuffix document separator = .error (.unnameable table) ∧
      resolveWithSuffix document' separator = .error (.unnameable table') := by
  rcases resolve_reordered hSame hValid separator () with
    ⟨schema, schema', registry, registry', tables, tables', edges, direct, direct', hBuild, hBuild',
      hStaged, hStaged', hAlike, hDirectAlike⟩ | ⟨table, table', hStop, hStop'⟩
  · refine Or.inl ⟨schema, schema', congrArg Prod.fst hBuild, congrArg Prod.fst hBuild', ?_, ?_⟩
    · exact hStaged.sameDirect hStaged' hDirectAlike
    · exact hStaged.sameButWays hStaged' hAlike hDirectAlike
  · exact Or.inr ⟨table, table', congrArg Prod.fst hStop, congrArg Prod.fst hStop'⟩

/-! ## Two documents -/

/-- The declaration of a table without flags. -/
def plainTable (id name : String) : TableDecl := { id := id, name := name }

/-- The declaration of a column with nothing but a name. -/
def plainColumn (id name : String) : ColumnDecl := { id := id, name := name }

/-- The relation from the column of one table to that of another, by the ids of both. -/
def relationBetween (source sourceColumn target targetColumn : String) : RelationDecl :=
  ⟨⟨source, sourceColumn⟩, ⟨target, targetColumn⟩⟩

/-- Two ways lead from `staff` to `tuna`: one over `news` and `rice`, and one, with other keys, over
`music`. -/
def twoWays (first second : TableDecl) : Document where
  tables := [first, second, plainTable "B" "music", plainTable "C" "rice", plainTable "N" "tuna"]
  columns := .ofList [
    ("T", [plainColumn "T1" "id", plainColumn "T2" "code"]),
    ("A", [plainColumn "A1" "id", plainColumn "A2" "staff_id"]),
    ("B", [plainColumn "B1" "id", plainColumn "B2" "staff_code"]),
    ("C", [plainColumn "C1" "id", plainColumn "C2" "news_id"]),
    ("N", [plainColumn "N1" "music_id", plainColumn "N2" "rice_id"])]
  relations := [relationBetween "A" "A2" "T" "T1", relationBetween "B" "B2" "T" "T2",
    relationBetween "C" "C2" "A" "A1", relationBetween "N" "N1" "B" "B1",
    relationBetween "N" "N2" "C" "C1"]

/-- The tables `Mail` and `mail` share their relationship name, and so do `Rice` and `rice`, `Tuna`
and `tuna`. From `staff` one way leads to `Mail`, and another one to `mail`. -/
def homonyms (first second : TableDecl) : Document where
  tables := [first, second, plainTable "S" "Mail", plainTable "U" "news", plainTable "B" "music",
    plainTable "C" "tuna", plainTable "P" "mail", plainTable "X" "Rice", plainTable "Y" "Tuna"]
  columns := .ofList [
    ("T", [plainColumn "T1" "id", plainColumn "T2" "news_id"]),
    ("A", [plainColumn "A1" "id", plainColumn "A2" "staff_id"]),
    ("S", [plainColumn "S1" "id", plainColumn "S2" "music_id"]),
    ("U", [plainColumn "U1" "id", plainColumn "U2" "mail_id"]),
    ("B", [plainColumn "B1" "id", plainColumn "B2" "staff_id"]),
    ("C", [plainColumn "C1" "id", plainColumn "C2" "rice_id"]),
    ("P", [plainColumn "P1" "tuna_id"]),
    ("X", [plainColumn "X1" "mail_id"]),
    ("Y", [plainColumn "Y1" "mail_id"])]
  relations := [relationBetween "U" "U2" "S" "S1", relationBetween "T" "T2" "U" "U1",
    relationBetween "A" "A2" "T" "T1", relationBetween "B" "B2" "T" "T1",
    relationBetween "C" "C2" "A" "A1", relationBetween "P" "P1" "C" "C1",
    relationBetween "S" "S2" "B" "B1", relationBetween "X" "X1" "S" "S1",
    relationBetween "Y" "Y1" "S" "S1"]

/-- The table both documents look from. -/
def staffTable : TableDecl := plainTable "T" "staff"

/-- The next table on one of the ways from `staff` to `tuna`. -/
def newsTable : TableDecl := plainTable "A" "news"

/-- The next table on the way from `staff` to `mail`. -/
def riceTable : TableDecl := plainTable "A" "rice"

theorem twoWays_isValid : (twoWays staffTable newsTable).IsValid where
  tableNames := by decide
  tableIds := by decide
  columnLists := fun _ => Iff.rfl
  columnNames := by decide
  columnIds := by decide
  endpoints := by decide

theorem homonyms_isValid : (homonyms staffTable riceTable).IsValid where
  tableNames := by decide
  tableIds := by decide
  columnLists := fun _ => Iff.rfl
  columnNames := by decide
  columnIds := by decide
  endpoints := by decide

theorem twoWays_swap (first second : TableDecl) :
    (twoWays first second).SameButTableOrder (twoWays second first) :=
  ⟨List.Perm.swap _ _ _, rfl, rfl⟩

theorem homonyms_swap (first second : TableDecl) :
    (homonyms first second).SameButTableOrder (homonyms second first) :=
  ⟨List.Perm.swap _ _ _, rfl, rfl⟩

/-- The relationship from `staff` to `tuna`, over the given one. -/
def staffToTuna (through throughModel primaryKey foreignKey : String) : Relationship where
  kind := .hasManyThrough ⟨through, throughModel, "tuna"⟩
  table := "tuna"
  model := "Tuna"
  primaryKey := primaryKey
  foreignKey := foreignKey

theorem twoWays_staffFirst :
    (resolveWithSuffix (twoWays staffTable newsTable) defaultSeparator).toOption.map
      (fun schema => (decide (NamesDecide schema.tables),
        relationship? schema.tables "staff" "tuna")) =
      some (true, some (staffToTuna "music" "Music" "code" "staff_code")) := by
  decide +kernel

theorem twoWays_newsFirst :
    (resolveWithSuffix (twoWays newsTable staffTable) defaultSeparator).toOption.map
      (fun schema => relationship? schema.tables "staff" "tuna") =
      some (some (staffToTuna "news" "News" "id" "staff_id")) := by
  decide +kernel

theorem homonyms_staffFirst :
    (resolveWithSuffix (homonyms staffTable riceTable) defaultSeparator).toOption.map
      (fun schema => ((relationship? schema.tables "staff" "mail").map Relationship.table,
        (relationship? schema.tables "Mail" "mail").map Relationship.table)) =
      some (some "Mail", none) := by
  decide +kernel

theorem homonyms_riceFirst :
    (resolveWithSuffix (homonyms riceTable staffTable) defaultSeparator).toOption.map
      (fun schema => ((relationship? schema.tables "staff" "mail").map Relationship.table,
        (relationship? schema.tables "Mail" "mail").map Relationship.table)) =
      some (some "mail", some "mail") := by
  decide +kernel

/-- With the tables of `twoWays` in another order, all relationships are the same up to the way. -/
theorem resolveWithSuffix_reordered_twoWays :
    (twoWays staffTable newsTable).SameButTableOrder (twoWays newsTable staffTable) ∧
    (twoWays staffTable newsTable).IsValid ∧
    ∃ schema schema',
      resolveWithSuffix (twoWays staffTable newsTable) defaultSeparator = .ok schema ∧
      resolveWithSuffix (twoWays newsTable staffTable) defaultSeparator = .ok schema' ∧
      NamesDecide schema.tables ∧ SameDirect schema.tables schema'.tables ∧
      SameButWays schema.tables schema'.tables := by
  refine ⟨twoWays_swap _ _, twoWays_isValid, ?_⟩
  obtain ⟨built, hBuilt, hParts⟩ := exists_ok_of_map twoWays_staffFirst
  simp only [Prod.mk.injEq, decide_eq_true_eq] at hParts
  rcases resolveWithSuffix_reordered (twoWays_swap staffTable newsTable) twoWays_isValid
      defaultSeparator with
    ⟨schema, schema', hSchema, hSchema', hDirect, hWays⟩ | ⟨table, table', hStop, -⟩
  · have hEq : built = schema := Except.ok.inj (hBuilt.symm.trans hSchema)
    subst hEq
    exact ⟨built, schema', hSchema, hSchema', hParts.1, hDirect, hWays hParts.1⟩
  · rw [hBuilt] at hStop
    cases hStop

/-- **The order of the tables matters.** It decides over which relationships another one goes, and
with which keys, also where names decide tables. Where they do not, it decides which table a
relationship leads to, and whether a table owns a relationship of a name at all. -/
theorem order_matters :
    ((twoWays staffTable newsTable).IsValid ∧
      (twoWays staffTable newsTable).SameButTableOrder (twoWays newsTable staffTable) ∧
      ∃ schema schema',
        resolveWithSuffix (twoWays staffTable newsTable) defaultSeparator = .ok schema ∧
        resolveWithSuffix (twoWays newsTable staffTable) defaultSeparator = .ok schema' ∧
        NamesDecide schema.tables ∧
        Owns schema.tables "staff" "tuna" (staffToTuna "music" "Music" "code" "staff_code") ∧
        Owns schema'.tables "staff" "tuna" (staffToTuna "news" "News" "id" "staff_id")) ∧
    (homonyms staffTable riceTable).IsValid ∧
      (homonyms staffTable riceTable).SameButTableOrder (homonyms riceTable staffTable) ∧
      ∃ schema schema' r r' extra,
        resolveWithSuffix (homonyms staffTable riceTable) defaultSeparator = .ok schema ∧
        resolveWithSuffix (homonyms riceTable staffTable) defaultSeparator = .ok schema' ∧
        (Owns schema.tables "staff" "mail" r ∧ r.table = "Mail") ∧
        (Owns schema'.tables "staff" "mail" r' ∧ r'.table = "mail") ∧
        (∀ r, ¬ Owns schema.tables "Mail" "mail" r) ∧
        Owns schema'.tables "Mail" "mail" extra := by
  constructor
  · obtain ⟨schema, hSchema, hParts⟩ := exists_ok_of_map twoWays_staffFirst
    obtain ⟨schema', hSchema', hTuna'⟩ := exists_ok_of_map twoWays_newsFirst
    simp only [Prod.mk.injEq, decide_eq_true_eq] at hParts
    exact ⟨twoWays_isValid, twoWays_swap _ _, schema, schema', hSchema, hSchema', hParts.1,
      owns_iff_relationship?.mpr hParts.2, owns_iff_relationship?.mpr hTuna'⟩
  · obtain ⟨schema, hSchema, hParts⟩ := exists_ok_of_map homonyms_staffFirst
    obtain ⟨schema', hSchema', hParts'⟩ := exists_ok_of_map homonyms_riceFirst
    simp only [Prod.mk.injEq, Option.map_eq_some_iff, Option.map_eq_none_iff,
      ← owns_iff_relationship?] at hParts hParts'
    obtain ⟨⟨r, hOwns, hTable⟩, hNone⟩ := hParts
    obtain ⟨⟨r', hOwns', hTable'⟩, extra, hExtra, -⟩ := hParts'
    refine ⟨homonyms_isValid, homonyms_swap _ _, schema, schema', r, r', extra, hSchema, hSchema',
      ⟨hOwns, hTable⟩, ⟨hOwns', hTable'⟩, ?_, hExtra⟩
    intro other hOther
    rw [owns_iff_relationship?, hNone] at hOther
    cases hOther

end SchemaScaffold
