import SchemaScaffold.Proofs.Output.Confinement

/-!
# What is read back after artifacts have been written

* `FileTree.Holds`: each of some records is read back, unless a later one has its place.
* `Recorded`: directories made and files written one after another. Nothing is taken away, and the
  tree holds the files.
* `Recorded.get?_iff`: what stands in the tree afterwards.
* `staged_write`: where all questions are answered with yes and nothing fails, the root is made, the
  migrations are cleared away, and the whole plan is recorded.
* `write_keeps_records`: so migrations and factories are never lost, and of the models with one name
  the last one is kept.
* `write_loses_model`: two tables with one model name do lose a model.
-/

namespace SchemaScaffold

open OutputDirectory

/-! ## Records that are held -/

/-- Each of the records is read back, unless a later one has its place. -/
def FileTree.Holds (tree : FileTree) (working : Location) : List (String × Json) → Prop
  | [] => True
  | entry :: rest =>
    ((∀ later ∈ rest, Path.placeOf working later.1 ≠ Path.placeOf working entry.1) →
      tree.read working entry.1 = .ok (recordText entry.2)) ∧ tree.Holds working rest

namespace FileTree.Holds

variable {tree tree' : FileTree} {working : Location} {records more : List (String × Json)}

/-- What is held stays so while more records are written. -/
theorem append {deeds : List Deed} (h : tree.Holds working records)
    (hTrail : Trail tree deeds tree') (hAdds : ∀ deed ∈ deeds, deed.adds = true)
    (hDeeds : ∀ place text, .record place text ∈ deeds →
      ∃ later ∈ more, Path.placeOf working later.1 = place)
    (hMore : tree'.Holds working more) : tree'.Holds working (records ++ more) := by
  induction records with
  | nil => exact hMore
  | cons entry rest ih =>
    refine ⟨fun hLater => ?_, ih h.2⟩
    obtain ⟨hRest, hNew⟩ := List.forall_mem_append.mp hLater
    refine hTrail.read_eq hAdds (fun text hDeed => ?_) (h.1 hRest)
    obtain ⟨later, hMem, hPlace⟩ := hDeeds _ _ hDeed
    exact hNew later hMem hPlace

theorem read_eq {front back : List (String × Json)} {entry : String × Json}
    (h : tree.Holds working (front ++ entry :: back))
    (hBack : ∀ later ∈ back, Path.placeOf working later.1 ≠ Path.placeOf working entry.1) :
    tree.read working entry.1 = .ok (recordText entry.2) := by
  induction front with
  | nil => exact h.1 hBack
  | cons first front ih => exact ih h.2

/-- Records at pairwise different places are all read back. -/
theorem read_of_nodup (h : tree.Holds working records)
    (hPlaces : (records.map fun entry => Path.placeOf working entry.1).Nodup)
    {entry : String × Json} (hEntry : entry ∈ records) :
    tree.read working entry.1 = .ok (recordText entry.2) := by
  obtain ⟨front, back, rfl⟩ := List.append_of_mem hEntry
  rw [List.map_append, List.map_cons] at hPlaces
  obtain ⟨-, hBack, -⟩ := List.nodup_append.mp hPlaces
  refine h.read_eq fun later hLater hEq => (List.nodup_cons.mp hBack).1 ?_
  exact List.mem_map.mpr ⟨later, hLater, hEq⟩

end FileTree.Holds

/-- Directories have been made and files written, one after another: nothing was taken away, nothing
was made but what the directories' paths lead through, nothing else was written, and the tree holds
the records. -/
structure Recorded (before after : Workspace) (directories : List String)
    (records : List (String × Json)) : Prop where
  working_eq : after.working = before.working
  trail : ∃ deeds, Trail before.tree deeds after.tree ∧ (∀ deed ∈ deeds, deed.adds = true) ∧
    (∀ place, .directory place ∈ deeds →
      ∃ path ∈ directories, Path.LeadsThrough before.working path place) ∧
    ∀ place text, .record place text ∈ deeds →
      ∃ entry ∈ records, Path.placeOf before.working entry.1 = place
  found : ∀ path ∈ directories, after.tree.locate before.working path =
    .found (Path.placeOf before.working path) .directory
  holds : after.tree.Holds before.working records

namespace Recorded

variable {before middle after : Workspace} {directories others : List String}
  {records more : List (String × Json)}

theorem grows (h : Recorded before after directories records) :
    before.tree.Extends after.tree :=
  let ⟨_, hTrail, hAdds, _⟩ := h.trail
  hTrail.grows hAdds

theorem append (h : Recorded before middle directories records)
    (h' : Recorded middle after others more) :
    Recorded before after (directories ++ others) (records ++ more) := by
  obtain ⟨deeds, hTrail, hAdds, hMade, hDeeds⟩ := h.trail
  obtain ⟨deeds', hTrail', hAdds', hMade', hDeeds'⟩ := h'.trail
  have hFound := h'.found
  have hHolds := h'.holds
  rw [h.working_eq] at hMade' hDeeds' hFound hHolds
  refine ⟨h'.working_eq.trans h.working_eq, ⟨deeds ++ deeds', hTrail.append hTrail',
    List.forall_mem_append.mpr ⟨hAdds, hAdds'⟩, fun place hDeed => ?_, fun place text hDeed => ?_⟩,
    List.forall_mem_append.mpr ⟨fun path hPath => ?_, hFound⟩,
    h.holds.append hTrail' hAdds' hDeeds' hHolds⟩
  · rcases List.mem_append.mp hDeed with hOld | hNew
    · obtain ⟨path, hPath, hPlace⟩ := hMade place hOld
      exact ⟨path, List.mem_append_left _ hPath, hPlace⟩
    · obtain ⟨path, hPath, hPlace⟩ := hMade' place hNew
      exact ⟨path, List.mem_append_right _ hPath, hPlace⟩
  · rcases List.mem_append.mp hDeed with hOld | hNew
    · obtain ⟨entry, hEntry, hPlace⟩ := hDeeds place text hOld
      exact ⟨entry, List.mem_append_left _ hEntry, hPlace⟩
    · obtain ⟨entry, hEntry, hPlace⟩ := hDeeds' place text hNew
      exact ⟨entry, List.mem_append_right _ hEntry, hPlace⟩
  · have hThere := h.found path hPath
    exact h'.grows.locate_found (by simp [hThere])
      (h'.grows.directory (FileTree.locate_found hThere).2)

/-- **What stands in the tree once records have been written** at pairwise different places are
their files, the directories that have been made for them, and what stood elsewhere before. -/
theorem get?_iff (h : Recorded before after directories records)
    (hPlaces : (records.map fun record => Path.placeOf before.working record.1).Nodup)
    (place : Location) (entry : FileEntry) :
    after.tree.get? place = some entry ↔
      (∃ record ∈ records, place = Path.placeOf before.working record.1 ∧
        entry = .file (recordText record.2)) ∨
      ((∃ path ∈ directories, Path.LeadsThrough before.working path place) ∧
        entry = .directory) ∨
      ((∀ record ∈ records, place ≠ Path.placeOf before.working record.1) ∧
        before.tree.get? place = some entry) := by
  obtain ⟨deeds, hTrail, hAdds, hMade, hDeeds⟩ := h.trail
  have hHeld : ∀ record ∈ records, after.tree.get? (Path.placeOf before.working record.1) =
      some (.file (recordText record.2)) :=
    fun record hRecord => FileTree.get?_of_read (h.holds.read_of_nodup hPlaces hRecord)
  have hWritten {record : String × Json} (hRecord : record ∈ records)
      (hPlace : place = Path.placeOf before.working record.1)
      (hEntry : after.tree.get? place = some entry) : entry = .file (recordText record.2) := by
    rw [hPlace, hHeld record hRecord] at hEntry
    exact (Option.some.inj hEntry).symm
  constructor
  · intro hEntry
    rcases hTrail.entry_cases hEntry with hBefore | ⟨hDeed, rfl⟩ | ⟨text, hDeed, -⟩
    · by_cases hRecord : ∃ record ∈ records, place = Path.placeOf before.working record.1
      · obtain ⟨record, hMem, hPlace⟩ := hRecord
        exact Or.inl ⟨record, hMem, hPlace, hWritten hMem hPlace hEntry⟩
      · exact Or.inr (Or.inr ⟨fun record hMem hPlace => hRecord ⟨record, hMem, hPlace⟩, hBefore⟩)
    · exact Or.inr (Or.inl ⟨hMade place hDeed, rfl⟩)
    · obtain ⟨record, hMem, hPlace⟩ := hDeeds place text hDeed
      exact Or.inl ⟨record, hMem, hPlace.symm, hWritten hMem hPlace.symm hEntry⟩
  · rintro (⟨record, hMem, rfl, rfl⟩ | ⟨⟨path, hPath, hPlace⟩, rfl⟩ | ⟨hElsewhere, hBefore⟩)
    · exact hHeld record hMem
    · exact (FileTree.reaches_of_locate (h.found path hPath)).get?_leadsThrough hPlace
    · refine hTrail.get?_eq hAdds (fun text hDeed => ?_) hBefore
      obtain ⟨record, hMem, hPlace⟩ := hDeeds place text hDeed
      exact hElsewhere record hMem hPlace.symm

end Recorded

/-- A directory has been cleared away, unless it had no entries. -/
structure Cleared (before after : Workspace) (path : String) : Prop where
  working_eq : after.working = before.working
  tree_eq : before.tree.hasEntries before.working path = false ∧ after.tree = before.tree ∨
    before.tree.remove before.working path = .ok after.tree

/-! ## What successful steps record -/

namespace OutputDirectory

variable {output : OutputDirectory} {artifacts : Artifacts} {workspace after : Workspace}

theorem confirm_of_yes (hYes : output.assumeYes = true) (question : String) :
    confirm Workspace.host output question = pure true := by
  rw [confirm, if_pos hYes]

theorem recorded_createDirectories {activity : Option String} {path : String} (hPath : path ≠ "")
    {made : Unit} (h : (attempt activity (Workspace.host.createDirectories path)).result workspace =
      (.ok made, after)) : Recorded workspace after [path] [] := by
  obtain ⟨tree, hMade, rfl⟩ := result_createDirectories_eq_ok.mp h
  obtain ⟨deeds, hTrail, hMakes⟩ :=
    workspace.tree.exists_trail_makeDirectories workspace.working path
  rw [hMade] at hTrail
  have hFound := FileTree.locate_of_makeDirectories hPath hMade
  refine ⟨rfl, ⟨deeds, hTrail, hMakes.adds, fun place hDeed => ?_, fun place text hDeed => ?_⟩,
    by simpa using hFound, trivial⟩
  · exact ⟨path, List.mem_singleton_self _, hMakes.leadsThrough hDeed⟩
  · exact absurd hDeed (hMakes.record_not_mem place text)

theorem recorded_writeRecord {path : String} {record : Json} {written : Unit}
    (h : (writeRecord Workspace.host path record).result workspace = (.ok written, after)) :
    Recorded workspace after [] [(path, record)] := by
  obtain ⟨_, middle, hWrite, hPrint⟩ := result_bind_eq_ok.mp h
  rw [result_liftM] at hPrint
  obtain ⟨-, rfl⟩ := Prod.mk.inj hPrint
  obtain ⟨tree, hTree, rfl⟩ := (result_change_eq_ok
    (f := fun tree working => tree.write working path (recordText record))).mp hWrite
  obtain ⟨hTrail, hRead⟩ := FileTree.trail_of_write hTree
  refine ⟨rfl, ⟨_, hTrail, by simp [Deed.adds], by simp, ?_⟩, by simp, fun _ => hRead, trivial⟩
  intro place text hDeed
  simp only [List.mem_singleton, Deed.record.injEq] at hDeed
  exact ⟨(path, record), List.mem_singleton_self _, hDeed.1.symm⟩

theorem recorded_writeRecords {records : List (String × Json)} {paths : List String}
    (h : (writeRecords Workspace.host records).result workspace = (.ok paths, after)) :
    Recorded workspace after [] records ∧ paths = records.map Prod.fst := by
  induction records generalizing workspace paths with
  | nil =>
    obtain ⟨hPaths, rfl⟩ := Prod.mk.inj h
    exact ⟨⟨rfl, ⟨[], .done _, by simp, by simp, by simp⟩, by simp, trivial⟩,
      (Except.ok.inj hPaths).symm⟩
  | cons entry rest ih =>
    obtain ⟨_, middle, hEntry, h⟩ := result_bind_eq_ok.mp h
    obtain ⟨more, last, hRest, h⟩ := result_bind_eq_ok.mp h
    obtain ⟨hPaths, rfl⟩ := Prod.mk.inj h
    obtain ⟨hRecorded, rfl⟩ := ih hRest
    exact ⟨(recorded_writeRecord hEntry).append hRecorded, (Except.ok.inj hPaths).symm⟩

theorem recorded_in_directory {activity : Option String} {path : String} (hPath : path ≠ "")
    {records : List (String × Json)} {paths : List String}
    (h : (attempt activity (Workspace.host.createDirectories path) >>= fun _ =>
      writeRecords Workspace.host records).result workspace = (.ok paths, after)) :
    Recorded workspace after [path] records ∧ paths = records.map Prod.fst := by
  obtain ⟨_, middle, hMade, hWrite⟩ := result_bind_eq_ok.mp h
  obtain ⟨hRecorded, hPaths⟩ := recorded_writeRecords hWrite
  exact ⟨(recorded_createDirectories hPath hMade).append hRecorded, hPaths⟩

theorem recorded_writeMigrations (hYes : output.assumeYes = true) {paths : List String}
    (h : (writeMigrations Workspace.host output artifacts.migrations).result workspace =
      (.ok paths, after)) :
    ∃ cleared, Cleared workspace cleared output.migrationDirectory ∧
      Recorded cleared after [output.migrationDirectory] (output.migrationRecords artifacts) ∧
      paths = (output.migrationRecords artifacts).map Prod.fst := by
  have hPath : output.migrationDirectory ≠ "" := Path.join_ne_empty _ (by decide)
  unfold writeMigrations at h
  obtain ⟨occupied, looked, hLook, h⟩ := result_bind_eq_ok.mp h
  obtain ⟨hOccupied, hLooked⟩ := Prod.mk.inj hLook
  obtain rfl : workspace = looked := hLooked
  rw [confirm_of_yes hYes, pure_bind] at h
  split at h
  · rw [if_pos rfl] at h
    obtain ⟨_, cleared, hClear, h⟩ := result_bind_eq_ok.mp h
    obtain ⟨tree, hRemove, rfl⟩ := (result_change_eq_ok
      (f := fun tree working => tree.remove working output.migrationDirectory)).mp hClear
    exact ⟨{ workspace with tree }, ⟨rfl, Or.inr hRemove⟩, recorded_in_directory hPath h⟩
  · rename_i hEmpty
    have hNone : workspace.tree.hasEntries workspace.working output.migrationDirectory = occupied :=
      Except.ok.inj hOccupied
    rw [Bool.eq_false_iff.mpr hEmpty] at hNone
    exact ⟨workspace, ⟨rfl, Or.inl ⟨hNone, rfl⟩⟩, recorded_in_directory hPath h⟩

theorem recorded_writeFactories (hYes : output.assumeYes = true) {paths : List String}
    (h : (writeFactories Workspace.host output artifacts.factories).result workspace =
      (.ok paths, after)) :
    Recorded workspace after [] [output.factoryRecord artifacts] ∧
      paths = [(output.factoryRecord artifacts).1] := by
  unfold writeFactories at h
  obtain ⟨taken, looked, hLook, h⟩ := result_bind_eq_ok.mp h
  obtain rfl : workspace = looked := (Prod.mk.inj hLook).2
  rw [confirm_of_yes hYes, pure_bind, if_pos rfl, ite_self] at h
  exact recorded_writeRecords h

theorem recorded_writeModels (hYes : output.assumeYes = true) {paths : List String}
    (h : (writeModels Workspace.host output artifacts.models).result workspace =
      (.ok paths, after)) :
    Recorded workspace after [Path.join output.root "models"] (output.modelRecords artifacts) ∧
      paths = (output.modelRecords artifacts).map Prod.fst := by
  unfold writeModels at h
  obtain ⟨taken, looked, hLook, h⟩ := result_bind_eq_ok.mp h
  rw [result_lift, anyExists_eq_look] at hLook
  obtain rfl : workspace = looked := (Prod.mk.inj hLook).2
  rw [confirm_of_yes hYes, ite_self, pure_bind] at h
  beta_reduce at h
  rw [if_pos rfl] at h
  exact recorded_in_directory (Path.join_ne_empty _ (by decide)) h

/-- **Where all questions are answered with yes and nothing fails, the whole plan is recorded**,
after the root has been made and old migrations have been cleared away. -/
theorem staged_write (hYes : output.assumeYes = true) {paths : List String}
    (h : (output.write Workspace.host artifacts).result workspace = (.ok paths, after)) :
    ∃ rooted cleared,
      workspace.tree.makeDirectories workspace.working output.root = (.ok (), rooted.tree) ∧
      rooted.working = workspace.working ∧
      Cleared rooted cleared output.migrationDirectory ∧
      Recorded cleared after [output.migrationDirectory, Path.join output.root "models"]
        (output.plan artifacts) ∧
      paths = (output.plan artifacts).map Prod.fst := by
  obtain ⟨_, rooted, hRoot, h⟩ := result_bind_eq_ok.mp h
  obtain ⟨_, migrated, hFirst, h⟩ := result_bind_eq_ok.mp h
  obtain ⟨_, manufactured, hSecond, h⟩ := result_bind_eq_ok.mp h
  obtain ⟨_, last, hThird, h⟩ := result_bind_eq_ok.mp h
  obtain ⟨hPaths, rfl⟩ := Prod.mk.inj h
  obtain ⟨tree, hMade, rfl⟩ := result_createDirectories_eq_ok.mp hRoot
  obtain ⟨cleared, hCleared, hMigrations, rfl⟩ := recorded_writeMigrations hYes hFirst
  obtain ⟨hFactories, rfl⟩ := recorded_writeFactories hYes hSecond
  obtain ⟨hModels, rfl⟩ := recorded_writeModels hYes hThird
  refine ⟨{ workspace with tree }, cleared, hMade, rfl, hCleared,
    (hMigrations.append hFactories).append hModels, ?_⟩
  rw [← Except.ok.inj hPaths, plan, List.map_append, List.map_append]
  rfl

theorem recorded_write (hYes : output.assumeYes = true) {paths : List String}
    (h : (output.write Workspace.host artifacts).result workspace = (.ok paths, after)) :
    ∃ cleared, cleared.working = workspace.working ∧
      Recorded cleared after [output.migrationDirectory, Path.join output.root "models"]
        (output.plan artifacts) ∧
      paths = (output.plan artifacts).map Prod.fst := by
  obtain ⟨rooted, cleared, -, hWorking, hCleared, hRecorded, hPaths⟩ := staged_write hYes h
  exact ⟨cleared, hCleared.working_eq.trans hWorking, hRecorded, hPaths⟩

end OutputDirectory

/-! ## What is read back -/

/-- A tree holds what has been made from a document: all migrations and factories, and of the models
with one name the last one. -/
structure OutputDirectory.IsKept (output : OutputDirectory) (artifacts : Artifacts)
    (working : Location) (tree : FileTree) : Prop where
  migrations : ∀ migration ∈ artifacts.migrations,
    tree.read working (recordPath output.migrationDirectory migration.name) =
      .ok (recordText migration.toJson)
  factories : tree.read working (Path.join output.root "factory.json") =
    .ok (recordText (.array (artifacts.factories.map Factory.toJson)))
  models : ∀ front model back, artifacts.models = front ++ model :: back →
    model.name ∉ back.map Model.name →
    tree.read working (recordPath (Path.join output.root "models") model.name) =
      .ok (recordText model.toJson)

section Keeping

variable {output : OutputDirectory} {artifacts : Artifacts} {working : Location} {tree : FileTree}

theorem place_append_ne {place tail tail' : Location} (hNe : tail ≠ tail') :
    place ++ tail ≠ place ++ tail' :=
  (List.append_right_injective place).ne hNe

theorem json_injective : Function.Injective fun name : String => name ++ ".json" := by
  intro name name' hEq
  have hChars := congrArg String.toList hEq
  simp only [String.toList_append] at hChars
  exact String.toList_inj.mp (List.append_cancel_right hChars)

/-! Whatever follows a record in the plan goes to another place. -/

theorem read_migration_of_holds (hMigrations : ∀ migration ∈ artifacts.migrations,
      '/' ∉ migration.name.toList)
    (hModels : ∀ model ∈ artifacts.models, '/' ∉ model.name.toList)
    (hNames : (artifacts.migrations.map Migration.name).Nodup)
    (h : tree.Holds working (output.plan artifacts)) {migration : Migration}
    (hMem : migration ∈ artifacts.migrations) :
    tree.read working (recordPath output.migrationDirectory migration.name) =
      .ok (recordText migration.toJson) := by
  obtain ⟨front, back, hSplit⟩ := List.append_of_mem hMem
  have hPlace := placeOf_migrationRecord output working (hMigrations migration hMem)
  rw [plan, migrationRecords, hSplit, List.map_append, List.map_cons, List.append_assoc,
    List.append_assoc, List.cons_append] at h
  refine h.read_eq fun later hLater => ?_
  simp only [List.mem_append, List.mem_singleton] at hLater
  rcases hLater with hLater | rfl | hLater
  · obtain ⟨other, hOther, rfl⟩ := List.mem_map.mp hLater
    have hOtherMem : other ∈ artifacts.migrations := by simp [hSplit, hOther]
    have hNe : other.name ≠ migration.name := by
      rw [hSplit, List.map_append, List.map_cons] at hNames
      obtain ⟨-, hTail, -⟩ := List.nodup_append.mp hNames
      exact fun hEq => (List.nodup_cons.mp hTail).1 (hEq ▸ List.mem_map_of_mem hOther)
    rw [hPlace, placeOf_migrationRecord output working (hMigrations other hOtherMem)]
    exact place_append_ne (by simpa using json_injective.ne hNe)
  · rw [hPlace, placeOf_factoryRecord]
    exact place_append_ne (by simp)
  · obtain ⟨model, hModel, rfl⟩ := List.mem_map.mp hLater
    rw [hPlace, placeOf_modelRecord output working (hModels model hModel)]
    exact place_append_ne (by simp)

theorem read_factories_of_holds (hModels : ∀ model ∈ artifacts.models, '/' ∉ model.name.toList)
    (h : tree.Holds working (output.plan artifacts)) :
    tree.read working (Path.join output.root "factory.json") =
      .ok (recordText (.array (artifacts.factories.map Factory.toJson))) := by
  rw [plan, List.append_assoc] at h
  refine h.read_eq fun later hLater => ?_
  obtain ⟨model, hModel, rfl⟩ := List.mem_map.mp hLater
  rw [placeOf_factoryRecord, placeOf_modelRecord output working (hModels model hModel)]
  exact place_append_ne (by simp)

theorem read_model_of_holds (hModels : ∀ model ∈ artifacts.models, '/' ∉ model.name.toList)
    (h : tree.Holds working (output.plan artifacts)) {front back : List Model} {model : Model}
    (hSplit : artifacts.models = front ++ model :: back)
    (hLast : model.name ∉ back.map Model.name) :
    tree.read working (recordPath (Path.join output.root "models") model.name) =
      .ok (recordText model.toJson) := by
  rw [plan, modelRecords, hSplit, List.map_append, List.map_cons, ← List.append_assoc] at h
  refine h.read_eq fun later hLater => ?_
  obtain ⟨other, hOther, rfl⟩ := List.mem_map.mp hLater
  have hNe : other.name ≠ model.name := fun hEq => hLast (hEq ▸ List.mem_map_of_mem hOther)
  rw [placeOf_modelRecord output working (hModels other (by simp [hSplit, hOther])),
    placeOf_modelRecord output working (hModels model (by simp [hSplit]))]
  exact place_append_ne (by simpa using json_injective.ne hNe)

/-- The tails of the places of the planned files below the output directory. -/
def planTails (artifacts : Artifacts) : List Location :=
  ((artifacts.migrations.map Migration.name).map fun name => ["migrations", name ++ ".json"]) ++
    ["factory.json"] ::
      (artifacts.models.map Model.name).map fun name => ["models", name ++ ".json"]

theorem map_placeOf_plan (hMigrations : ∀ migration ∈ artifacts.migrations,
      '/' ∉ migration.name.toList)
    (hModels : ∀ model ∈ artifacts.models, '/' ∉ model.name.toList) :
    ((output.plan artifacts).map Prod.fst).map (Path.placeOf working) =
      (planTails artifacts).map fun tail => Path.placeOf working output.root ++ tail := by
  have hFirst :
      (output.migrationRecords artifacts).map (fun entry => Path.placeOf working entry.1) =
      artifacts.migrations.map fun migration =>
        Path.placeOf working output.root ++ ["migrations", migration.name ++ ".json"] := by
    rw [migrationRecords, List.map_map]
    refine List.map_congr_left fun migration hMem => ?_
    rw [Function.comp_apply, placeOf_migrationRecord output working (hMigrations migration hMem)]
  have hLast : (output.modelRecords artifacts).map (fun entry => Path.placeOf working entry.1) =
      artifacts.models.map fun model =>
        Path.placeOf working output.root ++ ["models", model.name ++ ".json"] := by
    rw [modelRecords, List.map_map]
    refine List.map_congr_left fun model hMem => ?_
    rw [Function.comp_apply, placeOf_modelRecord output working (hModels model hMem)]
  simp only [plan, planTails, List.map_append, List.map_cons, List.map_map, Function.comp_def,
    hFirst, hLast, placeOf_factoryRecord, List.append_assoc, List.singleton_append]

theorem nodup_planTails (hMigrations : (artifacts.migrations.map Migration.name).Nodup)
    (hModels : (artifacts.models.map Model.name).Nodup) : (planTails artifacts).Nodup := by
  have hInjective (directory : String) :
      Function.Injective fun name : String => [directory, name ++ ".json"] := by
    intro name name' hEq
    exact json_injective (by simpa using hEq)
  refine List.nodup_append.mpr ⟨hMigrations.map (hInjective _), ?_, ?_⟩
  · refine List.nodup_cons.mpr ⟨?_, hModels.map (hInjective _)⟩
    simp
  · intro tail hTail tail' hTail'
    obtain ⟨name, -, rfl⟩ := List.mem_map.mp hTail
    rcases List.mem_cons.mp hTail' with rfl | hTail'
    · simp
    · obtain ⟨name', -, rfl⟩ := List.mem_map.mp hTail'
      simp

/-- The paths are pairwise different if and only if the names of the models are. -/
theorem nodup_paths_iff (hMigrations : ∀ migration ∈ artifacts.migrations,
      '/' ∉ migration.name.toList)
    (hModels : ∀ model ∈ artifacts.models, '/' ∉ model.name.toList)
    (hNames : (artifacts.migrations.map Migration.name).Nodup) :
    ((output.plan artifacts).map Prod.fst).Nodup ↔ (artifacts.models.map Model.name).Nodup := by
  constructor
  · intro hPaths
    rw [plan, List.map_append] at hPaths
    have hModelPaths : ((output.modelRecords artifacts).map Prod.fst).Nodup :=
      (List.nodup_append.mp hPaths).2.1
    have hEq : (output.modelRecords artifacts).map Prod.fst =
        (artifacts.models.map Model.name).map (recordPath (Path.join output.root "models")) := by
      simp [modelRecords]
    rw [hEq] at hModelPaths
    exact hModelPaths.of_map _
  · intro hModelNames
    -- the paths may be spelled in many ways, but their places are pairwise different
    refine List.Nodup.of_map (Path.placeOf []) ?_
    rw [map_placeOf_plan hMigrations hModels]
    exact (nodup_planTails hNames hModelNames).map (List.append_right_injective _)

end Keeping

/-- **What has been made from a document is kept on disk, but for models that share a name.** Where
table names have no slash, all questions are answered with yes, and writing succeeds, the planned
paths are given, in order. Each migration and the factories are read back from their files, and so
is each model unless a later one has its name. No path is given twice if and only if no two models
share a name. -/
theorem write_keeps {σ : Type} {separator : String} {policy : Policy σ} {document : Document}
    {state final : σ} {artifacts : Artifacts}
    (h : (convert separator policy document).result state = (.ok artifacts, final))
    (hPlain : ∀ decl ∈ document.tables, '/' ∉ decl.name.toList)
    {output : OutputDirectory} (hYes : output.assumeYes = true) {workspace after : Workspace}
    {paths : List String}
    (hWrite : (output.write Workspace.host artifacts).result workspace = (.ok paths, after)) :
    paths = (output.plan artifacts).map Prod.fst ∧
      output.IsKept artifacts workspace.working after.tree ∧
      (paths.Nodup ↔ (artifacts.models.map Model.name).Nodup) := by
  have hNames := convert_migrations_name h
  have hMigrations : ∀ migration ∈ artifacts.migrations, '/' ∉ migration.name.toList := by
    intro migration hMem
    have hName := List.mem_map_of_mem (f := Migration.name) hMem
    rw [hNames] at hName
    obtain ⟨decl, hDecl, hEq⟩ := List.mem_map.mp hName
    exact hEq ▸ hPlain decl hDecl
  have hModels := convert_slash_not_mem_model_name h
  have hNodup : (artifacts.migrations.map Migration.name).Nodup :=
    hNames ▸ (convert_hasValidTables h).tableNames
  obtain ⟨cleared, hCleared, hRecorded, rfl⟩ := recorded_write hYes hWrite
  have hHolds := hRecorded.holds
  rw [hCleared] at hHolds
  refine ⟨rfl, ?_, nodup_paths_iff hMigrations hModels hNodup⟩
  exact {
    migrations := fun _ => read_migration_of_holds hMigrations hModels hNodup hHolds
    factories := read_factories_of_holds hModels hHolds
    models := fun _ _ _ => read_model_of_holds hModels hHolds }

/-- Four files are written for two tables, and all of them are kept. -/
theorem write_keeps_newsOfLink :
    ∃ artifacts final after,
      (convert "_" (.suffix : Policy Unit) newsOfLink).result () = (.ok artifacts, final) ∧
      (outputHere.write Workspace.host artifacts).result workspaceWithNotes =
        (.ok ["out/migrations/news.json", "out/migrations/news_mail.json", "out/factory.json",
          "out/models/News.json"], after) ∧
      outputHere.IsKept artifacts workspaceWithNotes.working after.tree ∧
      (artifacts.models.map Model.name).Nodup := by
  have hPaths : ((convert "_" (.suffix : Policy Unit) newsOfLink).result ()).1.toOption.map
      (fun artifacts =>
        ((outputHere.write Workspace.host artifacts).result workspaceWithNotes).1.toOption) =
      some (some ["out/migrations/news.json", "out/migrations/news_mail.json", "out/factory.json",
        "out/models/News.json"]) := by
    decide +kernel
  obtain ⟨artifacts, hConvert, hPaths⟩ := exists_result_of_map hPaths
  obtain ⟨after, hWrite⟩ := exists_written_of_toOption hPaths
  obtain ⟨-, hKept, hNodup⟩ := write_keeps hConvert (by decide +kernel) rfl hWrite
  exact ⟨artifacts, (), after, hConvert, hWrite, hKept, hNodup.mp (by decide +kernel)⟩

/-- Two tables whose models have the same name. -/
def usersTwice : Document where
  tables := [⟨"1", "user", false, false⟩, ⟨"2", "users", false, false⟩]
  columns := .ofList [("1", [{ id := "11", name := "id" }]), ("2", [{ id := "21", name := "key" }])]
  relations := []

/-- **A model whose name another table shares is lost**: its path is given twice, and its file holds
the other model. -/
theorem write_loses_model :
    ∃ artifacts final after,
      (convert "_" (.suffix : Policy Unit) usersTwice).result () = (.ok artifacts, final) ∧
      (outputHere.write Workspace.host artifacts).result workspaceWithNotes =
        (.ok ["out/migrations/user.json", "out/migrations/users.json", "out/factory.json",
          "out/models/User.json", "out/models/User.json"], after) ∧
      ∃ model ∈ artifacts.models,
        after.tree.read workspaceWithNotes.working
          (recordPath (Path.join outputHere.root "models") model.name) ≠
          .ok (recordText model.toJson) := by
  have hWritten : ((convert "_" (.suffix : Policy Unit) usersTwice).result ()).1.toOption.map
      (fun artifacts =>
        let result := (outputHere.write Workspace.host artifacts).result workspaceWithNotes
        (result.1.toOption, artifacts.models.any fun model =>
          (result.2.tree.read workspaceWithNotes.working
            (recordPath (Path.join outputHere.root "models") model.name)).toOption ≠
            some (recordText model.toJson))) =
      some (some ["out/migrations/user.json", "out/migrations/users.json", "out/factory.json",
        "out/models/User.json", "out/models/User.json"], true) := by
    decide +kernel
  obtain ⟨artifacts, hConvert, hResult⟩ := exists_result_of_map hWritten
  obtain ⟨hPaths, hLost⟩ := Prod.mk.inj hResult
  obtain ⟨after, hWrite⟩ := exists_written_of_toOption hPaths
  obtain ⟨model, hModel, hNe⟩ := List.any_eq_true.mp hLost
  refine ⟨artifacts, (), after, hConvert, hWrite, model, hModel, fun hRead => ?_⟩
  rw [hWrite, decide_eq_true_eq] at hNe
  exact hNe (congrArg Except.toOption hRead)

end SchemaScaffold
