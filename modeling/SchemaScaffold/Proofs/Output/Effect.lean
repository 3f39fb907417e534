import SchemaScaffold.Proofs.Output.Records

/-!
# What stands where after artifacts have been written

Where all questions are answered with yes and nothing fails, it is known of every place what stands
there afterwards.

* `Cleared.get?_below`, `Cleared.get?_outside`: what is left of a directory that has been cleared
  away, and of all else.
* `OutputDirectory.get?_write_iff`: afterwards there are the files of the plan, the directories that
  writing needs, and what was there before outside of the migrations.
* `write_replaces`: so the migrations are replaced, the models joined to what is beside them, and no
  other file is touched.
* `write_adds_directory`: the path of the root may itself lead through directories below the root,
  and these are there as well.
-/

namespace SchemaScaffold

open OutputDirectory

/-! ## Clearing -/

namespace Cleared

variable {before after : Workspace} {path : String}

theorem get?_outside (h : Cleared before after path) (place : Location)
    (hPlace : ¬ Path.placeOf before.working path <+: place) :
    after.tree.get? place = before.tree.get? place := by
  rcases h.tree_eq with ⟨-, hTree⟩ | hRemove
  · rw [hTree]
  · obtain ⟨-, hTree⟩ := FileTree.remove_eq_ok hRemove
    rw [← List.isPrefixOf_iff_prefix] at hPlace
    rw [hTree, FileTree.get?_dropBelow, if_neg hPlace]
    split
    · rename_i hNil
      rw [hNil, FileTree.get?_nil]
    · rfl

/-- Nothing is left in the directory. For one without entries this takes a tree in which it is
reached once it is there, and a path that leads somewhere. -/
theorem get?_below (h : Cleared before after path) (hNested : before.tree.IsNested)
    (hReaches : before.tree.get? (Path.placeOf before.working path) = some .directory →
      before.tree.Reaches before.working path)
    {tree : FileTree} {found : Location}
    (hFound : tree.locate before.working path = .found found .directory)
    (tail : Location) (hTail : tail ≠ []) :
    after.tree.get? (Path.placeOf before.working path ++ tail) = none := by
  rcases h.tree_eq with ⟨hEmpty, hTree⟩ | hRemove
  · by_contra hSome
    obtain ⟨entry, hEntry⟩ := Option.ne_none_iff_exists'.mp hSome
    rw [hTree] at hEntry
    have hReached := hReaches (hNested.get?_above hTail hEntry)
    rw [hReached.hasEntries hFound, hNested.hasChild hTail hEntry] at hEmpty
    cases hEmpty
  · obtain ⟨-, hTree⟩ := FileTree.remove_eq_ok hRemove
    have hPrefix := List.isPrefixOf_iff_prefix.mpr
      (List.prefix_append (Path.placeOf before.working path) tail)
    rw [hTree, FileTree.get?_dropBelow, if_neg (by simp [hTail]), if_pos hPrefix]

end Cleared

/-! ## The whole tree -/

/-- The names of migrations and those of models have no slash and are pairwise different. -/
structure Artifacts.HasPlainNames (artifacts : Artifacts) : Prop where
  migrations : ∀ migration ∈ artifacts.migrations, '/' ∉ migration.name.toList
  models : ∀ model ∈ artifacts.models, '/' ∉ model.name.toList
  migrationNames : (artifacts.migrations.map Migration.name).Nodup
  modelNames : (artifacts.models.map Model.name).Nodup

instance (artifacts : Artifacts) : Decidable artifacts.HasPlainNames :=
  decidable_of_iff
    ((∀ migration ∈ artifacts.migrations, '/' ∉ migration.name.toList) ∧
      (∀ model ∈ artifacts.models, '/' ∉ model.name.toList) ∧
      (artifacts.migrations.map Migration.name).Nodup ∧ (artifacts.models.map Model.name).Nodup)
    ⟨fun ⟨hMigrations, hModels, hNames, hNames'⟩ => ⟨hMigrations, hModels, hNames, hNames'⟩,
      fun h => ⟨h.migrations, h.models, h.migrationNames, h.modelNames⟩⟩

namespace OutputDirectory

variable {output : OutputDirectory} {artifacts : Artifacts} {working place : Location}

/-- The places of the directories that writing needs: those that the path of the root leads through,
and the two below the root. -/
def Needs (output : OutputDirectory) (working place : Location) : Prop :=
  Path.LeadsThrough working output.root place ∨
    place = Path.placeOf working output.migrationDirectory ∨
    place = Path.placeOf working (Path.join output.root "models")

theorem placeOf_migrationDirectory (output : OutputDirectory) (working : Location) :
    Path.placeOf working output.migrationDirectory =
      Path.placeOf working output.root ++ ["migrations"] :=
  Path.placeOf_join_file working output.root (by decide) (by decide) (by decide) (by decide)

theorem placeOf_modelDirectory (output : OutputDirectory) (working : Location) :
    Path.placeOf working (Path.join output.root "models") =
      Path.placeOf working output.root ++ ["models"] :=
  Path.placeOf_join_file working output.root (by decide) (by decide) (by decide) (by decide)

theorem map_placeOf_plan_records (hPlain : artifacts.HasPlainNames) (output : OutputDirectory)
    (working : Location) :
    ((output.plan artifacts).map fun record => Path.placeOf working record.1) =
      (planTails artifacts).map fun tail => Path.placeOf working output.root ++ tail := by
  rw [← map_placeOf_plan hPlain.migrations hPlain.models, List.map_map]
  rfl

theorem nodup_placeOf_plan (hPlain : artifacts.HasPlainNames) (output : OutputDirectory)
    (working : Location) :
    ((output.plan artifacts).map fun record => Path.placeOf working record.1).Nodup := by
  rw [map_placeOf_plan_records hPlain]
  exact (nodup_planTails hPlain.migrationNames hPlain.modelNames).map
    (List.append_right_injective _)

/-- Below the place of the root, the plan has no file where no tail of the plan leads. -/
theorem forall_placeOf_plan_ne_iff (hPlain : artifacts.HasPlainNames) (output : OutputDirectory)
    (working tail : Location) :
    (∀ record ∈ output.plan artifacts,
      Path.placeOf working output.root ++ tail ≠ Path.placeOf working record.1) ↔
      tail ∉ planTails artifacts := by
  have hMem := List.mem_map_of_injective (a := tail) (l := planTails artifacts)
    (List.append_right_injective (Path.placeOf working output.root))
  rw [← hMem, ← map_placeOf_plan_records hPlain, List.mem_map, not_exists]
  simp only [not_and, ne_eq, eq_comm]

theorem models_not_mem_planTails_iff {tail : Location} :
    ["models"] ++ tail ∉ planTails artifacts ↔
      ∀ model ∈ artifacts.models, tail ≠ [model.name ++ ".json"] := by
  simp [planTails, eq_comm]

theorem needs_iff (output : OutputDirectory) (working place : Location) :
    (∃ path ∈ [output.migrationDirectory, Path.join output.root "models"],
      Path.LeadsThrough working path place) ↔ output.Needs working place := by
  constructor
  · rintro ⟨path, hPath, hLeads⟩
    simp only [List.mem_cons, List.not_mem_nil, or_false] at hPath
    rcases hPath with rfl | rfl
    · exact (hLeads.of_join (by decide) (by decide)).imp_right Or.inl
    · exact (hLeads.of_join (by decide) (by decide)).imp_right Or.inr
  · rintro (hLeads | rfl | rfl)
    · exact ⟨_, List.mem_cons_self, hLeads.below (by decide)⟩
    · exact ⟨_, List.mem_cons_self, Path.leadsThrough_placeOf working _⟩
    · exact ⟨_, by simp, Path.leadsThrough_placeOf working _⟩

section Whole

variable {before after : Workspace} {paths : List String}

/-- **All that stands in the tree afterwards** are the files of the plan, the directories that
writing needs, and what stood outside of the migrations where no file of the plan is. -/
theorem get?_write_iff (hOrderly : before.IsOrderly) (hYes : output.assumeYes = true)
    (hPlain : artifacts.HasPlainNames)
    (hWrite : (output.write Workspace.host artifacts).result before = (.ok paths, after))
    (place : Location) (entry : FileEntry) :
    after.tree.get? place = some entry ↔
      (∃ record ∈ output.plan artifacts, place = Path.placeOf before.working record.1 ∧
        entry = .file (recordText record.2)) ∨
      (output.Needs before.working place ∧ entry = .directory) ∨
      ((∀ record ∈ output.plan artifacts, place ≠ Path.placeOf before.working record.1) ∧
        ¬ Path.placeOf before.working output.migrationDirectory <+: place ∧
        before.tree.get? place = some entry) := by
  obtain ⟨rooted, cleared, hMade, hWorking, hCleared, hRecorded, -⟩ := staged_write hYes hWrite
  have hRooted := FileTree.get?_makeDirectories_iff hOrderly.working hMade
  have hAfter := hRecorded.get?_iff (nodup_placeOf_plan hPlain output _)
  have hFound := hRecorded.found output.migrationDirectory List.mem_cons_self
  rw [hCleared.working_eq, hWorking] at hFound hAfter
  simp only [needs_iff] at hAfter
  have hBelow := hCleared.get?_below (hOrderly.nested.makeDirectories hMade)
  have hOutside := hCleared.get?_outside place
  rw [hWorking] at hBelow hOutside
  have hRoot := FileTree.reaches_of_makeDirectories hOrderly.working hMade
  have hNone := hBelow (hRoot.enter (by decide)) hFound
  rw [hAfter]
  constructor
  · rintro (hRecord | hNeeds | ⟨hElsewhere, hEntry⟩)
    · exact Or.inl hRecord
    · exact Or.inr (Or.inl hNeeds)
    · by_cases hIn : Path.placeOf before.working output.migrationDirectory <+: place
      · obtain ⟨tail, rfl⟩ := hIn
        by_cases hTail : tail = []
        · -- clearing may have left the directory itself, which is made anyhow
          subst hTail
          rw [List.append_nil] at hElsewhere hEntry ⊢
          have hNeeds : output.Needs before.working
              (Path.placeOf before.working output.migrationDirectory) := Or.inr (Or.inl rfl)
          have hHere := (hAfter _ entry).mpr (Or.inr (Or.inr ⟨hElsewhere, hEntry⟩))
          rw [(hAfter _ _).mpr (Or.inr (Or.inl ⟨hNeeds, rfl⟩))] at hHere
          exact Or.inr (Or.inl ⟨hNeeds, (Option.some.inj hHere).symm⟩)
        · rw [hNone tail hTail] at hEntry
          cases hEntry
      · rw [hOutside hIn, hRooted] at hEntry
        rcases hEntry with ⟨hLeads, rfl⟩ | hBefore
        · exact Or.inr (Or.inl ⟨Or.inl hLeads, rfl⟩)
        · exact Or.inr (Or.inr ⟨hElsewhere, hIn, hBefore⟩)
  · rintro (hRecord | hNeeds | ⟨hElsewhere, hIn, hBefore⟩)
    · exact Or.inl hRecord
    · exact Or.inr (Or.inl hNeeds)
    · refine Or.inr (Or.inr ⟨hElsewhere, ?_⟩)
      rw [hOutside hIn, hRooted]
      exact Or.inr hBefore

end Whole

/-! ## Each kind of output -/

/-- The files of the plan below the place of the root: those of the migrations, the one of the
factories, and those of the models. -/
theorem exists_mem_plan_iff (hPlain : artifacts.HasPlainNames) (output : OutputDirectory)
    (working tail : Location) (entry : FileEntry) :
    (∃ record ∈ output.plan artifacts,
      Path.placeOf working output.root ++ tail = Path.placeOf working record.1 ∧
        entry = .file (recordText record.2)) ↔
      (∃ migration ∈ artifacts.migrations, tail = ["migrations", migration.name ++ ".json"] ∧
        entry = .file (recordText migration.toJson)) ∨
      (tail = ["factory.json"] ∧
        entry = .file (recordText (.array (artifacts.factories.map Factory.toJson)))) ∨
      ∃ model ∈ artifacts.models, tail = ["models", model.name ++ ".json"] ∧
        entry = .file (recordText model.toJson) := by
  have hMigration {migration : Migration} (hMem : migration ∈ artifacts.migrations) :=
    placeOf_migrationRecord output working (hPlain.migrations migration hMem)
  have hModel {model : Model} (hMem : model ∈ artifacts.models) :=
    placeOf_modelRecord output working (hPlain.models model hMem)
  simp only [plan, List.mem_append, List.mem_singleton]
  constructor
  · rintro ⟨record, (hRecord | rfl) | hRecord, hPlace, hEntry⟩
    · obtain ⟨migration, hMem, rfl⟩ := List.mem_map.mp hRecord
      rw [hMigration hMem] at hPlace
      exact Or.inl ⟨migration, hMem, List.append_cancel_left hPlace, hEntry⟩
    · rw [placeOf_factoryRecord] at hPlace
      exact Or.inr (Or.inl ⟨List.append_cancel_left hPlace, hEntry⟩)
    · obtain ⟨model, hMem, rfl⟩ := List.mem_map.mp hRecord
      rw [hModel hMem] at hPlace
      exact Or.inr (Or.inr ⟨model, hMem, List.append_cancel_left hPlace, hEntry⟩)
  · rintro (⟨migration, hMem, rfl, hEntry⟩ | ⟨rfl, hEntry⟩ | ⟨model, hMem, rfl, hEntry⟩)
    · exact ⟨_, Or.inl (Or.inl (List.mem_map_of_mem hMem)), (hMigration hMem).symm, hEntry⟩
    · exact ⟨_, Or.inl (Or.inr rfl), (placeOf_factoryRecord output artifacts working).symm, hEntry⟩
    · exact ⟨_, Or.inr (List.mem_map_of_mem hMem), (hModel hMem).symm, hEntry⟩

/-- What has become of a tree: the migrations are replaced, the models are joined to what is beside
them, and no other file is touched. Directories below the root through which its own path leads are
there as well. -/
structure Replaced (output : OutputDirectory) (artifacts : Artifacts) (working : Location)
    (before after : FileTree) : Prop where
  migrations : ∀ tail entry, tail ≠ [] →
    (after.get? (Path.placeOf working output.migrationDirectory ++ tail) = some entry ↔
      (∃ migration ∈ artifacts.migrations, tail = [migration.name ++ ".json"] ∧
        entry = .file (recordText migration.toJson)) ∨
      (Path.LeadsThrough working output.root
        (Path.placeOf working output.migrationDirectory ++ tail) ∧ entry = .directory))
  factories : after.get? (Path.placeOf working (Path.join output.root "factory.json")) =
    some (.file (recordText (.array (artifacts.factories.map Factory.toJson))))
  models : ∀ tail entry, tail ≠ [] →
    (after.get? (Path.placeOf working (Path.join output.root "models") ++ tail) = some entry ↔
      (∃ model ∈ artifacts.models, tail = [model.name ++ ".json"] ∧
        entry = .file (recordText model.toJson)) ∨
      (Path.LeadsThrough working output.root
        (Path.placeOf working (Path.join output.root "models") ++ tail) ∧ entry = .directory) ∨
      ((∀ model ∈ artifacts.models, tail ≠ [model.name ++ ".json"]) ∧
        before.get? (Path.placeOf working (Path.join output.root "models") ++ tail) = some entry))
  /-- the directories that writing needs are there -/
  directories : ∀ place, output.Needs working place → after.get? place = some .directory
  /-- all else is as it was, but for such directories -/
  others : ∀ place, ¬ Path.placeOf working output.migrationDirectory <+: place →
    (∀ record ∈ output.plan artifacts, place ≠ Path.placeOf working record.1) →
    after.get? place = before.get? place ∨
      (before.get? place = none ∧ output.Needs working place)

theorem needs_below_iff (output : OutputDirectory) (working tail : Location) :
    output.Needs working (Path.placeOf working output.root ++ tail) ↔
      Path.LeadsThrough working output.root (Path.placeOf working output.root ++ tail) ∨
        tail = ["migrations"] ∨ tail = ["models"] := by
  rw [Needs, placeOf_migrationDirectory, placeOf_modelDirectory, List.append_right_inj,
    List.append_right_inj]

variable {before after : Workspace} {paths : List String}

theorem replaced_write (hOrderly : before.IsOrderly) (hYes : output.assumeYes = true)
    (hPlain : artifacts.HasPlainNames)
    (hWrite : (output.write Workspace.host artifacts).result before = (.ok paths, after)) :
    output.Replaced artifacts before.working before.tree after.tree := by
  have hAfter := get?_write_iff hOrderly hYes hPlain hWrite
  have hFile := exists_mem_plan_iff hPlain output before.working
  have hNeeds := needs_below_iff output before.working
  exact {
    migrations := by
      intro tail entry hTail
      rw [placeOf_migrationDirectory, List.append_assoc, hAfter, hFile, hNeeds,
        placeOf_migrationDirectory]
      simp [hTail]
    factories := by
      refine (hAfter _ _).mpr (Or.inl ⟨output.factoryRecord artifacts, ?_, rfl, rfl⟩)
      simp [plan]
    models := by
      intro tail entry hTail
      rw [placeOf_modelDirectory, List.append_assoc, hAfter, hFile, hNeeds,
        placeOf_migrationDirectory, forall_placeOf_plan_ne_iff hPlain,
        models_not_mem_planTails_iff]
      simp [hTail]
    directories := fun place hNeeds => (hAfter place _).mpr (Or.inr (Or.inl ⟨hNeeds, rfl⟩))
    others := by
      intro place hOutside hElsewhere
      cases hBefore : before.tree.get? place with
      | some entry =>
        exact Or.inl ((hAfter place entry).mpr (Or.inr (Or.inr ⟨hElsewhere, hOutside, hBefore⟩)))
      | none =>
        cases hEntry : after.tree.get? place with
        | none => exact Or.inl rfl
        | some entry =>
          rcases (hAfter place entry).mp hEntry with hRecord | ⟨hNeeded, -⟩ | ⟨-, -, hOld⟩
          · obtain ⟨record, hMem, hPlace, -⟩ := hRecord
            exact absurd hPlace (hElsewhere record hMem)
          · exact Or.inr ⟨rfl, hNeeded⟩
          · rw [hBefore] at hOld
            cases hOld }

/-- **A confirmed write replaces the migrations, joins the models to what is beside them, and
touches no other file.** The paths that are given are those of the plan. Below the root there are
also the directories through which its own path leads; there are none unless this path walks up. -/
theorem write_replaces (hOrderly : before.IsOrderly) (hYes : output.assumeYes = true)
    (hPlain : artifacts.HasPlainNames)
    (hWrite : (output.write Workspace.host artifacts).result before = (.ok paths, after)) :
    paths = (output.plan artifacts).map Prod.fst ∧
      output.Replaced artifacts before.working before.tree after.tree ∧
      (".." ∉ Path.steps output.root → ∀ tail, tail ≠ [] →
        ¬ Path.LeadsThrough before.working output.root
          (Path.placeOf before.working output.root ++ tail)) := by
  obtain ⟨-, -, -, -, -, -, hPaths⟩ := staged_write hYes hWrite
  exact ⟨hPaths, replaced_write hOrderly hYes hPlain hWrite,
    fun hSteps _ hTail => Path.not_leadsThrough_below hSteps hTail⟩

end OutputDirectory

/-- A workspace with notes beside some earlier output. -/
def workspaceWithStaleOutput : Workspace where
  tree := ⟨[(["notes.json"], .file "kept"), (["out"], .directory),
    (["out", "migrations"], .directory), (["out", "migrations", "sub"], .directory),
    (["out", "migrations", "sub", "old.json"], .file "stale"),
    (["out", "factory.json"], .file "stale"), (["out", "models"], .directory),
    (["out", "models", "Old.json"], .file "old")]⟩
  working := []

/-- Old migrations are gone, but an old model and the notes are still there. -/
theorem write_replaces_staleOutput :
    ∃ artifacts final after,
      (convert "_" (.suffix : Policy Unit) newsOfLink).result () = (.ok artifacts, final) ∧
      (outputHere.write Workspace.host artifacts).result workspaceWithStaleOutput =
        (.ok ["out/migrations/news.json", "out/migrations/news_mail.json", "out/factory.json",
          "out/models/News.json"], after) ∧
      after.tree.get? ["out", "migrations", "sub", "old.json"] = none ∧
      after.tree.get? ["out", "models", "Old.json"] = some (.file "old") ∧
      after.tree.get? ["notes.json"] = some (.file "kept") := by
  have hPaths : ((convert "_" (.suffix : Policy Unit) newsOfLink).result ()).1.toOption.map
      (fun artifacts => (
        ((outputHere.write Workspace.host artifacts).result workspaceWithStaleOutput).1.toOption,
        decide (artifacts.HasPlainNames ∧
          (∀ model ∈ artifacts.models, ["Old.json"] ≠ [model.name ++ ".json"]) ∧
          ∀ record ∈ outputHere.plan artifacts, ["notes.json"] ≠ Path.placeOf [] record.1))) =
      some (some ["out/migrations/news.json", "out/migrations/news_mail.json", "out/factory.json",
        "out/models/News.json"], true) := by
    decide +kernel
  obtain ⟨artifacts, hConvert, hEq⟩ := exists_result_of_map hPaths
  obtain ⟨hPaths, hNames⟩ := Prod.mk.inj hEq
  obtain ⟨hPlain, hModels, hRecords⟩ := of_decide_eq_true hNames
  obtain ⟨after, hWrite⟩ := exists_written_of_toOption hPaths
  obtain ⟨-, hReplaced, hDetours⟩ := write_replaces (by decide +kernel) rfl hPlain hWrite
  refine ⟨artifacts, (), after, hConvert, hWrite, ?_, ?_, ?_⟩
  · by_contra hSome
    obtain ⟨entry, hEntry⟩ := Option.ne_none_iff_exists'.mp hSome
    rcases (hReplaced.migrations ["sub", "old.json"] entry (by simp)).mp hEntry with
      ⟨migration, -, hTail, -⟩ | ⟨hLeads, -⟩
    · simp at hTail
    · exact hDetours (by decide) ["migrations", "sub", "old.json"] (by simp) hLeads
  · exact (hReplaced.models ["Old.json"] _ (by simp)).mpr (Or.inr (Or.inr ⟨hModels, rfl⟩))
  · rcases hReplaced.others ["notes.json"] (by decide) hRecords with hSame | ⟨hNone, -⟩
    · exact hSame
    · cases hNone

/-- An output directory whose path leads through a directory for models, and out again. -/
def outputAround : OutputDirectory := { root := "out/models/x/../..", assumeYes := true }

/-- **The path of the root can lead through the directory of models**, which then has an entry that
is no model and that it did not have before. -/
theorem write_adds_directory :
    ∃ artifacts final after,
      (convert "_" (.suffix : Policy Unit) newsOfLink).result () = (.ok artifacts, final) ∧
      artifacts.HasPlainNames ∧
      (outputAround.write Workspace.host artifacts).result workspaceWithNotes =
        (.ok ["out/models/x/../../migrations/news.json",
          "out/models/x/../../migrations/news_mail.json", "out/models/x/../../factory.json",
          "out/models/x/../../models/News.json"], after) ∧
      Path.placeOf workspaceWithNotes.working (Path.join outputAround.root "models") =
        ["out", "models"] ∧
      (∀ model ∈ artifacts.models, "x" ≠ model.name ++ ".json") ∧
      workspaceWithNotes.tree.get? ["out", "models", "x"] = none ∧
      after.tree.get? ["out", "models", "x"] = some .directory := by
  have hPaths : ((convert "_" (.suffix : Policy Unit) newsOfLink).result ()).1.toOption.map
      (fun artifacts =>
        let result := (outputAround.write Workspace.host artifacts).result workspaceWithNotes
        (result.1.toOption,
          decide (artifacts.HasPlainNames ∧
            (∀ model ∈ artifacts.models, "x" ≠ model.name ++ ".json") ∧
            result.2.tree.get? ["out", "models", "x"] = some .directory))) =
      some (some ["out/models/x/../../migrations/news.json",
        "out/models/x/../../migrations/news_mail.json", "out/models/x/../../factory.json",
        "out/models/x/../../models/News.json"], true) := by
    decide +kernel
  obtain ⟨artifacts, hConvert, hEq⟩ := exists_result_of_map hPaths
  obtain ⟨hPaths, hFacts⟩ := Prod.mk.inj hEq
  obtain ⟨hPlain, hModels, hDirectory⟩ := of_decide_eq_true hFacts
  obtain ⟨after, hWrite⟩ := exists_written_of_toOption hPaths
  rw [hWrite] at hDirectory
  exact ⟨artifacts, (), after, hConvert, hPlain, hWrite, by decide, hModels, by decide, hDirectory⟩

end SchemaScaffold
