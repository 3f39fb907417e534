import SchemaScaffold.Artifact.OutputDirectory
import SchemaScaffold.Files.Workspace
import SchemaScaffold.Proofs.Files.Directories

/-!
# What writing artifacts does to a workspace

* `OutputDirectory.plan`: the records of all artifacts with the paths of their files, in order.
* `Workspace.IsOrderly`: what stands in a workspace stands in directories.
* `Writing.result`: what a step gives, and the workspace it leaves.
* `Leaves`: whatever becomes of a step, it leaves a trail of deeds of some kind.
* `leaves_write`: the deeds of `write` are directories made, the migrations cleared away, and the
  files of the plan.
-/

namespace SchemaScaffold

/-! ## The plan -/

namespace OutputDirectory

variable (output : OutputDirectory) (artifacts : Artifacts)

def migrationDirectory : String := Path.join output.root "migrations"

/-- The migrations, with their files. -/
def migrationRecords : List (String × Json) :=
  artifacts.migrations.map fun migration =>
    (recordPath output.migrationDirectory migration.name, migration.toJson)

/-- All factories, with their one file. -/
def factoryRecord : String × Json :=
  (Path.join output.root "factory.json", .array (artifacts.factories.map Factory.toJson))

/-- The models, with their files. -/
def modelRecords : List (String × Json) :=
  artifacts.models.map fun model =>
    (recordPath (Path.join output.root "models") model.name, model.toJson)

/-- All records with the paths of their files, in the order in which they are written. -/
def plan : List (String × Json) :=
  output.migrationRecords artifacts ++ [output.factoryRecord artifacts] ++
    output.modelRecords artifacts

end OutputDirectory

/-! ## Workspaces -/

/-- What stands in a workspace stands in directories, and so does whoever works in it. -/
structure Workspace.IsOrderly (workspace : Workspace) : Prop where
  nested : workspace.tree.IsNested
  working : workspace.tree.get? workspace.working = some .directory

instance (workspace : Workspace) : Decidable workspace.IsOrderly :=
  decidable_of_iff
    (workspace.tree.IsNested ∧ workspace.tree.get? workspace.working = some .directory)
    ⟨fun h => ⟨h.1, h.2⟩, fun h => ⟨h.nested, h.working⟩⟩

/-! ## Results -/

open OutputDirectory

variable {α β : Type}

/-- What a step gives, and the workspace it leaves. -/
def OutputDirectory.Writing.result (step : Writing (StateM Workspace) α) (workspace : Workspace) :
    Except FileFault α × Workspace := step.run.run workspace

namespace OutputDirectory

@[simp] theorem result_pure (a : α) (workspace : Workspace) :
    (pure a : Writing (StateM Workspace) α).result workspace = (.ok a, workspace) := rfl

@[simp] theorem result_throw (fault : FileFault) (workspace : Workspace) :
    (throw fault : Writing (StateM Workspace) α).result workspace = (.error fault, workspace) := rfl

@[simp] theorem result_liftM (operation : StateM Workspace α) (workspace : Workspace) :
    (liftM operation : Writing (StateM Workspace) α).result workspace =
      (.ok (operation workspace).1, (operation workspace).2) := rfl

@[simp] theorem result_lift (operation : StateM Workspace α) (workspace : Workspace) :
    Writing.result (ExceptT.lift operation) workspace =
      (.ok (operation workspace).1, (operation workspace).2) := rfl

theorem result_attempt (activity : Option String)
    (operation : StateM Workspace (Except FileProblem α)) (workspace : Workspace) :
    (attempt activity operation).result workspace =
      ((operation workspace).1.mapError fun problem => ⟨activity, problem⟩,
        (operation workspace).2) := by
  have hRun : operation workspace = StateT.run operation workspace := rfl
  unfold Writing.result attempt
  simp only [ExceptT.run_mk, StateT.run_bind, hRun]
  rcases StateT.run operation workspace with ⟨problem | a, after⟩ <;> rfl

theorem result_bind (step : Writing (StateM Workspace) α)
    (next : α → Writing (StateM Workspace) β) (workspace : Workspace) :
    (step >>= next).result workspace =
      match step.result workspace with
      | (.ok a, after) => (next a).result after
      | (.error fault, after) => (.error fault, after) := by
  unfold Writing.result
  simp only [ExceptT.run_bind, StateT.run_bind]
  rcases StateT.run step.run workspace with ⟨fault | a, after⟩ <;> rfl

theorem result_bind_eq_ok {step : Writing (StateM Workspace) α}
    {next : α → Writing (StateM Workspace) β} {workspace final : Workspace} {b : β} :
    (step >>= next).result workspace = (.ok b, final) ↔
      ∃ a after, step.result workspace = (.ok a, after) ∧
        (next a).result after = (.ok b, final) := by
  rw [result_bind]
  rcases step.result workspace with ⟨fault | a, after⟩
  · simp
  · constructor
    · intro h
      exact ⟨a, after, rfl, h⟩
    · rintro ⟨_, _, ⟨rfl, rfl⟩, h⟩
      exact h

theorem result_change_eq_ok {activity : Option String}
    {f : FileTree → Location → Except FileProblem FileTree} {workspace after : Workspace}
    {done : Unit} :
    (attempt activity (Workspace.change f)).result workspace = (.ok done, after) ↔
      ∃ tree, f workspace.tree workspace.working = .ok tree ∧ { workspace with tree } = after := by
  rw [result_attempt, Workspace.change]
  cases f workspace.tree workspace.working with
  | error problem => simp [Except.mapError]
  | ok tree => simp [Except.mapError]

theorem result_createDirectories_eq_ok {activity : Option String} {path : String}
    {workspace after : Workspace} {done : Unit} :
    (attempt activity (Workspace.host.createDirectories path)).result workspace =
        (.ok done, after) ↔
      ∃ tree, workspace.tree.makeDirectories workspace.working path = (.ok (), tree) ∧
        { workspace with tree } = after := by
  have hRun : Workspace.host.createDirectories path workspace =
      ((workspace.tree.makeDirectories workspace.working path).1,
        { workspace with tree := (workspace.tree.makeDirectories workspace.working path).2 }) := rfl
  rw [result_attempt, hRun]
  rcases workspace.tree.makeDirectories workspace.working path with ⟨problem | _, tree⟩
  · simp [Except.mapError]
  · simp [Except.mapError]

theorem exists_written_of_toOption {result : Except FileFault (List String) × Workspace}
    {paths : List String} (h : result.1.toOption = some paths) :
    ∃ after, result = (.ok paths, after) := by
  rcases result with ⟨_ | _, after⟩
  · cases h
  · cases h
    exact ⟨after, rfl⟩

/-! ## What steps leave, whatever becomes of them -/

/-- Whatever becomes of a step, it leaves a trail of deeds of a kind, which may depend on the
working directory. -/
def Leaves (Kind : Location → Deed → Prop) (step : Writing (StateM Workspace) α) : Prop :=
  ∀ workspace, (step.result workspace).2.working = workspace.working ∧
    ∃ deeds, Trail workspace.tree deeds (step.result workspace).2.tree ∧
      ∀ deed ∈ deeds, Kind workspace.working deed

section Leaves

variable {Kind : Location → Deed → Prop}

theorem leaves_of_looking {step : Writing (StateM Workspace) α}
    (hWorking : ∀ workspace, (step.result workspace).2.working = workspace.working)
    (hTree : ∀ workspace, (step.result workspace).2.tree = workspace.tree) : Leaves Kind step := by
  intro workspace
  refine ⟨hWorking workspace, [], ?_, by simp⟩
  rw [hTree]
  exact .done _

theorem leaves_pure (a : α) : Leaves Kind (pure a) := leaves_of_looking (fun _ => rfl) fun _ => rfl

theorem leaves_bind {step : Writing (StateM Workspace) α}
    {next : α → Writing (StateM Workspace) β} (hStep : Leaves Kind step)
    (hNext : ∀ a, Leaves Kind (next a)) : Leaves Kind (step >>= next) := by
  intro workspace
  obtain ⟨hWorking, deeds, hTrail, hKind⟩ := hStep workspace
  rw [result_bind]
  rcases hResult : step.result workspace with ⟨fault | a, after⟩
  · rw [hResult] at hWorking hTrail
    exact ⟨hWorking, deeds, hTrail, hKind⟩
  · rw [hResult] at hWorking hTrail
    obtain ⟨hWorking', more, hMore, hKind'⟩ := hNext a after
    -- both kinds are about the same working directory, since the first step has not left it
    rw [show after.working = workspace.working from hWorking] at hWorking' hKind'
    exact ⟨hWorking', deeds ++ more, hTrail.append hMore,
      List.forall_mem_append.mpr ⟨hKind, hKind'⟩⟩

theorem leaves_print (text : String) :
    Leaves Kind (liftM (Workspace.host.print text) : Writing (StateM Workspace) Unit) :=
  leaves_of_looking (fun _ => rfl) fun _ => rfl

theorem leaves_confirm (output : OutputDirectory) (question : String) :
    Leaves Kind (confirm Workspace.host output question) := by
  unfold confirm
  split
  · exact leaves_pure true
  · refine leaves_bind (leaves_of_looking (fun _ => rfl) fun _ => rfl) fun answer => ?_
    cases answer with
    | some answer => exact leaves_pure answer
    | none => exact leaves_of_looking (fun _ => rfl) fun _ => rfl

theorem leaves_createDirectories (hKind : ∀ working place, Kind working (.directory place))
    (activity : Option String) (path : String) :
    Leaves Kind (attempt activity (Workspace.host.createDirectories path)) := by
  intro workspace
  rw [result_attempt]
  obtain ⟨deeds, hTrail, hMakes⟩ :=
    workspace.tree.exists_trail_makeDirectories workspace.working path
  refine ⟨rfl, deeds, hTrail, fun deed hDeed => ?_⟩
  obtain ⟨place, -, rfl⟩ := hMakes deed hDeed
  exact hKind _ place

theorem leaves_change {f : FileTree → Location → Except FileProblem FileTree}
    (hDeed : ∀ tree working tree', f tree working = .ok tree' →
      ∃ deed, Trail tree [deed] tree' ∧ Kind working deed) (activity : Option String) :
    Leaves Kind (attempt activity (Workspace.change f)) := by
  intro workspace
  rw [result_attempt, Workspace.change]
  cases hResult : f workspace.tree workspace.working with
  | error problem => exact ⟨rfl, [], .done _, by simp⟩
  | ok tree =>
    obtain ⟨deed, hTrail, hKind⟩ := hDeed _ _ _ hResult
    exact ⟨rfl, [deed], hTrail, by simpa using hKind⟩

theorem leaves_removeDirectory {path : String}
    (hKind : ∀ working, Kind working (.clearing (Path.placeOf working path)))
    (activity : Option String) :
    Leaves Kind (attempt activity (Workspace.host.removeDirectory path)) :=
  leaves_change (fun _ working _ h => ⟨_, FileTree.trail_of_remove h, hKind working⟩) activity

theorem leaves_writeRecord {path : String} {record : Json}
    (hKind : ∀ working, Kind working (.record (Path.placeOf working path) (recordText record))) :
    Leaves Kind (writeRecord Workspace.host path record) := by
  refine leaves_bind ?_ fun _ => leaves_print _
  exact leaves_change (fun _ working _ h => ⟨_, (FileTree.trail_of_write h).1, hKind working⟩) _

theorem leaves_writeRecords {records : List (String × Json)}
    (hKind : ∀ entry ∈ records, ∀ working,
      Kind working (.record (Path.placeOf working entry.1) (recordText entry.2))) :
    Leaves Kind (writeRecords Workspace.host records) := by
  induction records with
  | nil => exact leaves_pure []
  | cons entry rest ih =>
    obtain ⟨hEntry, hRest⟩ := List.forall_mem_cons.mp hKind
    exact leaves_bind (leaves_writeRecord hEntry) fun _ =>
      leaves_bind (ih hRest) fun _ => leaves_pure _

theorem leaves_in_directory (hDirectories : ∀ working place, Kind working (.directory place))
    {records : List (String × Json)}
    (hRecords : ∀ entry ∈ records, ∀ working,
      Kind working (.record (Path.placeOf working entry.1) (recordText entry.2)))
    (activity : Option String) (path : String) :
    Leaves Kind (attempt activity (Workspace.host.createDirectories path) >>= fun _ =>
      writeRecords Workspace.host records) :=
  leaves_bind (leaves_createDirectories hDirectories activity path) fun _ =>
    leaves_writeRecords hRecords

theorem leaves_skip (path : String) : Leaves Kind (skip Workspace.host path) :=
  leaves_bind (leaves_print _) fun _ => leaves_pure _

theorem leaves_ite {condition : Prop} [Decidable condition]
    {step other : Writing (StateM Workspace) α} (hStep : Leaves Kind step)
    (hOther : Leaves Kind other) : Leaves Kind (if condition then step else other) := by
  split
  · exact hStep
  · exact hOther

end Leaves

/-- The deeds that `write` may do: directories are made, the migrations cleared away, and records of
the plan are written to their files. -/
def Planned (output : OutputDirectory) (artifacts : Artifacts) (working : Location) : Deed → Prop
  | .directory _ => True
  | .clearing place => place = Path.placeOf working output.migrationDirectory
  | .record place text => ∃ entry ∈ output.plan artifacts,
      place = Path.placeOf working entry.1 ∧ text = recordText entry.2

section Parts

variable {output : OutputDirectory} {artifacts : Artifacts} {Kind : Location → Deed → Prop}

theorem leaves_writeMigrations (hDirectories : ∀ working place, Kind working (.directory place))
    (hClearing : ∀ working, Kind working
      (.clearing (Path.placeOf working output.migrationDirectory)))
    (hRecords : ∀ entry ∈ output.migrationRecords artifacts, ∀ working,
      Kind working (.record (Path.placeOf working entry.1) (recordText entry.2))) :
    Leaves Kind (writeMigrations Workspace.host output artifacts.migrations) := by
  have hWrite := leaves_in_directory hDirectories hRecords none output.migrationDirectory
  unfold writeMigrations
  refine leaves_bind (leaves_of_looking (fun _ => rfl) fun _ => rfl) fun occupied => ?_
  refine leaves_ite (leaves_bind (leaves_confirm output _) fun answer => ?_) hWrite
  refine leaves_ite ?_ (leaves_skip _)
  exact leaves_bind (leaves_removeDirectory hClearing _) fun _ => hWrite

theorem leaves_writeFactories (hRecord : ∀ working, Kind working
      (.record (Path.placeOf working (output.factoryRecord artifacts).1)
        (recordText (output.factoryRecord artifacts).2))) :
    Leaves Kind (writeFactories Workspace.host output artifacts.factories) := by
  have hWrite : Leaves Kind (writeRecords Workspace.host [output.factoryRecord artifacts]) :=
    leaves_writeRecords (by simpa using hRecord)
  unfold writeFactories
  refine leaves_bind (leaves_of_looking (fun _ => rfl) fun _ => rfl) fun taken => ?_
  refine leaves_ite (leaves_bind (leaves_confirm output _) fun answer => ?_) hWrite
  exact leaves_ite hWrite (leaves_skip _)

/-- Looking for the first path that leads anywhere is looking for any. -/
theorem anyExists_eq_look (paths : List String) :
    anyExists Workspace.host paths =
      Workspace.look fun tree working => paths.any (tree.pathExists working) := by
  induction paths with
  | nil => rfl
  | cons path rest ih =>
    funext workspace
    change (if workspace.tree.pathExists workspace.working path = true
      then (pure true : StateM Workspace Bool) else anyExists Workspace.host rest) workspace = _
    rw [ih]
    unfold Workspace.look
    split
    · rename_i hPath
      simp only [List.any_cons, hPath, Bool.true_or]
      rfl
    · rename_i hPath
      rw [Bool.not_eq_true] at hPath
      simp only [List.any_cons, hPath, Bool.false_or]

theorem leaves_writeModels (hDirectories : ∀ working place, Kind working (.directory place))
    (hRecords : ∀ entry ∈ output.modelRecords artifacts, ∀ working,
      Kind working (.record (Path.placeOf working entry.1) (recordText entry.2))) :
    Leaves Kind (writeModels Workspace.host output artifacts.models) := by
  have hWrite := leaves_in_directory hDirectories hRecords none (Path.join output.root "models")
  unfold writeModels
  refine leaves_bind ?_ fun taken => ?_
  · rw [anyExists_eq_look]
    exact leaves_of_looking (fun _ => rfl) fun _ => rfl
  have hSkip : Leaves Kind (skip Workspace.host (Path.join output.root "models")) := leaves_skip _
  exact leaves_ite (leaves_bind (leaves_confirm output _) fun _ => leaves_ite hWrite hSkip)
    (leaves_bind (leaves_pure true) fun _ => leaves_ite hWrite hSkip)

end Parts

/-- **Whatever becomes of writing the artifacts, its deeds are planned ones.** -/
theorem leaves_write (output : OutputDirectory) (artifacts : Artifacts) :
    Leaves (output.Planned artifacts) (output.write Workspace.host artifacts) := by
  have hPlanned : ∀ entry ∈ output.plan artifacts, ∀ working,
      output.Planned artifacts working
        (.record (Path.placeOf working entry.1) (recordText entry.2)) :=
    fun entry hEntry working => ⟨entry, hEntry, rfl, rfl⟩
  unfold plan at hPlanned
  obtain ⟨hFront, hModels⟩ := List.forall_mem_append.mp hPlanned
  obtain ⟨hMigrations, hFactories⟩ := List.forall_mem_append.mp hFront
  have hDirectories : ∀ working place, output.Planned artifacts working (.directory place) :=
    fun _ _ => trivial
  refine leaves_bind (leaves_createDirectories hDirectories _ _) fun _ => ?_
  refine leaves_bind (leaves_writeMigrations hDirectories (fun _ => rfl) hMigrations) fun _ => ?_
  refine leaves_bind (leaves_writeFactories (by simpa using hFactories)) fun _ => ?_
  exact leaves_bind (leaves_writeModels hDirectories hModels) fun _ => leaves_pure _

end OutputDirectory

end SchemaScaffold
