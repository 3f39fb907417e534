import SchemaScaffold.Proofs.Output.Confinement

/-!
# Writing without a yes

Where no question is answered with yes, what is there already stays as it is. Each kind of output
has a question of its own in front of it, and the question is asked whenever a file of this kind
could come to stand where something stands.

* `OutputDirectory.Unconfirmed`: no question is answered with yes.
* `Spares`: a run takes nothing away, and writes only where a tree holds nothing.
* `Spared`: whatever becomes of a step, its run spares a tree; one lemma for each step.
* `write_spares`: writing artifacts without a yes spares all that was there.
-/

namespace SchemaScaffold

open OutputDirectory

/-- No question is answered with yes: each is declined, or there is nobody to ask. -/
structure OutputDirectory.Unconfirmed (output : OutputDirectory) (workspace : Workspace) :
    Prop where
  assumeYes : output.assumeYes = false
  answers : ∀ question, workspace.answers question ≠ some true

/-! ## Runs that spare a tree -/

/-- From one workspace to another one nothing is taken away, and files are written only where a tree
holds nothing. -/
structure Spares (kept : FileTree) (before after : Workspace) : Prop where
  working_eq : after.working = before.working
  answers_eq : after.answers = before.answers
  trail : ∃ deeds, Trail before.tree deeds after.tree ∧ (∀ deed ∈ deeds, deed.adds = true) ∧
    ∀ place text, .record place text ∈ deeds → kept.get? place = none

namespace Spares

variable {kept : FileTree} {before middle after : Workspace}

theorem of_tree_eq (hWorking : after.working = before.working)
    (hAnswers : after.answers = before.answers) (hTree : after.tree = before.tree) :
    Spares kept before after :=
  ⟨hWorking, hAnswers, [], hTree ▸ .done _, by simp, by simp⟩

theorem refl (kept : FileTree) (before : Workspace) : Spares kept before before :=
  .of_tree_eq rfl rfl rfl

theorem trans (h : Spares kept before middle) (h' : Spares kept middle after) :
    Spares kept before after := by
  obtain ⟨deeds, hTrail, hAdds, hRecords⟩ := h.trail
  obtain ⟨deeds', hTrail', hAdds', hRecords'⟩ := h'.trail
  refine ⟨h'.working_eq.trans h.working_eq, h'.answers_eq.trans h.answers_eq, deeds ++ deeds',
    hTrail.append hTrail', List.forall_mem_append.mpr ⟨hAdds, hAdds'⟩, fun place text hDeed => ?_⟩
  exact (List.mem_append.mp hDeed).elim (hRecords place text) (hRecords' place text)

theorem grows (h : Spares kept before after) : before.tree.Extends after.tree :=
  let ⟨_, hTrail, hAdds, _⟩ := h.trail
  hTrail.grows hAdds

/-- What the tree holds stays as it is. -/
theorem get?_eq (h : Spares before.tree before after) {place : Location} {entry : FileEntry}
    (hEntry : before.tree.get? place = some entry) : after.tree.get? place = some entry := by
  obtain ⟨deeds, hTrail, hAdds, hRecords⟩ := h.trail
  refine hTrail.get?_eq hAdds (fun text hDeed => ?_) hEntry
  rw [hRecords place text hDeed] at hEntry
  cases hEntry

end Spares

/-- Whatever becomes of a step, its run spares a tree; and a result that it gives is as it should
be. -/
def Spared {α : Type} (kept : FileTree) (step : Writing (StateM Workspace) α) (before : Workspace)
    (Post : α → Workspace → Prop) : Prop :=
  Spares kept before (step.result before).2 ∧
    ∀ a, (step.result before).1 = .ok a → Post a (step.result before).2

namespace Spared

variable {α β : Type} {kept : FileTree} {before : Workspace} {Post : α → Workspace → Prop}

theorem pure {a : α} (h : Post a before) : Spared kept (Pure.pure a) before Post :=
  ⟨.refl kept before, fun _ hResult => Except.ok.inj hResult ▸ h⟩

theorem bind {step : Writing (StateM Workspace) α} {next : α → Writing (StateM Workspace) β}
    {Post' : β → Workspace → Prop} (hStep : Spared kept step before Post)
    (hNext : ∀ a middle, Spares kept before middle → Post a middle →
      Spared kept (next a) middle Post') : Spared kept (step >>= next) before Post' := by
  obtain ⟨hSpares, hPost⟩ := hStep
  unfold Spared
  rw [result_bind]
  rcases hResult : step.result before with ⟨fault | a, middle⟩
  · rw [hResult] at hSpares
    exact ⟨hSpares, nofun⟩
  · rw [hResult] at hSpares hPost
    obtain ⟨hSpares', hPost'⟩ := hNext a middle hSpares (hPost a rfl)
    exact ⟨hSpares.trans hSpares', hPost'⟩

/-- Looking at the workspace changes nothing. -/
theorem look {step : Writing (StateM Workspace) α} (f : Workspace → α)
    (h : step.result before = (.ok (f before), before)) :
    Spared kept step before fun a after => after = before ∧ f before = a := by
  unfold Spared
  rw [h]
  exact ⟨.refl kept before, fun _ hResult => ⟨rfl, Except.ok.inj hResult⟩⟩

theorem print (text : String) :
    Spared kept (liftM (Workspace.host.print text) : Writing (StateM Workspace) Unit) before
      fun _ _ => True :=
  ⟨.of_tree_eq rfl rfl rfl, fun _ _ => trivial⟩

end Spared

/-! ## What each step spares -/

namespace OutputDirectory

variable {kept : FileTree} {output : OutputDirectory} {artifacts : Artifacts} {before : Workspace}

/-- The paths lead to places where a tree holds nothing. -/
def Fresh (kept : FileTree) (working : Location) (paths : List String) : Prop :=
  ∀ path ∈ paths, kept.get? (Path.placeOf working path) = none

theorem Unconfirmed.of_spares {after : Workspace} (h : output.Unconfirmed before)
    (hSpares : Spares kept before after) : output.Unconfirmed after :=
  ⟨h.assumeYes, hSpares.answers_eq ▸ h.answers⟩

theorem spared_hasEntries (path : String) :
    Spared kept (liftM (Workspace.host.hasEntries path) : Writing (StateM Workspace) Bool) before
      fun occupied after =>
        after = before ∧ before.tree.hasEntries before.working path = occupied :=
  .look (fun workspace => workspace.tree.hasEntries workspace.working path) rfl

theorem spared_pathExists (path : String) :
    Spared kept (liftM (Workspace.host.pathExists path) : Writing (StateM Workspace) Bool) before
      fun taken after => after = before ∧ before.tree.pathExists before.working path = taken :=
  .look (fun workspace => workspace.tree.pathExists workspace.working path) rfl

theorem spared_anyExists (paths : List String) :
    Spared kept (ExceptT.lift (anyExists Workspace.host paths)) before fun taken after =>
      after = before ∧ paths.any (before.tree.pathExists before.working) = taken := by
  rw [anyExists_eq_look]
  exact .look (fun workspace => paths.any (workspace.tree.pathExists workspace.working)) rfl

/-- A question is not answered with yes, if it is answered at all. -/
theorem spared_confirm (h : output.Unconfirmed before) (question : String) :
    Spared kept (confirm Workspace.host output question) before
      fun answer after => after = before ∧ answer = false := by
  have hAsk : Spared kept
      (liftM (Workspace.host.ask question) : Writing (StateM Workspace) (Option Bool)) before
      fun answer after => after = before ∧ before.answers question = answer :=
    .look (fun workspace => workspace.answers question) rfl
  unfold confirm
  rw [h.assumeYes, if_neg Bool.false_ne_true]
  refine hAsk.bind fun answer middle _ ⟨hMiddle, hAnswer⟩ => ?_
  subst hMiddle
  cases answer with
  | none => exact ⟨.refl kept middle, nofun⟩
  | some answer =>
    cases answer with
    | true => exact absurd hAnswer (h.answers question)
    | false => exact .pure ⟨rfl, rfl⟩

theorem spared_skip (path : String) :
    Spared kept (skip Workspace.host path) before fun paths _ => Fresh kept before.working paths :=
  (Spared.print _).bind fun _ _ _ _ => .pure (by simp [Fresh])

/-- Whatever is asked about, it is skipped. -/
theorem spared_question (h : output.Unconfirmed before) (question path : String)
    (next : Writing (StateM Workspace) (List String)) :
    Spared kept (confirm Workspace.host output question >>= fun answer =>
      if answer = true then next else skip Workspace.host path) before
      fun paths _ => Fresh kept before.working paths := by
  refine (spared_confirm h question).bind fun answer middle _ ⟨hMiddle, hAnswer⟩ => ?_
  subst hMiddle hAnswer
  exact spared_skip path

theorem spared_createDirectories (activity : Option String) (path : String) :
    Spared kept (attempt activity (Workspace.host.createDirectories path)) before fun _ after =>
      before.tree.makeDirectories before.working path = (.ok (), after.tree) := by
  obtain ⟨deeds, hTrail, hMakes⟩ := before.tree.exists_trail_makeDirectories before.working path
  refine ⟨?_, fun done hResult => ?_⟩
  · rw [result_attempt]
    exact ⟨rfl, rfl, deeds, hTrail, hMakes.adds,
      fun place text hDeed => absurd hDeed (hMakes.record_not_mem place text)⟩
  · obtain ⟨tree, hMade, hAfter⟩ := result_createDirectories_eq_ok.mp (Prod.ext hResult rfl)
    exact hMade.trans (congrArg (fun workspace : Workspace => (Except.ok (), workspace.tree))
      hAfter)

/-- Where a record can be written at all, a tree holds nothing. A path that is refused as it is leads
nowhere, whatever stands at its place. -/
def Vacant (kept : FileTree) (working : Location) (records : List (String × Json)) : Prop :=
  ∀ entry ∈ records, ∀ tree tree' : FileTree,
    tree.write working entry.1 (recordText entry.2) = .ok tree' →
      kept.get? (Path.placeOf working entry.1) = none

theorem spared_writeRecord {path : String} {record : Json}
    (h : Vacant kept before.working [(path, record)]) :
    Spared kept (writeRecord Workspace.host path record) before
      fun _ _ => Fresh kept before.working [path] := by
  have hWrite : Spared kept (attempt (some ("failed to write " ++ path))
      (Workspace.change fun tree working => tree.write working path (recordText record))) before
      fun _ _ => Fresh kept before.working [path] := by
    unfold Spared
    rw [result_attempt, Workspace.change]
    cases hTree : before.tree.write before.working path (recordText record) with
    | error problem => exact ⟨.refl kept before, by simp [Except.mapError]⟩
    | ok tree =>
      have hNone := h _ (List.mem_singleton_self _) _ _ hTree
      refine ⟨⟨rfl, rfl, _, (FileTree.trail_of_write hTree).1, by simp [Deed.adds], ?_⟩,
        fun _ _ => by simpa [Fresh] using hNone⟩
      intro place text hDeed
      simp only [List.mem_singleton, Deed.record.injEq] at hDeed
      rw [hDeed.1]
      exact hNone
  exact hWrite.bind fun _ _ _ hFresh => ⟨.of_tree_eq rfl rfl rfl, fun _ _ => hFresh⟩

theorem spared_writeRecords {records : List (String × Json)}
    (h : Vacant kept before.working records) :
    Spared kept (writeRecords Workspace.host records) before
      fun paths _ => Fresh kept before.working paths := by
  induction records generalizing before with
  | nil => exact .pure (by simp [Fresh])
  | cons entry rest ih =>
    obtain ⟨hEntry, hRest⟩ := List.forall_mem_cons.mp h
    refine (spared_writeRecord (by simpa [Vacant] using hEntry)).bind
      fun _ middle hSpares hFirst => ?_
    rw [← hSpares.working_eq] at hRest
    refine (ih hRest).bind fun paths last _ hPaths => .pure ?_
    rw [hSpares.working_eq] at hPaths
    exact List.forall_mem_cons.mpr ⟨hFirst entry.1 (List.mem_singleton_self _), hPaths⟩

/-! ## What the questions are asked about -/

/-- Where a run has come to behind the root: what a tree holds is still there, the root is reached,
and no question will be answered with yes. -/
structure Underway (kept : FileTree) (output : OutputDirectory) (workspace : Workspace) :
    Prop where
  nested : kept.IsNested
  extends_tree : kept.Extends workspace.tree
  reaches : workspace.tree.Reaches workspace.working output.root
  unconfirmed : output.Unconfirmed workspace

namespace Underway

variable {directory name : String}

theorem of_spares {after : Workspace} (h : Underway kept output before)
    (hSpares : Spares kept before after) : Underway kept output after where
  nested := h.nested
  extends_tree := h.extends_tree.trans hSpares.grows
  reaches := by
    rw [hSpares.working_eq]
    exact h.reaches.mono hSpares.grows
  unconfirmed := h.unconfirmed.of_spares hSpares

/-- One of the directories below the root is reached if something stood in it. -/
theorem reaches_directory (h : Underway kept output before)
    (hDirectory : directory = "migrations" ∨ directory = "models") {entry : FileEntry}
    (hEntry : kept.get? (Path.placeOf before.working (Path.join output.root directory) ++ [name]) =
      some entry) : before.tree.Reaches before.working (Path.join output.root directory) := by
  have hName : '/' ∉ directory.toList ∧ directory ≠ "" ∧ directory ≠ "." ∧ directory ≠ ".." ∧
      directory.utf8ByteSize ≤ FileTree.maxName := by
    rcases hDirectory with rfl | rfl <;> decide
  exact h.reaches.enter hName (h.extends_tree.directory (h.nested.get?_parent hEntry))

/-- Nothing stood in the directory of migrations if it has no entries. -/
theorem get?_migration (h : Underway kept output before)
    (hEmpty : before.tree.hasEntries before.working output.migrationDirectory = false)
    {tree : FileTree}
    (hMade : before.tree.makeDirectories before.working output.migrationDirectory = (.ok (), tree))
    (name : String) :
    kept.get? (Path.placeOf before.working output.migrationDirectory ++ [name]) = none := by
  by_contra hSome
  obtain ⟨entry, hEntry⟩ := Option.ne_none_iff_exists'.mp hSome
  -- what stood there still does, so that the directory has entries
  obtain ⟨entry', hEntry'⟩ := h.extends_tree.exists_get? hEntry
  have hFound := FileTree.locate_of_makeDirectories (Path.join_ne_empty _ (by decide)) hMade
  have hReaches : before.tree.Reaches before.working output.migrationDirectory :=
    h.reaches_directory (Or.inl rfl) hEntry
  rw [hReaches.hasEntries hFound, FileTree.hasChild_of_get? hEntry'] at hEmpty
  cases hEmpty

/-- Nothing stood where a file can be written whose path leads nowhere. -/
theorem get?_file (h : Underway kept output before)
    (hReaches : ∀ entry, kept.get? (Path.placeOf before.working directory ++ [name]) = some entry →
      before.tree.Reaches before.working directory)
    (hName : '/' ∉ name.toList ∧ name ≠ "" ∧ name ≠ "." ∧ name ≠ "..")
    (hMissing : before.tree.pathExists before.working (Path.join directory name) = false)
    {tree tree' : FileTree} {text : String}
    (hWrite : tree.write before.working (Path.join directory name) text = .ok tree') :
    kept.get? (Path.placeOf before.working (Path.join directory name)) = none := by
  obtain ⟨hSlash, hNonempty, hDot, hDots⟩ := hName
  rw [Path.placeOf_join_file before.working directory hSlash hNonempty hDot hDots]
  by_contra hSome
  obtain ⟨entry, hEntry⟩ := Option.ne_none_iff_exists'.mp hSome
  obtain ⟨entry', hEntry'⟩ := h.extends_tree.exists_get? hEntry
  have hThere := (hReaches entry hEntry).pathExists ⟨hSlash, hNonempty, hDot, hDots⟩ hEntry' hWrite
  rw [hThere] at hMissing
  cases hMissing

theorem vacant_migrationRecords (h : Underway kept output before)
    (hPlain : ∀ migration ∈ artifacts.migrations, '/' ∉ migration.name.toList)
    (hEmpty : before.tree.hasEntries before.working output.migrationDirectory = false)
    {tree : FileTree}
    (hMade : before.tree.makeDirectories before.working output.migrationDirectory =
      (.ok (), tree)) :
    Vacant kept before.working (output.migrationRecords artifacts) := by
  intro entry hEntry _ _ _
  obtain ⟨migration, hMem, rfl⟩ := List.mem_map.mp hEntry
  rw [placeOf_recordPath before.working _ (hPlain migration hMem)]
  exact h.get?_migration hEmpty hMade _

theorem vacant_factoryRecord (h : Underway kept output before)
    (hMissing : before.tree.pathExists before.working (output.factoryRecord artifacts).1 = false) :
    Vacant kept before.working [output.factoryRecord artifacts] := by
  intro entry hEntry _ _ hWrite
  obtain rfl := List.mem_singleton.mp hEntry
  exact h.get?_file (fun _ _ => h.reaches) (by decide) hMissing hWrite

theorem vacant_modelRecords (h : Underway kept output before)
    (hPlain : ∀ model ∈ artifacts.models, '/' ∉ model.name.toList)
    (hMissing : ∀ entry ∈ output.modelRecords artifacts,
      before.tree.pathExists before.working entry.1 = false) :
    Vacant kept before.working (output.modelRecords artifacts) := by
  intro entry hEntry _ _ hWrite
  have hNone := hMissing entry hEntry
  obtain ⟨model, hMem, rfl⟩ := List.mem_map.mp hEntry
  exact h.get?_file (fun _ => h.reaches_directory (Or.inr rfl))
    (plain_recordName (hPlain model hMem)) hNone hWrite

end Underway

/-! ## The three kinds of output -/

theorem spared_in_directory {activity : Option String} {path : String}
    {records : List (String × Json)}
    (h : ∀ tree, before.tree.makeDirectories before.working path = (.ok (), tree) →
      Vacant kept before.working records) :
    Spared kept (attempt activity (Workspace.host.createDirectories path) >>= fun _ =>
      writeRecords Workspace.host records) before
      fun paths _ => Fresh kept before.working paths := by
  refine (spared_createDirectories activity path).bind fun _ middle hSpares hMade => ?_
  rw [← hSpares.working_eq] at h ⊢
  exact spared_writeRecords (h _ (hSpares.working_eq ▸ hMade))

theorem spared_writeMigrations (h : Underway kept output before)
    (hPlain : ∀ migration ∈ artifacts.migrations, '/' ∉ migration.name.toList) :
    Spared kept (writeMigrations Workspace.host output artifacts.migrations) before
      fun paths _ => Fresh kept before.working paths := by
  unfold writeMigrations
  refine (spared_hasEntries _).bind fun occupied middle _ ⟨hMiddle, hOccupied⟩ => ?_
  subst hMiddle
  cases occupied with
  | true => exact spared_question h.unconfirmed _ _ _
  | false =>
    exact spared_in_directory fun _ hMade => h.vacant_migrationRecords hPlain hOccupied hMade

theorem spared_writeFactories (h : Underway kept output before) :
    Spared kept (writeFactories Workspace.host output artifacts.factories) before
      fun paths _ => Fresh kept before.working paths := by
  unfold writeFactories
  refine (spared_pathExists _).bind fun taken middle _ ⟨hMiddle, hTaken⟩ => ?_
  subst hMiddle
  cases taken with
  | true => exact spared_question h.unconfirmed _ _ _
  | false => exact spared_writeRecords (h.vacant_factoryRecord hTaken)

theorem spared_writeModels (h : Underway kept output before)
    (hPlain : ∀ model ∈ artifacts.models, '/' ∉ model.name.toList) :
    Spared kept (writeModels Workspace.host output artifacts.models) before
      fun paths _ => Fresh kept before.working paths := by
  unfold writeModels
  refine (spared_anyExists _).bind fun taken middle _ ⟨hMiddle, hTaken⟩ => ?_
  subst hMiddle
  cases taken with
  | true => exact spared_question h.unconfirmed _ _ _
  | false =>
    rw [if_neg Bool.false_ne_true, pure_bind]
    beta_reduce
    rw [if_pos rfl]
    refine spared_in_directory fun _ _ => h.vacant_modelRecords hPlain fun entry hEntry => ?_
    exact Bool.eq_false_iff.mpr
      (List.any_eq_false.mp hTaken entry.1 (List.mem_map_of_mem hEntry))

/-- **Without a yes, what is there already stays as it is.** Whether writing succeeds or fails,
nothing is taken away, files are written only where nothing stood, and the paths that are given are
paths of new files. -/
theorem write_spares (hOrderly : before.IsOrderly) (hUnconfirmed : output.Unconfirmed before)
    (hMigrations : ∀ migration ∈ artifacts.migrations, '/' ∉ migration.name.toList)
    (hModels : ∀ model ∈ artifacts.models, '/' ∉ model.name.toList) :
    let result := (output.write Workspace.host artifacts).result before
    (∀ place entry, before.tree.get? place = some entry →
      result.2.tree.get? place = some entry) ∧
    Spares before.tree before result.2 ∧
    ∀ paths, result.1 = .ok paths → Fresh before.tree before.working paths := by
  have hWrite : Spared before.tree (output.write Workspace.host artifacts) before
      fun paths _ => Fresh before.tree before.working paths := by
    refine (spared_createDirectories _ _).bind fun _ rooted hRooted hMade => ?_
    have hRoot : Underway before.tree output rooted := {
      nested := hOrderly.nested
      extends_tree := hRooted.grows
      reaches := by
        rw [hRooted.working_eq]
        exact FileTree.reaches_of_makeDirectories hOrderly.working hMade
      unconfirmed := hUnconfirmed.of_spares hRooted }
    refine (spared_writeMigrations hRoot hMigrations).bind fun first migrated hFirst hFresh => ?_
    have hMigrated := hRoot.of_spares hFirst
    refine (spared_writeFactories hMigrated).bind fun second manufactured hSecond hFresh' => ?_
    have hManufactured := hMigrated.of_spares hSecond
    refine (spared_writeModels hManufactured hModels).bind fun third last _ hFresh'' => .pure ?_
    -- no step has left the working directory, from which all paths lead
    rw [hSecond.working_eq] at hFresh''
    rw [hFirst.working_eq] at hFresh' hFresh''
    rw [hRooted.working_eq] at hFresh hFresh' hFresh''
    exact List.forall_mem_append.mpr ⟨List.forall_mem_append.mpr ⟨hFresh, hFresh'⟩, hFresh''⟩
  exact ⟨fun _ _ hEntry => hWrite.1.get?_eq hEntry, hWrite.1, hWrite.2⟩

end OutputDirectory

/-- A workspace with factories and a model of some earlier output. Questions are declined. -/
def workspaceWithOutput : Workspace where
  tree := ⟨[(["out"], .directory), (["out", "factory.json"], .file "kept"),
    (["out", "models"], .directory), (["out", "models", "Old.json"], .file "old")]⟩
  working := []
  answers := fun _ => some false

/-- The factories are skipped, and migrations and a model are written beside what is there. -/
theorem write_spares_factories :
    ∃ artifacts final after,
      (convert "_" (.suffix : Policy Unit) newsOfLink).result () = (.ok artifacts, final) ∧
      (OutputDirectory.write Workspace.host { root := "out" } artifacts).result
        workspaceWithOutput = (.ok ["out/migrations/news.json", "out/migrations/news_mail.json",
          "out/models/News.json"], after) ∧
      after.tree.get? ["out", "factory.json"] = some (.file "kept") ∧
      after.tree.get? ["out", "models", "Old.json"] = some (.file "old") ∧
      workspaceWithOutput.tree.get? ["out", "models", "News.json"] = none := by
  have hPaths : ((convert "_" (.suffix : Policy Unit) newsOfLink).result ()).1.toOption.map
      (fun artifacts => (
        ((OutputDirectory.write Workspace.host { root := "out" } artifacts).result
          workspaceWithOutput).1.toOption,
        artifacts.migrations.all fun migration => '/' ∉ migration.name.toList,
        artifacts.models.all fun model => '/' ∉ model.name.toList)) =
      some (some ["out/migrations/news.json", "out/migrations/news_mail.json",
        "out/models/News.json"], true, true) := by
    decide +kernel
  obtain ⟨artifacts, hConvert, hEq⟩ := exists_result_of_map hPaths
  obtain ⟨hPaths, hPlain⟩ := Prod.mk.inj hEq
  obtain ⟨hMigrations, hModels⟩ := Prod.mk.inj hPlain
  obtain ⟨after, hWrite⟩ := exists_written_of_toOption hPaths
  have hOrderly : workspaceWithOutput.IsOrderly := by decide +kernel
  have hUnconfirmed : OutputDirectory.Unconfirmed { root := "out" } workspaceWithOutput :=
    ⟨rfl, fun _ => by simp [workspaceWithOutput]⟩
  obtain ⟨hKept, -, hFresh⟩ := write_spares hOrderly hUnconfirmed
    (by simpa using hMigrations) (by simpa using hModels)
  rw [hWrite] at hKept hFresh
  refine ⟨artifacts, (), after, hConvert, hWrite, hKept _ _ (by decide), hKept _ _ (by decide), ?_⟩
  exact hFresh _ rfl "out/models/News.json" (by simp)

end SchemaScaffold
