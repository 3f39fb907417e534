import SchemaScaffold.Proofs.Artifacts.Names
import SchemaScaffold.Proofs.Output.Steps

/-!
# Where artifacts are written

* `OutputDirectory.Contains`: the places below an output directory that are meant for artifacts.
* `placeOf_recordPath`: a record whose name has no slash goes right into its directory.
* `write_confined`: what is written elsewhere goes where the name of a table with a slash leads.
* `write_overwrites_notes`: such a name does lead out of the output directory.
-/

namespace SchemaScaffold

open OutputDirectory

/-! ## Places for records -/

/-- The place of the one file for factories, and those right below the two directories. -/
def OutputDirectory.Contains (output : OutputDirectory) (working place : Location) : Prop :=
  ∃ tail, place = Path.placeOf working output.root ++ tail ∧
    (tail = ["factory.json"] ∨ ∃ name, tail = ["migrations", name] ∨ tail = ["models", name])

/-- The file of a record whose name has no slash is named by a plain name. -/
theorem plain_recordName {name : String} (h : '/' ∉ name.toList) :
    '/' ∉ (name ++ ".json").toList ∧ name ++ ".json" ≠ "" ∧ name ++ ".json" ≠ "." ∧
      name ++ ".json" ≠ ".." := by
  have hSlash : '/' ∉ (name ++ ".json").toList := by
    rw [String.toList_append, List.mem_append, not_or]
    exact ⟨h, by decide⟩
  have hNe {text : String} (hText : 'j' ∉ text.toList) : name ++ ".json" ≠ text := by
    rintro rfl
    simp at hText
  exact ⟨hSlash, hNe (by decide), hNe (by decide), hNe (by decide)⟩

/-- A record whose name has no slash goes right into its directory. -/
theorem placeOf_recordPath (working : Location) (directory : String) {name : String}
    (h : '/' ∉ name.toList) :
    Path.placeOf working (recordPath directory name) =
      Path.placeOf working directory ++ [name ++ ".json"] := by
  obtain ⟨hSlash, hNonempty, hDot, hDots⟩ := plain_recordName h
  exact Path.placeOf_join_file working directory hSlash hNonempty hDot hDots

/-- A record goes right into a directory below the root, if neither name has a slash. -/
theorem placeOf_recordPath_join (output : OutputDirectory) (working : Location)
    {directory name : String} (hSlash : '/' ∉ directory.toList)
    (hDirectory : directory ≠ "" ∧ directory ≠ "." ∧ directory ≠ "..") (h : '/' ∉ name.toList) :
    Path.placeOf working (recordPath (Path.join output.root directory) name) =
      Path.placeOf working output.root ++ [directory, name ++ ".json"] := by
  obtain ⟨hNe, hDot, hDots⟩ := hDirectory
  rw [placeOf_recordPath working _ h,
    Path.placeOf_join_file working output.root hSlash hNe hDot hDots, List.append_assoc]
  rfl

theorem placeOf_migrationRecord (output : OutputDirectory) (working : Location) {name : String}
    (h : '/' ∉ name.toList) :
    Path.placeOf working (recordPath output.migrationDirectory name) =
      Path.placeOf working output.root ++ ["migrations", name ++ ".json"] :=
  placeOf_recordPath_join output working (by decide) (by decide) h

theorem placeOf_modelRecord (output : OutputDirectory) (working : Location) {name : String}
    (h : '/' ∉ name.toList) :
    Path.placeOf working (recordPath (Path.join output.root "models") name) =
      Path.placeOf working output.root ++ ["models", name ++ ".json"] :=
  placeOf_recordPath_join output working (by decide) (by decide) h

theorem placeOf_factoryRecord (output : OutputDirectory) (artifacts : Artifacts)
    (working : Location) :
    Path.placeOf working (output.factoryRecord artifacts).1 =
      Path.placeOf working output.root ++ ["factory.json"] :=
  Path.placeOf_join_file working output.root (by decide) (by decide) (by decide) (by decide)

/-! ## Confinement -/

variable {σ : Type}

/-- The place to which the name of a declared table with a slash leads from the migrations. -/
def Document.Strays (document : Document) (output : OutputDirectory) (working place : Location) :
    Prop :=
  ∃ decl ∈ document.tables, '/' ∈ decl.name.toList ∧
    place = Path.placeOf working (recordPath output.migrationDirectory decl.name)

theorem contains_of_mem_plan {separator : String} {policy : Policy σ} {document : Document}
    {state final : σ} {artifacts : Artifacts}
    (h : (convert separator policy document).result state = (.ok artifacts, final))
    (output : OutputDirectory) (working : Location) {entry : String × Json}
    (hEntry : entry ∈ output.plan artifacts) :
    output.Contains working (Path.placeOf working entry.1) ∨
      document.Strays output working (Path.placeOf working entry.1) := by
  unfold plan at hEntry
  simp only [List.mem_append, List.mem_singleton] at hEntry
  rcases hEntry with (hMigration | rfl) | hModel
  · obtain ⟨migration, hMem, rfl⟩ := List.mem_map.mp hMigration
    obtain ⟨decl, hDecl, hName⟩ : ∃ decl ∈ document.tables, decl.name = migration.name := by
      have hNames := List.mem_map_of_mem (f := Migration.name) hMem
      rw [convert_migrations_name h] at hNames
      exact List.mem_map.mp hNames
    by_cases hSlash : '/' ∈ migration.name.toList
    · exact Or.inr ⟨decl, hDecl, hName ▸ hSlash, hName ▸ rfl⟩
    · exact Or.inl ⟨["migrations", migration.name ++ ".json"],
        placeOf_migrationRecord output working hSlash, Or.inr ⟨_, Or.inl rfl⟩⟩
  · exact Or.inl ⟨["factory.json"], placeOf_factoryRecord output artifacts working, Or.inl rfl⟩
  · obtain ⟨model, hMem, rfl⟩ := List.mem_map.mp hModel
    have hPlain := convert_slash_not_mem_model_name h model hMem
    exact Or.inl ⟨["models", model.name ++ ".json"],
      placeOf_modelRecord output working hPlain, Or.inr ⟨_, Or.inr rfl⟩⟩

/-- **Artifacts are written into their output directory, unless a table has a slash in its name.**
Whatever the answers to the questions, and whether writing succeeds or fails, every file that is new
or changed afterwards is the one for factories, or stands right below one of the two directories; or
the name of a table with a slash leads to it from the migrations. -/
theorem write_confined {separator : String} {policy : Policy σ} {document : Document}
    {state final : σ} {artifacts : Artifacts}
    (h : (convert separator policy document).result state = (.ok artifacts, final))
    (output : OutputDirectory) (workspace : Workspace) (place : Location) (text : String)
    (hFile : ((output.write Workspace.host artifacts).result workspace).2.tree.get? place =
      some (.file text))
    (hNew : workspace.tree.get? place ≠ some (.file text)) :
    output.Contains workspace.working place ∨ document.Strays output workspace.working place := by
  obtain ⟨-, deeds, hTrail, hPlanned⟩ := leaves_write output artifacts workspace
  rcases hTrail.file_cases hFile with hOld | hDeed
  · exact absurd hOld hNew
  · obtain ⟨entry, hEntry, rfl, -⟩ := hPlanned _ hDeed
    exact contains_of_mem_plan h output workspace.working hEntry

/-- An output directory whose questions are all answered with yes. -/
def outputHere : OutputDirectory := { root := "out", assumeYes := true }

/-- A workspace that holds nothing but some notes. -/
def workspaceWithNotes : Workspace where
  tree := ⟨[(["notes.json"], .file "kept")]⟩
  working := []

/-- The text of a file after artifacts have been written beside the notes. -/
def textAfterwards? (place : Location) (artifacts : Artifacts) : Option String :=
  match ((outputHere.write Workspace.host artifacts).result workspaceWithNotes).2.tree.get?
      place with
  | some (.file text) => some text
  | _ => none

theorem textAfterwards?_eq_some_iff {place : Location} {artifacts : Artifacts} {text : String} :
    textAfterwards? place artifacts = some text ↔
      ((outputHere.write Workspace.host artifacts).result workspaceWithNotes).2.tree.get? place =
        some (.file text) := by
  unfold textAfterwards?
  split
  · rename_i hText
    simp [hText]
  · rename_i hNone
    simpa using hNone text

/-- The model of news is written into the output directory, beside the notes. -/
theorem write_confined_newsOfLink :
    ∃ artifacts final text,
      (convert "_" (.suffix : Policy Unit) newsOfLink).result () = (.ok artifacts, final) ∧
      textAfterwards? ["out", "models", "News.json"] artifacts = some text ∧
      outputHere.Contains [] ["out", "models", "News.json"] := by
  have hWritten : ((convert "_" (.suffix : Policy Unit) newsOfLink).result ()).1.toOption.map
      (fun artifacts => (textAfterwards? ["out", "models", "News.json"] artifacts).isSome) =
      some true := by
    decide +kernel
  obtain ⟨artifacts, hConvert, hSome⟩ := exists_result_of_map hWritten
  obtain ⟨text, hText⟩ := Option.isSome_iff_exists.mp hSome
  refine ⟨artifacts, (), text, hConvert, hText, ?_⟩
  have hBefore : workspaceWithNotes.tree.get? ["out", "models", "News.json"] = none := by decide
  have hConfined := write_confined hConvert outputHere workspaceWithNotes _ text
    (textAfterwards?_eq_some_iff.mp hText) (by simp [hBefore])
  refine hConfined.resolve_right ?_
  rintro ⟨decl, hDecl, hSlash, -⟩
  have hPlain : ∀ decl ∈ newsOfLink.tables, '/' ∉ decl.name.toList := by decide +kernel
  exact hPlain decl hDecl hSlash

/-- A table whose name leads out of two directories. -/
def tableOutside : Document where
  tables := [⟨"1", "../../notes", false, false⟩]
  columns := .ofList [("1", [{ id := "11", name := "id" }])]
  relations := []

/-- **The name of a table can lead out of the output directory**: the notes beside it are
overwritten. -/
theorem write_overwrites_notes :
    ∃ artifacts final text,
      (convert "_" (.suffix : Policy Unit) tableOutside).result () = (.ok artifacts, final) ∧
      workspaceWithNotes.tree.get? ["notes.json"] = some (.file "kept") ∧
      textAfterwards? ["notes.json"] artifacts = some text ∧ text ≠ "kept" ∧
      ¬ outputHere.Contains workspaceWithNotes.working ["notes.json"] := by
  have hWritten : ((convert "_" (.suffix : Policy Unit) tableOutside).result ()).1.toOption.map
      (fun artifacts => (textAfterwards? ["notes.json"] artifacts).any (· ≠ "kept")) =
      some true := by
    decide +kernel
  obtain ⟨artifacts, hConvert, hAny⟩ := exists_result_of_map hWritten
  obtain ⟨text, hText, hNe⟩ := (Option.any_eq_true ..).mp hAny
  refine ⟨artifacts, (), text, hConvert, by decide, hText, of_decide_eq_true hNe, ?_⟩
  rintro ⟨tail, hPlace, -⟩
  have hRoot : Path.placeOf workspaceWithNotes.working outputHere.root = ["out"] := by decide
  rw [hRoot] at hPlace
  exact absurd (List.cons.inj hPlace).1 (by decide)

end SchemaScaffold
