import Mathlib.Data.List.Induction
import SchemaScaffold.Proofs.Files.Trails

/-!
# Making directories

Where a directory is made, those above it are made first if they are missing.

* `FileTree.Makes`: single directories made one after another.
* `FileTree.exists_makes_makeDirectories`: this is what making a directory and those above it is.
* `FileTree.MakesWay`, `FileTree.exists_trail_makeDirectories`: its deeds are new directories that
  the path leads through.
* `FileTree.IsNested`: whatever stands in a tree stands in a directory; new directories keep it so.
* `FileTree.Reaches`, `FileTree.reaches_of_makeDirectories`: a path that has been made leads to a
  directory.
* `FileTree.get?_makeDirectories_iff`: what stands in the tree once a path has been made.
* `FileTree.Reaches.hasEntries`, `FileTree.Reaches.pathExists`: what stands in such a directory is
  noticed by the questions whether it has entries, and whether a path leads anywhere.
-/

namespace SchemaScaffold.FileTree

variable {tree tree' : FileTree} {working place : Location} {path : String}

/-! ## Single directories -/

/-- A directory is made where the names along its path find nothing. -/
theorem makeDirectory_eq_ok (h : tree.makeDirectory working path = .ok tree') :
    tree.Arrives (Path.origin working path) (Path.steps path)
        (.missing (Path.placeOf working path)) ∧
      tree' = tree.put (Path.placeOf working path) .directory := by
  unfold makeDirectory at h
  split at h
  · cases h
  · rename_i missing hMissing
    obtain rfl := Except.ok.inj h
    rcases follow_cases working path with ⟨problem, hBlocked⟩ | hWalk
    · rw [hBlocked] at hMissing
      cases hMissing
    · rw [hWalk] at hMissing
      have hArrives := arrives_of_walk hMissing nofun
      obtain ⟨rfl, -⟩ := hArrives.of_missing
      exact ⟨hArrives, rfl⟩
  · cases h

/-- Directories made one after another. -/
inductive Makes (working : Location) : FileTree → List String → FileTree → Prop
  | done (tree : FileTree) : Makes working tree [] tree
  | make {tree middle final : FileTree} {path : String} {rest : List String}
      (hMake : tree.makeDirectory working path = .ok middle)
      (hRest : Makes working middle rest final) : Makes working tree (path :: rest) final

namespace Makes

variable {middle final : FileTree} {made more : List String}

theorem append (h : Makes working tree made middle) (h' : Makes working middle more final) :
    Makes working tree (made ++ more) final := by
  induction h with
  | done _ => exact h'
  | make hMake _ ih => exact .make hMake (ih h')

theorem trail (h : Makes working tree made final) :
    Trail tree (made.map fun path => .directory (Path.placeOf working path)) final := by
  induction h with
  | done tree => exact .done tree
  | make hMake _ ih =>
    obtain ⟨hArrives, rfl⟩ := makeDirectory_eq_ok hMake
    exact .deed (show Deed.Fits _ (.directory _) from hArrives.of_missing.2) ih

end Makes

theorem exists_makes_makeLast (tree : FileTree) (working : Location) (path : String) :
    ∃ made, Makes working tree made (tree.makeLast working path).2 ∧ ∀ p ∈ made, p = path := by
  unfold makeLast
  split
  · rename_i hMade
    exact ⟨[path], .make hMade (.done _), by simp⟩
  · split <;> exact ⟨[], .done tree, by simp⟩

theorem exists_makes_makeDirectoriesFrom (tree : FileTree) (working : Location) (path : String)
    (above : List String) :
    ∃ made, Makes working tree made (tree.makeDirectoriesFrom working path above).2 ∧
      ∀ p ∈ made, p = path ∨ p ∈ above := by
  have hNothing : ∃ made, Makes working tree made tree ∧ ∀ p ∈ made, p = path ∨ p ∈ above :=
    ⟨[], .done tree, by simp⟩
  induction above generalizing path with
  | nil =>
    unfold makeDirectoriesFrom
    split
    · exact hNothing
    · obtain ⟨made, hMakes, hPaths⟩ := exists_makes_makeLast tree working path
      exact ⟨made, hMakes, fun p hp => Or.inl (hPaths p hp)⟩
  | cons parent above ih =>
    unfold makeDirectoriesFrom
    split
    · exact hNothing
    · split
      · rename_i hMade
        exact ⟨[path], .make hMade (.done _), by simp⟩
      · obtain ⟨made, hMakes, hPaths⟩ := ih parent ⟨[], .done tree, by simp⟩
        have hAbove : ∀ p ∈ made, p = path ∨ p ∈ parent :: above :=
          fun p hp => Or.inr (List.mem_cons.mpr (hPaths p hp))
        split
        · rename_i middle hParent
          rw [hParent] at hMakes
          obtain ⟨more, hMore, hLast⟩ := exists_makes_makeLast middle working path
          exact ⟨made ++ more, hMakes.append hMore,
            List.forall_mem_append.mpr ⟨hAbove, fun p hp => Or.inl (hLast p hp)⟩⟩
        · exact ⟨made, hMakes, hAbove⟩
      · split <;> exact hNothing

/-- Making a directory and those above it is making some of these, one after another. -/
theorem exists_makes_makeDirectories (tree : FileTree) (working : Location) (path : String) :
    ∃ made, Makes working tree made (tree.makeDirectories working path).2 ∧
      ∀ p ∈ made, p = path ∨ p ∈ Path.parents path :=
  exists_makes_makeDirectoriesFrom tree working path (Path.parents path)

/-- Deeds that only make directories that a path leads through. -/
def MakesWay (working : Location) (path : String) (deeds : List Deed) : Prop :=
  ∀ deed ∈ deeds, ∃ place, Path.LeadsThrough working path place ∧ deed = .directory place

namespace MakesWay

variable {deeds : List Deed}

theorem adds (h : MakesWay working path deeds) : ∀ deed ∈ deeds, deed.adds = true := by
  intro deed hDeed
  obtain ⟨_, -, rfl⟩ := h deed hDeed
  rfl

theorem leadsThrough (h : MakesWay working path deeds) (hDeed : .directory place ∈ deeds) :
    Path.LeadsThrough working path place := by
  obtain ⟨_, hPlace, hEq⟩ := h _ hDeed
  exact Deed.directory.inj hEq ▸ hPlace

theorem record_not_mem (h : MakesWay working path deeds) (place : Location) (text : String) :
    .record place text ∉ deeds := by
  intro hDeed
  obtain ⟨_, -, hEq⟩ := h _ hDeed
  cases hEq

end MakesWay

theorem exists_trail_makeDirectories (tree : FileTree) (working : Location) (path : String) :
    ∃ deeds, Trail tree deeds (tree.makeDirectories working path).2 ∧
      MakesWay working path deeds := by
  obtain ⟨made, hMakes, hPaths⟩ := exists_makes_makeDirectories tree working path
  refine ⟨_, hMakes.trail, fun deed hDeed => ?_⟩
  obtain ⟨p, hp, rfl⟩ := List.mem_map.mp hDeed
  refine ⟨_, ?_, rfl⟩
  rcases hPaths p hp with rfl | hParent
  · exact Path.leadsThrough_placeOf working p
  · exact Path.leadsThrough_of_mem_parents hParent

/-! ## Trees in which all is in directories -/

/-- Whatever stands in the tree stands in a directory. -/
def IsNested (tree : FileTree) : Prop :=
  ∀ entry ∈ tree.entries, tree.get? entry.1.dropLast = some .directory

instance (tree : FileTree) : Decidable tree.IsNested := inferInstanceAs (Decidable (∀ _ ∈ _, _))

theorem mem_entries_of_get? {entry : FileEntry} (hPlace : place ≠ [])
    (h : tree.get? place = some entry) : (place, entry) ∈ tree.entries := by
  rw [get?, if_neg hPlace] at h
  obtain ⟨front, back, hEntries, -⟩ := List.lookup_eq_some_iff.mp h
  simp [hEntries]

theorem hasChild_of_get? {name : String} {entry : FileEntry}
    (h : tree.get? (place ++ [name]) = some entry) : tree.hasChild place = true := by
  have hMem := mem_entries_of_get? (by simp) h
  exact List.any_eq_true.mpr ⟨_, hMem, by simp⟩

namespace IsNested

variable {name : String} {tail : Location} {entry : FileEntry}

theorem get?_parent (h : tree.IsNested) (hEntry : tree.get? (place ++ [name]) = some entry) :
    tree.get? place = some .directory := by
  have hParent := h _ (mem_entries_of_get? (by simp) hEntry)
  rwa [List.dropLast_concat] at hParent

theorem get?_above (h : tree.IsNested) (hTail : tail ≠ [])
    (hEntry : tree.get? (place ++ tail) = some entry) : tree.get? place = some .directory := by
  induction tail using List.reverseRecOn generalizing entry with
  | nil => exact absurd rfl hTail
  | append_singleton front name ih =>
    rw [← List.append_assoc] at hEntry
    have hParent := h.get?_parent hEntry
    by_cases hFront : front = []
    · rwa [hFront, List.append_nil] at hParent
    · exact ih hFront hParent

/-- Where something stands below a directory, something stands right below it. -/
theorem hasChild (h : tree.IsNested) (hTail : tail ≠ [])
    (hEntry : tree.get? (place ++ tail) = some entry) : tree.hasChild place = true := by
  obtain ⟨name, rest, rfl⟩ := List.exists_cons_of_ne_nil hTail
  by_cases hRest : rest = []
  · subst hRest
    exact hasChild_of_get? hEntry
  · rw [List.append_cons] at hEntry
    exact hasChild_of_get? (h.get?_above hRest hEntry)

theorem makeDirectory (h : tree.IsNested) (hMake : tree.makeDirectory working path = .ok tree') :
    tree'.IsNested := by
  obtain ⟨hArrives, rfl⟩ := makeDirectory_eq_ok hMake
  have hNone := hArrives.of_missing.2
  obtain ⟨parent, name, hPlace, hParent⟩ := hArrives.exists_parent
  have hKept {other : Location} (hOther : tree.get? other = some .directory) :
      (tree.put (Path.placeOf working path) .directory).get? other = some .directory := by
    rw [get?_put (ne_nil_of_get?_none hNone)]
    split
    · rfl
    · exact hOther
  intro entry hEntry
  rcases List.mem_cons.mp hEntry with rfl | hEntry
  · refine hKept ?_
    rwa [hPlace, List.dropLast_concat]
  · exact hKept (h entry (List.mem_filter.mp hEntry).1)

theorem makes {made : List String} (h : tree.IsNested) (hMakes : Makes working tree made tree') :
    tree'.IsNested := by
  induction hMakes with
  | done _ => exact h
  | make hMake _ ih => exact ih (h.makeDirectory hMake)

theorem makeDirectories (h : tree.IsNested) {outcome : Except FileProblem Unit}
    (hMade : tree.makeDirectories working path = (outcome, tree')) : tree'.IsNested := by
  obtain ⟨made, hMakes, -⟩ := exists_makes_makeDirectories tree working path
  rw [hMade] at hMakes
  exact h.makes hMakes

end IsNested

/-! ## Paths that lead to directories -/

/-- The names along a path lead to a directory. -/
def Reaches (tree : FileTree) (working : Location) (path : String) : Prop :=
  tree.Arrives (Path.origin working path) (Path.steps path)
    (.found (Path.placeOf working path) .directory)

theorem Reaches.mono (h : tree.Reaches working path) (hExtends : tree.Extends tree') :
    tree'.Reaches working path :=
  hExtends.arrives_found h (hExtends.directory h.of_found.2)

/-- A directory right below one that is reached is reached as well. -/
theorem Reaches.enter (h : tree.Reaches working path) {name : String}
    (hName : '/' ∉ name.toList ∧ name ≠ "" ∧ name ≠ "." ∧ name ≠ ".." ∧ name.utf8ByteSize ≤ maxName)
    (hEntry : tree.get? (Path.placeOf working (Path.join path name)) = some .directory) :
    tree.Reaches working (Path.join path name) := by
  obtain ⟨hSlash, hNonempty, hDot, hDots, hShort⟩ := hName
  have hAbsolute := Path.not_isAbsolute_of_not_mem hSlash
  rw [Path.placeOf_join_file working path hSlash hNonempty hDot hDots] at hEntry
  rw [Reaches, Path.origin, Path.isAbsolute_join path hAbsolute, Path.steps_join path hAbsolute,
    Path.steps_of_not_mem hSlash hNonempty,
    Path.placeOf_join_file working path hSlash hNonempty hDot hDots]
  exact h.append (.enter h.of_found.2 ⟨hDot, hDots, hShort⟩ hEntry (.here hEntry))

/-- All that the path leads through are directories. -/
theorem Reaches.get?_leadsThrough (h : tree.Reaches working path)
    (hPlace : Path.LeadsThrough working path place) : tree.get? place = some .directory := by
  obtain ⟨names, ⟨back, hSteps⟩, rfl⟩ := hPlace
  by_cases hBack : back = []
  · subst hBack
    rw [List.append_nil] at hSteps
    rw [hSteps]
    exact h.of_found.2
  · rw [Reaches, ← hSteps] at h
    exact (h.of_append hBack).1.of_found.2

/-- A path that can be walked along is found where the names along it lead to a directory. -/
theorem Reaches.locate_eq (h : tree.Reaches working path)
    (hWalk : ∀ (other : FileTree) names, other.follow working path names =
      other.walk (Path.origin working path) names) :
    tree.locate working path = .found (Path.placeOf working path) .directory := by
  have hHere := h.of_found.2
  rw [locate, hWalk]
  split
  · exact (h.append (.dot hHere (.here hHere))).walk_eq
  · exact h.walk_eq

theorem reaches_of_locate (h : tree.locate working path = .found place .directory) :
    tree.Reaches working path := by
  have hPlace := (locate_found h).1
  unfold locate at h
  rcases follow_cases working path with ⟨problem, hBlocked⟩ | hWalk
  · rw [hBlocked] at h
    cases h
  · rw [hWalk] at h
    have hArrives := arrives_of_walk h nofun
    split at hArrives
    · exact (hArrives.of_append (by simp)).1
    · rw [hPlace] at hArrives
      exact hArrives

theorem locate_of_isDirectory (h : tree.isDirectory working path = true) :
    tree.locate working path = .found (Path.placeOf working path) .directory := by
  unfold isDirectory at h
  split at h
  · rename_i hFound
    rw [hFound, (locate_found hFound).1]
  · cases h

/-- A single directory that has been made is found. -/
theorem locate_of_makeDirectory (h : tree.makeDirectory working path = .ok tree') :
    tree'.locate working path = .found (Path.placeOf working path) .directory := by
  obtain ⟨hArrives, rfl⟩ := makeDirectory_eq_ok h
  have hNone := hArrives.of_missing.2
  have hPlace := ne_nil_of_get?_none hNone
  have hReaches : (tree.put (Path.placeOf working path) .directory).Reaches working path := by
    refine (extends_put hPlace (Or.inl hNone)).arrives_found hArrives ?_
    exact (get?_put hPlace _ _).trans (if_pos rfl)
  refine hReaches.locate_eq ((follow_cases working path).resolve_left ?_)
  rintro ⟨problem, hBlocked⟩
  simp [makeDirectory, hBlocked] at h

theorem locate_of_makeLast (h : tree.makeLast working path = (.ok (), tree')) :
    tree'.locate working path = .found (Path.placeOf working path) .directory := by
  unfold makeLast at h
  split at h
  · rename_i hMade
    obtain rfl := (Prod.mk.inj h).2
    exact locate_of_makeDirectory hMade
  · split at h
    · rename_i hDirectory
      obtain rfl := (Prod.mk.inj h).2
      exact locate_of_isDirectory hDirectory
    · cases h

/-- Where making a directory and those above it succeeds, it is found afterwards. -/
theorem locate_of_makeDirectories (hPath : path ≠ "")
    (h : tree.makeDirectories working path = (.ok (), tree')) :
    tree'.locate working path = .found (Path.placeOf working path) .directory := by
  unfold makeDirectories at h
  cases hAbove : Path.parents path with
  | nil =>
    rw [hAbove, makeDirectoriesFrom, if_neg hPath] at h
    exact locate_of_makeLast h
  | cons parent above =>
    rw [hAbove, makeDirectoriesFrom, if_neg hPath] at h
    split at h
    · rename_i hMade
      obtain rfl := (Prod.mk.inj h).2
      exact locate_of_makeDirectory hMade
    · split at h
      · exact locate_of_makeLast h
      · rename_i hFailed
        exact absurd h (hFailed _)
    · split at h
      · rename_i hDirectory
        obtain rfl := (Prod.mk.inj h).2
        exact locate_of_isDirectory hDirectory
      · cases h

/-- The empty path stands for the working directory. -/
theorem reaches_of_makeDirectories (hWorking : tree.get? working = some .directory)
    (h : tree.makeDirectories working path = (.ok (), tree')) : tree'.Reaches working path := by
  by_cases hPath : path = ""
  · subst hPath
    have hParents : Path.parents "" = [] := by
      simp [Path.parents, Path.components, Path.parentsOf]
    rw [makeDirectories, hParents, makeDirectoriesFrom, if_pos rfl] at h
    obtain rfl := (Prod.mk.inj h).2
    have hPlace : Path.placeOf working "" = working := by
      simp [Path.placeOf, Path.origin, Path.isAbsolute, Path.resolve]
    rw [Reaches, hPlace, Path.steps_empty]
    simpa [Path.origin, Path.isAbsolute] using Arrives.here hWorking
  · exact reaches_of_locate (locate_of_makeDirectories hPath h)

/-- **What stands in the tree once a directory has been made** is what stood there before, and the
directories that its path leads through. -/
theorem get?_makeDirectories_iff (hWorking : tree.get? working = some .directory)
    (h : tree.makeDirectories working path = (.ok (), tree')) (place : Location)
    (entry : FileEntry) :
    tree'.get? place = some entry ↔
      (Path.LeadsThrough working path place ∧ entry = .directory) ∨
        tree.get? place = some entry := by
  obtain ⟨deeds, hTrail, hMakes⟩ := tree.exists_trail_makeDirectories working path
  rw [h] at hTrail
  constructor
  · intro hEntry
    rcases hTrail.entry_cases hEntry with hBefore | ⟨hDeed, rfl⟩ | ⟨text, hDeed, -⟩
    · exact Or.inr hBefore
    · exact Or.inl ⟨hMakes.leadsThrough hDeed, rfl⟩
    · exact absurd hDeed (hMakes.record_not_mem place text)
  · rintro (⟨hPlace, rfl⟩ | hBefore)
    · exact (reaches_of_makeDirectories hWorking h).get?_leadsThrough hPlace
    · exact hTrail.get?_eq hMakes.adds (hMakes.record_not_mem place) hBefore

/-! ## Questions about what is there -/

/-- A directory that leads somewhere in some tree is asked for its entries where it is reached. -/
theorem Reaches.hasEntries (h : tree.Reaches working path)
    (hLeads : tree'.locate working path = .found place .directory) :
    tree.hasEntries working path = tree.hasChild (Path.placeOf working path) := by
  have hFound := h.locate_eq ((follow_cases working path).resolve_left ?_)
  · rw [FileTree.hasEntries, hFound]
  · rintro ⟨problem, hBlocked⟩
    rw [locate, hBlocked] at hLeads
    cases hLeads

theorem endsWithSlash_join (base : String) {name : String} (h : '/' ∉ name.toList)
    (hName : name ≠ "") : Path.endsWithSlash (Path.join base name) = false := by
  have hChars : name.toList ≠ [] := fun hNil => hName (String.toList_eq_nil_iff.mp hNil)
  have hLast (front : List Char) : (front ++ name.toList).getLast? ≠ some '/' := by
    rw [List.getLast?_append_of_ne_nil _ hChars]
    exact fun hSlash => h (List.mem_of_getLast? hSlash)
  have hJoin : ∃ front, (Path.join base name).toList = front ++ name.toList := by
    unfold Path.join
    split
    · exact ⟨[], rfl⟩
    · split <;> exact ⟨_, String.toList_append ..⟩
  obtain ⟨front, hJoin⟩ := hJoin
  rw [Path.endsWithSlash, hJoin]
  exact decide_eq_false (hLast front)

theorem locate_ne_blocked_of_write {text : String} (h : tree.write working path text = .ok tree')
    (problem : FileProblem) : tree.locate working path ≠ .blocked problem := by
  intro hBlocked
  simp [write, hBlocked] at h

/-- Where a file can be written right below a directory, its path leads to what stands there, in
every tree in which the directory is reached. -/
theorem Reaches.pathExists (h : tree.Reaches working path) {name text : String}
    (hName : '/' ∉ name.toList ∧ name ≠ "" ∧ name ≠ "." ∧ name ≠ "..")
    {entry : FileEntry} (hEntry : tree.get? (Path.placeOf working path ++ [name]) = some entry)
    {other other' : FileTree}
    (hWrite : other.write working (Path.join path name) text = .ok other') :
    tree.pathExists working (Path.join path name) = true := by
  obtain ⟨hSlash, hNonempty, hDot, hDots⟩ := hName
  have hAbsolute := Path.not_isAbsolute_of_not_mem hSlash
  have hLeads := locate_ne_blocked_of_write hWrite
  have hWalk : ∀ tree : FileTree, tree.locate working (Path.join path name) =
      tree.walk (Path.origin working path) (Path.steps path ++ [name]) := by
    intro tree
    rcases follow_cases working (Path.join path name) with ⟨problem, hBlocked⟩ | hWalk
    · exact absurd (hBlocked other _) (hLeads problem)
    · rw [locate, hWalk, endsWithSlash_join path hSlash hNonempty, Path.origin, Path.origin,
        Path.isAbsolute_join path hAbsolute, Path.steps_join path hAbsolute,
        Path.steps_of_not_mem hSlash hNonempty]
      rfl
  have hShort : name.utf8ByteSize ≤ maxName := by
    rw [hWalk] at hLeads
    exact ((arrives_of_walk rfl hLeads).of_append (by simp)).2.le_maxName hDot hDots
  have hFound : tree.locate working (Path.join path name) =
      .found (Path.placeOf working path ++ [name]) entry := by
    rw [hWalk]
    exact (h.append (.enter h.of_found.2 ⟨hDot, hDots, hShort⟩ hEntry (.here hEntry))).walk_eq
  rw [FileTree.pathExists, hFound]

end SchemaScaffold.FileTree
