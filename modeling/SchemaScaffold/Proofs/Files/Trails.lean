import SchemaScaffold.Proofs.Files.Trees

/-!
# Trails of changes

What a program does to a tree is a row of small changes. What is said about its effect is said about
such a row.

* `Deed`: a directory that is made, a directory that is cleared away, a file that is written.
* `Trail`: deeds that lead from one tree to another one, each on the tree that the others left.
* `Trail.entry_cases`: what stands in the last tree was there before, or a deed has put it there.
* `Trail.grows`, `Trail.get?_eq`: where nothing is cleared away, the tree grows, and what no deed
  writes stays as it is.
* `trail_of_write`, `trail_of_remove`: the deeds of operations.
-/

namespace SchemaScaffold

/-- One change of a tree. -/
inductive Deed where
  | directory (place : Location)
  | clearing (place : Location)
  | record (place : Location) (text : String)
  deriving Repr, DecidableEq

namespace Deed

/-- The tree after a deed. -/
def applyTo (tree : FileTree) : Deed → FileTree
  | .directory place => tree.put place .directory
  | .clearing place => tree.dropBelow place
  | .record place text => tree.put place (.file text)

/-- What has to stand at the place of a deed: nothing for a new directory, a directory to be cleared
away, and no directory where a file is written. -/
def Fits (tree : FileTree) : Deed → Prop
  | .directory place => tree.get? place = none
  | .clearing place => tree.get? place = some .directory
  | .record place _ => tree.get? place ≠ some .directory

/-- Whether a deed takes nothing away. -/
def adds : Deed → Bool
  | .clearing _ => false
  | .directory _ | .record _ _ => true

theorem Fits.grows {tree : FileTree} {deed : Deed} (h : deed.Fits tree)
    (hAdds : deed.adds = true) : tree.Extends (deed.applyTo tree) := by
  cases deed with
  | directory place =>
    have hNone : tree.get? place = none := h
    exact FileTree.extends_put (FileTree.ne_nil_of_get?_none hNone) (Or.inl hNone)
  | clearing place => cases hAdds
  | record place text =>
    have hBefore : tree.get? place ≠ some .directory := h
    refine FileTree.extends_put (FileTree.ne_nil_of_get? hBefore) ?_
    cases hGet : tree.get? place with
    | none => exact Or.inl rfl
    | some entry =>
      cases entry with
      | file old => exact Or.inr ⟨⟨old, rfl⟩, text, rfl⟩
      | directory => exact absurd hGet hBefore

theorem Fits.entry_cases {tree : FileTree} {deed : Deed} (h : deed.Fits tree) {place : Location}
    {entry : FileEntry} (hEntry : (deed.applyTo tree).get? place = some entry) :
    tree.get? place = some entry ∨ (deed = .directory place ∧ entry = .directory) ∨
      ∃ text, deed = .record place text ∧ entry = .file text := by
  cases deed with
  | directory made =>
    have hNone : tree.get? made = none := h
    rw [applyTo, FileTree.get?_put (FileTree.ne_nil_of_get?_none hNone)] at hEntry
    split at hEntry
    · rename_i hPlace
      exact Or.inr (Or.inl ⟨hPlace ▸ rfl, (Option.some.inj hEntry).symm⟩)
    · exact Or.inl hEntry
  | clearing cleared =>
    rw [applyTo, FileTree.get?_dropBelow] at hEntry
    split_ifs at hEntry with hRoot
    · exact Or.inl (by simpa [hRoot] using hEntry)
    · exact Or.inl hEntry
  | record written new =>
    rw [applyTo, FileTree.get?_put (FileTree.ne_nil_of_get? h)] at hEntry
    split at hEntry
    · rename_i hPlace
      exact Or.inr (Or.inr ⟨new, hPlace ▸ rfl, (Option.some.inj hEntry).symm⟩)
    · exact Or.inl hEntry

theorem Fits.get?_eq {tree : FileTree} {deed : Deed} (h : deed.Fits tree)
    (hAdds : deed.adds = true) {place : Location} (hWritten : ∀ text, deed ≠ .record place text)
    {entry : FileEntry} (hEntry : tree.get? place = some entry) :
    (deed.applyTo tree).get? place = some entry := by
  cases deed with
  | directory made =>
    have hNone : tree.get? made = none := h
    rw [applyTo, FileTree.get?_put (FileTree.ne_nil_of_get?_none hNone), if_neg, hEntry]
    rintro rfl
    simp [hNone] at hEntry
  | clearing cleared => cases hAdds
  | record written new =>
    rw [applyTo, FileTree.get?_put (FileTree.ne_nil_of_get? h), if_neg, hEntry]
    rintro rfl
    exact hWritten new rfl

end Deed

/-- Deeds that lead from one tree to another one. -/
inductive Trail : FileTree → List Deed → FileTree → Prop
  | done (tree : FileTree) : Trail tree [] tree
  | deed {tree final : FileTree} {deed : Deed} {rest : List Deed} (hFits : deed.Fits tree)
      (hRest : Trail (deed.applyTo tree) rest final) : Trail tree (deed :: rest) final

namespace Trail

variable {tree middle final : FileTree} {deeds front back : List Deed}

theorem append (h : Trail tree front middle) (h' : Trail middle back final) :
    Trail tree (front ++ back) final := by
  induction h with
  | done _ => exact h'
  | deed hFits _ ih => exact .deed hFits (ih h')

theorem single {deed : Deed} (h : deed.Fits tree) : Trail tree [deed] (deed.applyTo tree) :=
  .deed h (.done _)

/-- Where nothing is cleared away, the tree grows. -/
theorem grows (h : Trail tree deeds final) (hAdds : ∀ deed ∈ deeds, deed.adds = true) :
    tree.Extends final := by
  induction h with
  | done tree => exact .refl tree
  | deed hFits _ ih =>
    obtain ⟨hDeed, hRest⟩ := List.forall_mem_cons.mp hAdds
    exact (hFits.grows hDeed).trans (ih hRest)

/-- What stands in the last tree was there before, or a deed has put it there. -/
theorem entry_cases (h : Trail tree deeds final) {place : Location} {entry : FileEntry}
    (hEntry : final.get? place = some entry) :
    tree.get? place = some entry ∨ (.directory place ∈ deeds ∧ entry = .directory) ∨
      ∃ text, .record place text ∈ deeds ∧ entry = .file text := by
  induction h with
  | done _ => exact Or.inl hEntry
  | deed hFits _ ih =>
    rcases ih hEntry with hBefore | ⟨hMem, hMade⟩ | ⟨text, hMem, hText⟩
    · rcases hFits.entry_cases hBefore with hOld | ⟨rfl, hMade⟩ | ⟨text, rfl, hText⟩
      · exact Or.inl hOld
      · exact Or.inr (Or.inl ⟨List.mem_cons_self, hMade⟩)
      · exact Or.inr (Or.inr ⟨text, List.mem_cons_self, hText⟩)
    · exact Or.inr (Or.inl ⟨List.mem_cons_of_mem _ hMem, hMade⟩)
    · exact Or.inr (Or.inr ⟨text, List.mem_cons_of_mem _ hMem, hText⟩)

/-- A file of the last tree was there before, or a deed has written it. -/
theorem file_cases (h : Trail tree deeds final) {place : Location} {text : String}
    (hFile : final.get? place = some (.file text)) :
    tree.get? place = some (.file text) ∨ .record place text ∈ deeds := by
  rcases h.entry_cases hFile with hBefore | ⟨-, hEq⟩ | ⟨_, hMem, hEq⟩
  · exact Or.inl hBefore
  · cases hEq
  · cases hEq
    exact Or.inr hMem

/-- What no deed clears away or writes stays as it is. -/
theorem get?_eq (h : Trail tree deeds final) (hAdds : ∀ deed ∈ deeds, deed.adds = true)
    {place : Location} (hWritten : ∀ text, .record place text ∉ deeds) {entry : FileEntry}
    (hEntry : tree.get? place = some entry) : final.get? place = some entry := by
  induction h with
  | done _ => exact hEntry
  | deed hFits _ ih =>
    obtain ⟨hDeed, hRest⟩ := List.forall_mem_cons.mp hAdds
    refine ih hRest (fun text hMem => hWritten text (List.mem_cons_of_mem _ hMem)) ?_
    refine hFits.get?_eq hDeed (fun text hEq => hWritten text ?_) hEntry
    exact hEq ▸ List.mem_cons_self

theorem read_eq (h : Trail tree deeds final) (hAdds : ∀ deed ∈ deeds, deed.adds = true)
    {working : Location} {path text : String}
    (hWritten : ∀ other, .record (Path.placeOf working path) other ∉ deeds)
    (hRead : tree.read working path = .ok text) : final.read working path = .ok text :=
  (h.grows hAdds).read_eq hRead (h.get?_eq hAdds hWritten (FileTree.get?_of_read hRead))

end Trail

/-! ## The deeds of the operations -/

namespace FileTree

variable {tree tree' : FileTree} {working : Location} {path text : String}

/-- A file that is written is one deed, and it is read back. -/
theorem trail_of_write (h : tree.write working path text = .ok tree') :
    Trail tree [.record (Path.placeOf working path) text] tree' ∧
      tree'.read working path = .ok text := by
  have hBefore : tree' = tree.put (Path.placeOf working path) (.file text) ∧
      tree.get? (Path.placeOf working path) ≠ some .directory ∧
      ∀ problem, tree.locate working path ≠ .blocked problem := by
    unfold write at h
    split at h
    · rename_i hFound
      obtain ⟨rfl, hGet⟩ := locate_found hFound
      exact ⟨(Except.ok.inj h).symm, by simp [hGet], by simp [hFound]⟩
    · cases h
    · rename_i hMissing
      obtain ⟨rfl, hGet⟩ := locate_missing hMissing
      exact ⟨(Except.ok.inj h).symm, by simp [hGet], by simp [hMissing]⟩
    · cases h
  obtain ⟨rfl, hFits, hLeads⟩ := hBefore
  have hTrail : Trail tree [.record (Path.placeOf working path) text]
      (tree.put (Path.placeOf working path) (.file text)) := .single hFits
  refine ⟨hTrail, ?_⟩
  have hEntry : (tree.put (Path.placeOf working path) (.file text)).get?
      (Path.placeOf working path) = some (.file text) := by
    rw [get?_put (ne_nil_of_get? hFits), if_pos rfl]
  rw [read, (hTrail.grows (by simp [Deed.adds])).locate_found hLeads hEntry]

theorem remove_eq_ok (h : tree.remove working path = .ok tree') :
    tree.get? (Path.placeOf working path) = some .directory ∧
      tree' = tree.dropBelow (Path.placeOf working path) := by
  unfold remove at h
  split at h
  · rename_i hFound
    obtain ⟨rfl, hGet⟩ := locate_found hFound
    exact ⟨hGet, (Except.ok.inj h).symm⟩
  all_goals cases h

theorem trail_of_remove (h : tree.remove working path = .ok tree') :
    Trail tree [.clearing (Path.placeOf working path)] tree' := by
  obtain ⟨hGet, rfl⟩ := remove_eq_ok h
  exact .single hGet

end FileTree

end SchemaScaffold
