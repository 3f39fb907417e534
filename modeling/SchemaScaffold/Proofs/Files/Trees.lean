import SchemaScaffold.Proofs.Files.Paths

/-!
# What stands where after an operation

* `FileTree.get?_put`, `FileTree.get?_dropBelow`: what stands at a place afterwards.
* `FileTree.Extends`: a tree has all that another one has, with files and directories where they
  were. Walking along a path then comes to the same place (`FileTree.Extends.walk`).
* `FileTree.locate_found`, `FileTree.locate_missing`: a path leads to the place that its names alone
  lead to.
* `FileTree.read_of_write`: a file that has been written is read back.
-/

namespace SchemaScaffold.FileTree

/-! ## Look-ups -/

@[simp] theorem get?_nil (tree : FileTree) : tree.get? [] = some .directory := by simp [get?]

theorem ne_nil_of_get? {tree : FileTree} {place : Location}
    (h : tree.get? place ≠ some .directory) : place ≠ [] :=
  fun hNil => h (hNil ▸ tree.get?_nil)

theorem ne_nil_of_get?_none {tree : FileTree} {place : Location} (h : tree.get? place = none) :
    place ≠ [] :=
  have hGet : tree.get? place ≠ some .directory := by simp [h]
  ne_nil_of_get? hGet

theorem lookup_filter (keep : Location → Bool) (place : Location)
    (entries : List (Location × FileEntry)) :
    (entries.filter fun entry => keep entry.1).lookup place =
      if keep place then entries.lookup place else none := by
  induction entries with
  | nil => simp
  | cons entry rest ih =>
    obtain ⟨key, value⟩ := entry
    by_cases hPlace : place = key
    · subst hPlace
      cases hKeep : keep place with
      | true => simp [hKeep]
      | false => simpa [hKeep] using ih
    · have hNe : (place == key) = false := beq_eq_false_iff_ne.mpr hPlace
      cases hKeep : keep key with
      | true => simpa [List.filter_cons, hKeep, List.lookup_cons, hNe] using ih
      | false => simpa [List.filter_cons, hKeep, List.lookup_cons, hNe] using ih

theorem get?_put {tree : FileTree} {place : Location} (hPlace : place ≠ []) (entry : FileEntry)
    (other : Location) :
    (tree.put place entry).get? other = if other = place then some entry else tree.get? other := by
  unfold get? put
  by_cases hOther : other = place
  · subst hOther
    simp [hPlace]
  · have hNe : (other == place) = false := beq_eq_false_iff_ne.mpr hOther
    have hFilter := lookup_filter (fun key => decide (key ≠ place)) other tree.entries
    rw [if_pos (decide_eq_true hOther)] at hFilter
    simp only [List.lookup_cons, hNe, hFilter, if_neg hOther]

theorem get?_dropBelow (tree : FileTree) (place other : Location) :
    (tree.dropBelow place).get? other =
      if other = [] then some .directory
      else if place.isPrefixOf other then none else tree.get? other := by
  unfold get? dropBelow
  have hFilter := lookup_filter (fun key => !place.isPrefixOf key) other tree.entries
  by_cases hOther : other = []
  · simp [hOther]
  · simp only [if_neg hOther, hFilter]
    cases place.isPrefixOf other <;> rfl

/-! ## Walks that arrive -/

/-- A walk that is not blocked, name by name: it finds something, or the last name is missing. -/
inductive Arrives (tree : FileTree) : Location → List String → Destination → Prop
  | here {place : Location} {entry : FileEntry} (hEntry : tree.get? place = some entry) :
      Arrives tree place [] (.found place entry)
  | dot {place : Location} {rest : List String} {destination : Destination}
      (hHere : tree.get? place = some .directory) (hRest : Arrives tree place rest destination) :
      Arrives tree place ("." :: rest) destination
  | dots {place : Location} {rest : List String} {destination : Destination}
      (hHere : tree.get? place = some .directory)
      (hRest : Arrives tree place.dropLast rest destination) :
      Arrives tree place (".." :: rest) destination
  | enter {place : Location} {name : String} {next : FileEntry} {rest : List String}
      {destination : Destination} (hHere : tree.get? place = some .directory)
      (hName : name ≠ "." ∧ name ≠ ".." ∧ name.utf8ByteSize ≤ maxName)
      (hNext : tree.get? (place ++ [name]) = some next)
      (hRest : Arrives tree (place ++ [name]) rest destination) :
      Arrives tree place (name :: rest) destination
  | miss {place : Location} {name : String} (hHere : tree.get? place = some .directory)
      (hName : name ≠ "." ∧ name ≠ ".." ∧ name.utf8ByteSize ≤ maxName)
      (hNone : tree.get? (place ++ [name]) = none) :
      Arrives tree place [name] (.missing (place ++ [name]))

theorem arrives_of_walk {tree : FileTree} {place : Location} {names : List String}
    {destination : Destination} (h : tree.walk place names = destination)
    (hArrives : ∀ problem, destination ≠ .blocked problem) :
    tree.Arrives place names destination := by
  subst h
  induction names generalizing place with
  | nil =>
    rw [walk] at hArrives ⊢
    cases hHere : tree.get? place with
    | none => simp [hHere] at hArrives
    | some entry => exact .here hHere
  | cons name rest ih =>
    rw [walk.eq_def] at hArrives ⊢
    cases hHere : tree.get? place with
    | none => simp [hHere] at hArrives
    | some entry =>
      cases entry with
      | file text => simp [hHere] at hArrives
      | directory =>
        simp only [hHere] at hArrives ⊢
        split_ifs at hArrives ⊢ with hDot hDots hLong
        · exact hDot ▸ .dot hHere (ih hArrives)
        · exact hDots ▸ .dots hHere (ih hArrives)
        · exact absurd rfl (hArrives _)
        · have hName : name ≠ "." ∧ name ≠ ".." ∧ name.utf8ByteSize ≤ maxName :=
            ⟨hDot, hDots, Nat.le_of_not_lt hLong⟩
          split at hArrives
          · rename_i hNone
            exact .miss hHere hName hNone
          · exact absurd rfl (hArrives _)
          · rename_i hNext
            exact .enter hHere hName hNext (ih hArrives)

namespace Arrives

variable {tree : FileTree} {place found : Location} {names : List String} {entry : FileEntry}
  {destination : Destination}

theorem walk_eq (h : tree.Arrives place names destination) :
    tree.walk place names = destination := by
  induction h with
  | here hEntry => simp only [walk, hEntry]
  | dot hHere _ ih => rw [walk.eq_def]; simp only [hHere, if_true, ih]
  | dots hHere _ ih => rw [walk.eq_def]; simp [hHere, ih]
  | enter hHere hName hNext _ ih =>
    rw [walk.eq_def]
    simp [hHere, hName.1, hName.2.1, Nat.not_lt.mpr hName.2.2, hNext, ih]
  | miss hHere hName hNone =>
    rw [walk.eq_def]
    simp [hHere, hName.1, hName.2.1, Nat.not_lt.mpr hName.2.2, hNone]

/-- What is found stands at the place to which the names lead. -/
theorem of_found (h : tree.Arrives place names (.found found entry)) :
    found = Path.resolve place names ∧ tree.get? found = some entry := by
  generalize hEq : Destination.found found entry = destination at h
  induction h with
  | here hEntry =>
    obtain ⟨rfl, rfl⟩ := Destination.found.inj hEq
    exact ⟨rfl, hEntry⟩
  | dot _ _ ih => simpa [Path.resolve] using ih hEq
  | dots _ _ ih => simpa [Path.resolve] using ih hEq
  | enter _ hName _ _ ih => simpa [Path.resolve, hName.1, hName.2.1] using ih hEq
  | miss => cases hEq

theorem of_missing (h : tree.Arrives place names (.missing found)) :
    found = Path.resolve place names ∧ tree.get? found = none := by
  generalize hEq : Destination.missing found = destination at h
  induction h with
  | here => cases hEq
  | dot _ _ ih => simpa [Path.resolve] using ih hEq
  | dots _ _ ih => simpa [Path.resolve] using ih hEq
  | enter _ hName _ _ ih => simpa [Path.resolve, hName.1, hName.2.1] using ih hEq
  | miss _ hName hNone =>
    obtain rfl := Destination.missing.inj hEq
    exact ⟨by simp [Path.resolve, hName.1, hName.2.1], hNone⟩

/-- What is missing would stand in a directory. -/
theorem exists_parent (h : tree.Arrives place names (.missing found)) :
    ∃ parent name, found = parent ++ [name] ∧ tree.get? parent = some .directory := by
  generalize hEq : Destination.missing found = destination at h
  induction h with
  | here => cases hEq
  | dot _ _ ih => exact ih hEq
  | dots _ _ ih => exact ih hEq
  | enter _ _ _ _ ih => exact ih hEq
  | miss hHere _ _ =>
    obtain rfl := Destination.missing.inj hEq
    exact ⟨_, _, rfl, hHere⟩

theorem le_maxName {name : String} (h : tree.Arrives place [name] destination) (hDot : name ≠ ".")
    (hDots : name ≠ "..") : name.utf8ByteSize ≤ maxName := by
  cases h with
  | dot => exact absurd rfl hDot
  | dots => exact absurd rfl hDots
  | enter _ hName _ _ => exact hName.2.2
  | miss _ hName _ => exact hName.2.2

theorem append {back : List String} (h : tree.Arrives place names (.found found .directory))
    (hBack : tree.Arrives found back destination) :
    tree.Arrives place (names ++ back) destination := by
  generalize hEq : Destination.found found .directory = middle at h
  induction h with
  | here =>
    obtain ⟨rfl, -⟩ := Destination.found.inj hEq
    exact hBack
  | dot hHere _ ih => exact .dot hHere (ih hEq)
  | dots hHere _ ih => exact .dots hHere (ih hEq)
  | enter hHere hName hNext _ ih => exact .enter hHere hName hNext (ih hEq)
  | miss => cases hEq

/-- A walk that goes on behind some names has come to a directory with them. -/
theorem of_append {front back : List String} (hBack : back ≠ [])
    (h : tree.Arrives place (front ++ back) destination) :
    tree.Arrives place front (.found (Path.resolve place front) .directory) ∧
      tree.Arrives (Path.resolve place front) back destination := by
  induction front generalizing place with
  | nil =>
    refine ⟨?_, h⟩
    cases h with
    | here => exact absurd rfl hBack
    | dot hHere _ | dots hHere _ | enter hHere _ _ _ | miss hHere _ _ => exact .here hHere
  | cons name front ih =>
    rw [List.cons_append] at h
    generalize hNames : front ++ back = rest at h
    cases h with
    | dot hHere hRest =>
      obtain ⟨hFront, hRest⟩ := ih (hNames ▸ hRest)
      exact ⟨.dot hHere hFront, hRest⟩
    | dots hHere hRest =>
      obtain ⟨hFront, hRest⟩ := ih (hNames ▸ hRest)
      exact ⟨.dots hHere hFront, hRest⟩
    | enter hHere hName hNext hRest =>
      obtain ⟨hFront, hRest⟩ := ih (hNames ▸ hRest)
      simp only [Path.resolve, if_neg hName.1, if_neg hName.2.1]
      exact ⟨.enter hHere hName hNext hFront, hRest⟩
    | miss => exact absurd (List.append_eq_nil_iff.mp hNames).2 hBack

end Arrives

/-! ## Trees that only grow -/

/-- A tree has all that another one has, with files and directories where they were. -/
structure Extends (tree tree' : FileTree) : Prop where
  directory : ∀ {place}, tree.get? place = some .directory → tree'.get? place = some .directory
  file : ∀ {place text}, tree.get? place = some (.file text) →
    ∃ text', tree'.get? place = some (.file text')

namespace Extends

variable {tree tree' tree'' : FileTree} {place found : Location} {names : List String}

theorem refl (tree : FileTree) : tree.Extends tree := ⟨id, fun h => ⟨_, h⟩⟩

theorem trans (h : tree.Extends tree') (h' : tree'.Extends tree'') : tree.Extends tree'' where
  directory hPlace := h'.directory (h.directory hPlace)
  file hPlace :=
    let ⟨_, hText⟩ := h.file hPlace
    h'.file hText

theorem exists_get? (h : tree.Extends tree') {entry : FileEntry}
    (hPlace : tree.get? place = some entry) : ∃ entry', tree'.get? place = some entry' := by
  cases entry with
  | file text =>
    obtain ⟨text', hText⟩ := h.file hPlace
    exact ⟨_, hText⟩
  | directory => exact ⟨_, h.directory hPlace⟩

/-- A walk that arrives finds what stands there in a larger tree. -/
theorem arrives_found (h : tree.Extends tree') {destination : Destination}
    (hArrives : tree.Arrives place names destination) {entry : FileEntry}
    (hFound : tree'.get? (Path.resolve place names) = some entry) :
    tree'.Arrives place names (.found (Path.resolve place names) entry) := by
  induction hArrives with
  | here _ => exact .here hFound
  | dot hHere _ ih => exact .dot (h.directory hHere) (ih hFound)
  | dots hHere _ ih => exact .dots (h.directory hHere) (ih hFound)
  | enter hHere hName hNext _ ih =>
    obtain ⟨_, hNext'⟩ := h.exists_get? hNext
    simp only [Path.resolve, if_neg hName.1, if_neg hName.2.1] at hFound ⊢
    exact .enter (h.directory hHere) hName hNext' (ih hFound)
  | miss hHere hName _ =>
    -- what was missing stands in the larger tree
    simp only [Path.resolve, if_neg hName.1, if_neg hName.2.1] at hFound ⊢
    exact .enter (h.directory hHere) hName hFound (.here hFound)

end Extends

/-- What is put where nothing stood, or a file in place of another one, takes nothing away. -/
theorem extends_put {tree : FileTree} {place : Location} {entry : FileEntry} (hPlace : place ≠ [])
    (hBefore : tree.get? place = none ∨
      (∃ old, tree.get? place = some (.file old)) ∧ ∃ text, entry = .file text) :
    tree.Extends (tree.put place entry) where
  directory := by
    intro other hOther
    rw [get?_put hPlace, if_neg, hOther]
    rintro rfl
    rcases hBefore with hNone | ⟨⟨old, hOld⟩, -⟩
    · simp [hNone] at hOther
    · simp [hOld] at hOther
  file := by
    intro other text hOther
    rw [get?_put hPlace]
    split
    · rename_i hEq
      subst hEq
      rcases hBefore with hNone | ⟨-, hText⟩
      · simp [hNone] at hOther
      · simpa using hText
    · exact ⟨text, hOther⟩

/-! ## Where paths lead -/

/-- Either a path is refused as it is, or whatever names it is given are walked along. -/
theorem follow_cases (working : Location) (path : String) :
    (∃ problem, ∀ (tree : FileTree) names, tree.follow working path names = .blocked problem) ∨
      ∀ (tree : FileTree) names, tree.follow working path names =
        tree.walk (Path.origin working path) names := by
  unfold follow
  by_cases hNul : (path.toList.any fun c => c.toNat = 0) = true
  · exact Or.inl ⟨_, fun _ _ => if_pos hNul⟩
  · by_cases hLong : path.utf8ByteSize > maxPath
    · exact Or.inl ⟨_, fun _ _ => by rw [if_neg hNul, if_pos hLong]⟩
    · by_cases hEmpty : path = ""
      · exact Or.inl ⟨_, fun _ _ => by rw [if_neg hNul, if_neg hLong, if_pos hEmpty]⟩
      · exact Or.inr fun _ _ => by rw [if_neg hNul, if_neg hLong, if_neg hEmpty, Path.origin]

/-- Either a path is refused as it is, or it is walked along, to the same place in every tree. -/
theorem locate_cases (working : Location) (path : String) :
    (∃ problem, ∀ tree : FileTree, tree.locate working path = .blocked problem) ∨
      ∃ names, Path.resolve (Path.origin working path) names = Path.placeOf working path ∧
        ∀ tree : FileTree, tree.locate working path =
          tree.walk (Path.origin working path) names := by
  unfold locate
  refine (follow_cases working path).imp (fun ⟨problem, h⟩ => ⟨problem, fun tree => h tree _⟩)
    fun hWalk => ⟨_, ?_, fun tree => hWalk tree _⟩
  rw [Path.placeOf]
  split
  · rw [Path.resolve_append]
    simp [Path.resolve]
  · rfl

section Locate

variable {tree tree' : FileTree} {working place : Location} {path : String} {entry : FileEntry}

theorem locate_found (h : tree.locate working path = .found place entry) :
    place = Path.placeOf working path ∧ tree.get? place = some entry := by
  rcases locate_cases working path with ⟨problem, hBlocked⟩ | ⟨names, hPlace, hWalk⟩
  · rw [hBlocked] at h
    cases h
  · rw [hWalk] at h
    rw [← hPlace]
    exact (arrives_of_walk h nofun).of_found

theorem locate_missing (h : tree.locate working path = .missing place) :
    place = Path.placeOf working path ∧ tree.get? place = none := by
  rcases locate_cases working path with ⟨problem, hBlocked⟩ | ⟨names, hPlace, hWalk⟩
  · rw [hBlocked] at h
    cases h
  · rw [hWalk] at h
    rw [← hPlace]
    exact (arrives_of_walk h nofun).of_missing

/-- A path that leads somewhere finds in a larger tree what stands there. -/
theorem Extends.locate_found (h : tree.Extends tree')
    (hLeads : ∀ problem, tree.locate working path ≠ .blocked problem)
    (hEntry : tree'.get? (Path.placeOf working path) = some entry) :
    tree'.locate working path = .found (Path.placeOf working path) entry := by
  rcases locate_cases working path with ⟨problem, hBlocked⟩ | ⟨names, hPlace, hWalk⟩
  · exact absurd (hBlocked tree) (hLeads problem)
  · rw [hWalk] at hLeads ⊢
    rw [← hPlace] at hEntry ⊢
    exact (h.arrives_found (arrives_of_walk rfl hLeads) hEntry).walk_eq

theorem get?_of_read {text : String} (h : tree.read working path = .ok text) :
    tree.get? (Path.placeOf working path) = some (.file text) := by
  unfold read at h
  split at h
  · rename_i hFound
    obtain ⟨rfl, hGet⟩ := FileTree.locate_found hFound
    rw [hGet, Except.ok.inj h]
  all_goals cases h

theorem Extends.read_eq (h : tree.Extends tree') {text text' : String}
    (hRead : tree.read working path = .ok text)
    (hEntry : tree'.get? (Path.placeOf working path) = some (.file text')) :
    tree'.read working path = .ok text' := by
  have hLeads : ∀ problem, tree.locate working path ≠ .blocked problem := by
    intro problem hBlocked
    simp [read, hBlocked] at hRead
  rw [read, h.locate_found hLeads hEntry]

end Locate

end SchemaScaffold.FileTree
