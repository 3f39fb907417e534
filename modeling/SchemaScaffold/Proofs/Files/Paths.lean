import Mathlib.Data.List.Basic
import SchemaScaffold.Files.Tree

/-!
# Where paths lead by their names alone

A path leads to a place name by name, and a dot or two dots lead to no new name. On a tree without
links the place is the same whatever stands in the tree.

* `Path.resolve`, `Path.placeOf`: the place that names lead to, and the place of a path.
* `Path.placeOf_join`: a path that is no absolute one leads on from the place of its base.
* `Path.placeOf_join_file`: a file whose name has no slash stands right below its base.
* `Path.LeadsThrough`: the places on the way. `Path.leadsThrough_of_mem_parents`: the directories
  above a path are on its way. `Path.not_leadsThrough_below`: only a path that walks up has places
  below its end on its way.
-/

namespace SchemaScaffold.Path

/-! ## Parts between slashes -/

theorem splitSlashes_ne_nil (text : List Char) : splitSlashes text ≠ [] := by
  cases text with
  | nil => simp [splitSlashes]
  | cons c rest =>
    unfold splitSlashes
    split
    · simp
    · split <;> simp

theorem splitSlashes_cons_of_ne {c : Char} (hc : c ≠ '/') {rest part : List Char}
    {parts : List (List Char)} (h : splitSlashes rest = part :: parts) :
    splitSlashes (c :: rest) = (c :: part) :: parts := by
  simp [splitSlashes, hc, h]

/-- A slash ends the parts before it. -/
theorem splitSlashes_append_slash (front back : List Char) :
    splitSlashes (front ++ '/' :: back) = splitSlashes front ++ splitSlashes back := by
  induction front with
  | nil => simp [splitSlashes]
  | cons c front ih =>
    by_cases hc : c = '/'
    · simp [splitSlashes, hc, ih]
    · obtain ⟨part, parts, hParts⟩ := List.exists_cons_of_ne_nil (splitSlashes_ne_nil front)
      rw [hParts, List.cons_append] at ih
      rw [List.cons_append, splitSlashes_cons_of_ne hc ih, splitSlashes_cons_of_ne hc hParts,
        List.cons_append]

theorem splitSlashes_of_not_mem {text : List Char} (h : '/' ∉ text) :
    splitSlashes text = [text] := by
  induction text with
  | nil => rfl
  | cons c text ih =>
    obtain ⟨hc, hText⟩ := not_or.mp (mt List.mem_cons.mpr h)
    exact splitSlashes_cons_of_ne (Ne.symm hc) (ih hText)

/-! ## Names along a path -/

@[simp] theorem steps_empty : steps "" = [] := by decide

theorem steps_append_slash (front back : String) :
    steps (front ++ "/" ++ back) = steps front ++ steps back := by
  have hSplit : (front ++ "/" ++ back).toList = front.toList ++ '/' :: back.toList := by simp
  simp only [steps, hSplit, splitSlashes_append_slash, List.filter_append, List.map_append]

theorem steps_of_not_mem {name : String} (h : '/' ∉ name.toList) (hName : name ≠ "") :
    steps name = [name] := by
  have hChars : name.toList ≠ [] := fun hNil => hName (String.toList_eq_nil_iff.mp hNil)
  simp [steps, splitSlashes_of_not_mem h, hChars]

/-- A path that ends with a slash has the names of the path before it. -/
theorem exists_steps_eq_of_endsWithSlash {path : String} (h : path.toList.getLast? = some '/') :
    ∃ front, path = front ++ "/" ∧ steps path = steps front := by
  obtain ⟨chars, hChars⟩ := List.getLast?_eq_some_iff.mp h
  have hPath : path = String.ofList chars ++ "/" := by
    rw [← String.toList_inj, hChars, String.toList_append, String.toList_ofList]
    rfl
  refine ⟨String.ofList chars, hPath, ?_⟩
  have hSteps := steps_append_slash (String.ofList chars) ""
  rwa [String.append_empty, ← hPath, steps_empty, List.append_nil] at hSteps

/-! ## Joined paths -/

theorem not_isAbsolute_of_not_mem {name : String} (h : '/' ∉ name.toList) :
    isAbsolute name = false := by
  refine decide_eq_false fun hHead => h ?_
  exact List.mem_of_mem_head? hHead

theorem steps_join (base : String) {path : String} (hPath : isAbsolute path = false) :
    steps (join base path) = steps base ++ steps path := by
  unfold join
  rw [hPath, Bool.false_or]
  split
  · rename_i hBase
    rw [of_decide_eq_true hBase, steps_empty, List.nil_append]
  · split
    · rename_i hSlash
      obtain ⟨front, rfl, hFront⟩ := exists_steps_eq_of_endsWithSlash hSlash
      rw [steps_append_slash, hFront]
    · rw [steps_append_slash]

/-- A name below a path is a path of at least this name. -/
theorem join_ne_empty (base : String) {name : String} (hName : name ≠ "") :
    join base name ≠ "" := by
  intro hEmpty
  unfold join at hEmpty
  split at hEmpty
  · exact hName hEmpty
  · split at hEmpty <;> exact hName (String.append_eq_empty_iff.mp hEmpty).2

theorem isAbsolute_append {front : String} (h : front ≠ "") (back : String) :
    isAbsolute (front ++ back) = isAbsolute front := by
  obtain ⟨c, rest, hChars⟩ :=
    List.exists_cons_of_ne_nil fun hNil => h (String.toList_eq_nil_iff.mp hNil)
  simp [isAbsolute, hChars]

theorem isAbsolute_join (base : String) {path : String} (hPath : isAbsolute path = false) :
    isAbsolute (join base path) = isAbsolute base := by
  unfold join
  rw [hPath, Bool.false_or]
  split
  · rename_i hBase
    rw [of_decide_eq_true hBase, hPath]
    rfl
  · rename_i hBase
    have hNe : base ≠ "" := fun hEq => hBase (decide_eq_true hEq)
    split
    · exact isAbsolute_append hNe path
    · rw [String.append_assoc, isAbsolute_append hNe]

/-! ## Places -/

/-- The place that names lead to from another one. -/
def resolve (place : Location) : List String → Location
  | [] => place
  | name :: rest =>
    if name = "." then resolve place rest
    else if name = ".." then resolve place.dropLast rest
    else resolve (place ++ [name]) rest

theorem resolve_append (place : Location) (front back : List String) :
    resolve place (front ++ back) = resolve (resolve place front) back := by
  induction front generalizing place with
  | nil => rfl
  | cons name front ih =>
    simp only [List.cons_append, resolve]
    split_ifs <;> exact ih _

/-- The place from which a path is walked along. -/
def origin (working : Location) (path : String) : Location :=
  if isAbsolute path then [] else working

/-- The place that a path leads to from a working directory. -/
def placeOf (working : Location) (path : String) : Location :=
  resolve (origin working path) (steps path)

theorem placeOf_join (working : Location) (base : String) {path : String}
    (hPath : isAbsolute path = false) :
    placeOf working (join base path) = resolve (placeOf working base) (steps path) := by
  rw [placeOf, origin, isAbsolute_join base hPath, steps_join base hPath, resolve_append, placeOf,
    origin]

/-- **A file whose name has no slash stands right below its base.** -/
theorem placeOf_join_file (working : Location) (base : String) {name : String}
    (h : '/' ∉ name.toList) (hName : name ≠ "") (hDot : name ≠ ".") (hDots : name ≠ "..") :
    placeOf working (join base name) = placeOf working base ++ [name] := by
  rw [placeOf_join working base (not_isAbsolute_of_not_mem h), steps_of_not_mem h hName]
  simp [resolve, hDot, hDots]

/-! ## The places on the way -/

theorem slash_not_mem_of_mem_splitSlashes {text part : List Char} (h : part ∈ splitSlashes text) :
    '/' ∉ part := by
  induction text generalizing part with
  | nil =>
    simp only [splitSlashes, List.mem_singleton] at h
    simp [h]
  | cons c rest ih =>
    by_cases hc : c = '/'
    · subst hc
      simp only [splitSlashes, if_true, List.mem_cons] at h
      rcases h with rfl | h
      · simp
      · exact ih h
    · obtain ⟨first, parts, hParts⟩ := List.exists_cons_of_ne_nil (splitSlashes_ne_nil rest)
      rw [splitSlashes_cons_of_ne hc hParts, List.mem_cons] at h
      rw [hParts] at ih
      rcases h with rfl | h
      · exact fun hMem => (List.mem_cons.mp hMem).elim (fun hEq => hc hEq.symm)
          (ih List.mem_cons_self)
      · exact ih (List.mem_cons_of_mem _ h)

/-- The names along a path are no empty ones, and there is no slash in them. -/
theorem plain_of_mem_steps {path name : String} (h : name ∈ steps path) :
    '/' ∉ name.toList ∧ name ≠ "" := by
  obtain ⟨part, hPart, rfl⟩ := List.mem_map.mp h
  obtain ⟨hSplit, hNonempty⟩ := List.mem_filter.mp hPart
  refine ⟨by simpa using slash_not_mem_of_mem_splitSlashes hSplit, fun hEq => ?_⟩
  have hNil : part = [] := by simpa using congrArg String.toList hEq
  simp [hNil] at hNonempty

theorem steps_intercalate {names : List String}
    (h : ∀ name ∈ names, '/' ∉ name.toList ∧ name ≠ "") :
    steps ("/".intercalate names) = names := by
  induction names with
  | nil => simp
  | cons name names ih =>
    obtain ⟨⟨hSlash, hName⟩, hNames⟩ := List.forall_mem_cons.mp h
    cases names with
    | nil => rw [String.intercalate_singleton, steps_of_not_mem hSlash hName]
    | cons next names =>
      rw [String.intercalate_cons_cons, steps_append_slash, steps_of_not_mem hSlash hName,
        ih hNames]
      rfl

theorem isAbsolute_intercalate {names : List String}
    (h : ∀ name ∈ names, '/' ∉ name.toList ∧ name ≠ "") :
    isAbsolute ("/".intercalate names) = false := by
  cases names with
  | nil => rfl
  | cons name names =>
    obtain ⟨⟨hSlash, hName⟩, -⟩ := List.forall_mem_cons.mp h
    have hAbsolute := not_isAbsolute_of_not_mem hSlash
    cases names with
    | nil => rwa [String.intercalate_singleton]
    | cons next names =>
      rwa [String.intercalate_cons_cons, String.append_assoc, isAbsolute_append hName]

theorem placeOf_ofComponents (working : Location) (absolute : Bool) {names : List String}
    (h : ∀ name ∈ names, '/' ∉ name.toList ∧ name ≠ "") :
    placeOf working (ofComponents absolute names) =
      resolve (if absolute then [] else working) names := by
  have hSteps := steps_intercalate h
  cases absolute with
  | false =>
    have hPath : ofComponents false names = "/".intercalate names := by simp [ofComponents]
    rw [hPath, placeOf, origin, isAbsolute_intercalate h, hSteps]
  | true =>
    have hPath : ofComponents true names = "" ++ "/" ++ "/".intercalate names := by
      simp [ofComponents]
    have hAbsolute : isAbsolute ("" ++ "/" ++ "/".intercalate names) = true := by
      simp [isAbsolute]
    rw [hPath, placeOf, origin, hAbsolute, steps_append_slash, hSteps, steps_empty,
      List.nil_append]

theorem resolve_filter_dots (place : Location) (names : List String) :
    resolve place (names.filter fun name => name ≠ ".") = resolve place names := by
  induction names generalizing place with
  | nil => rfl
  | cons name names ih =>
    by_cases hDot : name = "."
    · rw [List.filter_cons_of_neg (by simp [hDot]), ih, resolve, if_pos hDot]
    · rw [List.filter_cons_of_pos (by simp [hDot])]
      simp only [resolve, ih]

/-- A path leads through a place: some of its names, from the first one on, lead there. -/
def LeadsThrough (working : Location) (path : String) (place : Location) : Prop :=
  ∃ names, names <+: steps path ∧ place = resolve (origin working path) names

theorem leadsThrough_placeOf (working : Location) (path : String) :
    LeadsThrough working path (placeOf working path) :=
  ⟨steps path, List.prefix_rfl, rfl⟩

theorem LeadsThrough.below {working : Location} {base : String} {place : Location}
    (h : LeadsThrough working base place) {name : String} (hName : isAbsolute name = false) :
    LeadsThrough working (join base name) place := by
  obtain ⟨names, hPrefix, rfl⟩ := h
  refine ⟨names, ?_, ?_⟩
  · rw [steps_join base hName]
    exact hPrefix.trans (List.prefix_append _ _)
  · rw [origin, origin, isAbsolute_join base hName]

/-- The way to a place right below the end of a path has one place more. -/
theorem LeadsThrough.of_join {working : Location} {base name : String} {place : Location}
    (hSlash : '/' ∉ name.toList) (hName : name ≠ "")
    (h : LeadsThrough working (join base name) place) :
    LeadsThrough working base place ∨ place = placeOf working (join base name) := by
  have hAbsolute := not_isAbsolute_of_not_mem hSlash
  have hSteps : steps (join base name) = steps base ++ [name] := by
    rw [steps_join base hAbsolute, steps_of_not_mem hSlash hName]
  obtain ⟨names, hPrefix, rfl⟩ := h
  rw [hSteps, List.prefix_concat_iff, ← hSteps] at hPrefix
  rcases hPrefix with rfl | hPrefix
  · exact Or.inr rfl
  · refine Or.inl ⟨names, hPrefix, ?_⟩
    rw [origin, origin, isAbsolute_join base hAbsolute]

theorem exists_of_mem_parentsOf {absolute : Bool} {reversed : List String} {parent : String}
    (h : parent ∈ parentsOf absolute reversed) :
    ∃ names, names <+: reversed.reverse ∧ parent = ofComponents absolute names := by
  induction reversed with
  | nil => cases h
  | cons name above ih =>
    have hAbove : above.reverse <+: (name :: above).reverse := by simp
    rcases List.mem_cons.mp h with rfl | h
    · exact ⟨above.reverse, hAbove, rfl⟩
    · obtain ⟨names, hPrefix, rfl⟩ := ih h
      exact ⟨names, hPrefix.trans hAbove, rfl⟩

/-- The dots that `components` leaves out make no difference to the places on the way. -/
theorem exists_of_prefix_components {path : String} {names : List String}
    (h : names <+: components path) (place : Location) :
    ∃ front, front <+: steps path ∧ resolve place front = resolve place names ∧
      ∀ name ∈ names, name ∈ steps path := by
  unfold components at h
  cases hSteps : steps path with
  | nil =>
    rw [hSteps] at h
    obtain rfl := List.prefix_nil.mp h
    exact ⟨[], List.prefix_rfl, rfl, by simp⟩
  | cons first rest =>
    simp only [hSteps] at h
    have hRest {others : List String} (hOthers : others <+: rest.filter fun step => step ≠ ".") :
        ∃ front, first :: front <+: first :: rest ∧
          (∀ place, resolve place front = resolve place others) ∧ ∀ name ∈ others, name ∈ rest := by
      obtain ⟨front, hFront, rfl⟩ := List.prefix_filter_iff.mp hOthers
      refine ⟨front, (List.prefix_cons_inj first).mpr hFront, fun place => ?_, fun name hName => ?_⟩
      · rw [resolve_filter_dots]
      · exact hFront.subset (List.mem_filter.mp hName).1
    split at h
    · rename_i hDot
      obtain ⟨front, hFront, hResolve, hMem⟩ := hRest h
      have hFirst : first = "." := by simpa using (Bool.and_eq_true_iff.mp hDot).1
      refine ⟨_, hFront, ?_, fun name hName => List.mem_cons_of_mem _ (hMem name hName)⟩
      rw [resolve, if_pos hFirst, hResolve]
    · rcases List.prefix_cons_iff.mp h with rfl | ⟨others, rfl, hOthers⟩
      · exact ⟨[], List.nil_prefix, rfl, by simp⟩
      · obtain ⟨front, hFront, hResolve, hMem⟩ := hRest hOthers
        refine ⟨_, hFront, ?_, List.forall_mem_cons.mpr
          ⟨List.mem_cons_self, fun name hName => List.mem_cons_of_mem _ (hMem name hName)⟩⟩
        simp only [resolve, hResolve]

theorem leadsThrough_of_mem_parents {working : Location} {path parent : String}
    (h : parent ∈ parents path) : LeadsThrough working path (placeOf working parent) := by
  obtain ⟨names, hPrefix, rfl⟩ := exists_of_mem_parentsOf h
  rw [List.reverse_reverse] at hPrefix
  obtain ⟨front, hFront, hResolve, hMem⟩ :=
    exists_of_prefix_components hPrefix (origin working path)
  refine ⟨front, hFront, ?_⟩
  rw [placeOf_ofComponents working _ fun name hName => plain_of_mem_steps (hMem name hName),
    hResolve, origin]

theorem resolve_eq_append {names : List String} (h : ".." ∉ names) (place : Location) :
    resolve place names = place ++ names.filter fun name => name ≠ "." := by
  induction names generalizing place with
  | nil => simp [resolve]
  | cons name names ih =>
    obtain ⟨hName, hNames⟩ := not_or.mp (mt List.mem_cons.mpr h)
    by_cases hDot : name = "."
    · rw [List.filter_cons_of_neg (by simp [hDot]), resolve, if_pos hDot, ih hNames]
    · rw [List.filter_cons_of_pos (by simp [hDot]), resolve, if_neg hDot, if_neg (Ne.symm hName),
        ih hNames, List.append_assoc, List.singleton_append]

/-- A path that never walks up leads through no place below its end. -/
theorem not_leadsThrough_below {working : Location} {path : String} (h : ".." ∉ steps path)
    {tail : Location} (hTail : tail ≠ []) :
    ¬ LeadsThrough working path (placeOf working path ++ tail) := by
  rintro ⟨names, hPrefix, hPlace⟩
  have hNames : ".." ∉ names := fun hMem => h (hPrefix.subset hMem)
  rw [placeOf, resolve_eq_append h, resolve_eq_append hNames, List.append_assoc] at hPlace
  have hLength := congrArg List.length (List.append_cancel_left hPlace)
  have hShorter := (hPrefix.filter fun name => name ≠ ".").length_le
  rw [List.length_append] at hLength
  exact hTail (List.length_eq_zero_iff.mp (by omega))

end SchemaScaffold.Path
