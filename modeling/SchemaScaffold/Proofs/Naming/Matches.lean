import Mathlib.Data.List.Basic
import SchemaScaffold.Inflection.Pattern

/-!
# What a match consists of

* `Pattern.exists_of_find?`: a match is one at some place of the text.
* `Pattern.satisfies_of_find?`: a match has the characters of its text only.
* `Pattern.minLength`, `Pattern.minGroups`: how many characters a pattern takes and how many groups
  it closes, at least. `Pattern.fillsGroups`: none of the groups can be empty.
* `Pattern.spans_of_find?`: a match takes as much.
-/

namespace SchemaScaffold.Inflection.Pattern

/-! ## Places -/

theorem exists_of_findFrom? {pattern : Pattern} {before after : List Char} {found : Match}
    (h : pattern.findFrom? before after = some found) :
    ∃ front back, front.reverse ++ back = before.reverse ++ after ∧
      pattern.matchAt? front back = some found := by
  induction after generalizing before with
  | nil => exact ⟨before, [], rfl, h⟩
  | cons c rest ih =>
    unfold findFrom? at h
    split at h
    · rename_i hFound
      exact ⟨before, c :: rest, rfl, hFound.trans h⟩
    · obtain ⟨front, back, hText, hFound⟩ := ih h
      refine ⟨front, back, ?_, hFound⟩
      rw [hText, List.reverse_cons, List.append_assoc, List.singleton_append]

/-- A match is one at some place of the text. -/
theorem exists_of_find? {pattern : Pattern} {text : List Char} {found : Match}
    (h : pattern.find? text = some found) :
    ∃ front back, front.reverse ++ back = text ∧ pattern.matchAt? front back = some found :=
  exists_of_findFrom? h

/-! ## Characters -/

/-- The characters of a place and of its groups satisfy a condition. -/
structure Place.Satisfies (P : Char → Prop) (place : Place) : Prop where
  before : ∀ c ∈ place.before, P c
  after : ∀ c ∈ place.after, P c
  groups : ∀ group ∈ place.groups, ∀ c ∈ group, P c

theorem Place.Satisfies.advance {P : Char → Prop} {place next : Place} (h : place.Satisfies P)
    {test : Char → Bool} (hNext : place.advance test = some next) : next.Satisfies P := by
  unfold Place.advance at hNext
  split at hNext
  · cases hNext
  · rename_i c rest hAfter
    split_ifs at hNext
    cases hNext
    have hHere := h.after
    rw [hAfter] at hHere
    obtain ⟨hc, hRest⟩ := List.forall_mem_cons.mp hHere
    exact ⟨List.forall_mem_cons.mpr ⟨hc, h.before⟩, hRest, h.groups⟩

/-- Matching only moves characters, and copies some of them to groups. -/
theorem satisfies_of_run {P : Char → Prop} {pattern : Pattern} {place stop : Place}
    {next : Place → Option Place} (hPlace : place.Satisfies P)
    (hNext : ∀ middle, middle.Satisfies P → next middle = some stop → stop.Satisfies P)
    (h : pattern.run place next = some stop) : stop.Satisfies P := by
  -- on the pattern, for every continuation that carries the condition to its end
  induction pattern generalizing place next with
  | empty => exact hNext place hPlace h
  | oneOf | noneOf | nonAscii | nonWord =>
    obtain ⟨middle, hMiddle, hStop⟩ := Option.bind_eq_some_iff.mp h
    exact hNext middle (hPlace.advance hMiddle) hStop
  | wordBoundary | start | finish =>
    unfold run at h
    split_ifs at h
    exact hNext place hPlace h
  | seq first second ihFirst ihSecond =>
    exact ihFirst hPlace (fun middle hMiddle hStop => ihSecond hMiddle hNext hStop) h
  | choice first second ihFirst ihSecond =>
    unfold run at h
    split at h
    · rename_i found hFound
      exact ihFirst hPlace hNext (hFound.trans h)
    · exact ihSecond hPlace hNext h
  | group inner ih =>
    unfold run at h
    refine ih hPlace (fun middle hMiddle hStop => ?_) h
    have hText : ∀ c ∈ place.after.take (place.after.length - middle.after.length), P c :=
      fun c hc => hPlace.after c (List.mem_of_mem_take hc)
    exact hNext { middle with groups := _ :: middle.groups } ⟨hMiddle.before, hMiddle.after,
      List.forall_mem_cons.mpr ⟨hText, hMiddle.groups⟩⟩ hStop

/-- The characters of all parts of a match satisfy a condition. -/
structure Match.Satisfies (P : Char → Prop) (found : Match) : Prop where
  before : ∀ c ∈ found.before, P c
  after : ∀ c ∈ found.after, P c
  texts : ∀ text ∈ found.matched :: found.groups, ∀ c ∈ text, P c

theorem satisfies_of_matchAt? {P : Char → Prop} {pattern : Pattern} {before after : List Char}
    {found : Match} (hBefore : ∀ c ∈ before, P c) (hAfter : ∀ c ∈ after, P c)
    (h : pattern.matchAt? before after = some found) : found.Satisfies P := by
  obtain ⟨stop, hStop, rfl⟩ := Option.map_eq_some_iff.mp h
  have hPlace : Place.Satisfies P ⟨before, after, []⟩ := ⟨hBefore, hAfter, by simp⟩
  have hParts : stop.Satisfies P :=
    satisfies_of_run hPlace (fun _ hMiddle hEq => Option.some.inj hEq ▸ hMiddle) hStop
  refine ⟨fun c hc => hBefore c (List.mem_reverse.mp hc), hParts.after, ?_⟩
  refine List.forall_mem_cons.mpr ⟨fun c hc => hAfter c (List.mem_of_mem_take hc), ?_⟩
  exact fun text hText => hParts.groups text (List.mem_reverse.mp hText)

/-- A match has the characters of its text only. -/
theorem satisfies_of_find? {P : Char → Prop} {pattern : Pattern} {text : List Char} {found : Match}
    (hText : ∀ c ∈ text, P c) (h : pattern.find? text = some found) : found.Satisfies P := by
  obtain ⟨front, back, rfl, hFound⟩ := exists_of_find? h
  refine satisfies_of_matchAt? (fun c hc => ?_) (fun c hc => ?_) hFound
  · exact hText c (List.mem_append_left _ (List.mem_reverse.mpr hc))
  · exact hText c (List.mem_append_right _ hc)

/-! ## Lengths -/

/-- The least number of characters that a pattern takes. -/
def minLength : Pattern → Nat
  | .empty | .wordBoundary | .start | .finish => 0
  | .oneOf _ | .noneOf _ | .nonAscii | .nonWord => 1
  | .seq first second => first.minLength + second.minLength
  | .choice first second => min first.minLength second.minLength
  | .group inner => inner.minLength

/-- The least number of groups that a pattern closes. -/
def minGroups : Pattern → Nat
  | .seq first second => first.minGroups + second.minGroups
  | .choice first second => min first.minGroups second.minGroups
  | .group inner => inner.minGroups + 1
  | _ => 0

/-- Whether all groups of a pattern take at least one character. -/
def fillsGroups : Pattern → Bool
  | .seq first second | .choice first second => first.fillsGroups && second.fillsGroups
  | .group inner => inner.fillsGroups && 0 < inner.minLength
  | _ => true

/-- A pattern has led from one place to another one. -/
structure Spans (pattern : Pattern) (place stop : Place) : Prop where
  length : stop.after.length + pattern.minLength ≤ place.after.length
  groups : pattern.fillsGroups = true → ∃ closed, stop.groups = closed ++ place.groups ∧
    pattern.minGroups ≤ closed.length ∧ ∀ text ∈ closed, text ≠ []

theorem Spans.of_groups_eq {pattern : Pattern} {place stop : Place}
    (hLength : stop.after.length + pattern.minLength ≤ place.after.length)
    (hNone : pattern.minGroups = 0) (hGroups : stop.groups = place.groups) :
    pattern.Spans place stop :=
  ⟨hLength, fun _ => ⟨[], hGroups, Nat.le_of_eq hNone, by simp⟩⟩

theorem Spans.seq {first second : Pattern} {place middle stop : Place}
    (h : first.Spans place middle) (h' : second.Spans middle stop) :
    (Pattern.seq first second).Spans place stop := by
  refine ⟨?_, ?_⟩
  · have hFirst := h.length
    have hSecond := h'.length
    rw [minLength]
    omega
  · intro hFills
    obtain ⟨hFirst, hSecond⟩ := Bool.and_eq_true_iff.mp hFills
    obtain ⟨closed, hClosed, hCount, hFull⟩ := h.groups hFirst
    obtain ⟨closed', hClosed', hCount', hFull'⟩ := h'.groups hSecond
    refine ⟨closed' ++ closed, ?_, ?_, ?_⟩
    · rw [hClosed', hClosed, List.append_assoc]
    · rw [minGroups, List.length_append]
      omega
    · exact List.forall_mem_append.mpr ⟨hFull', hFull⟩

/-- What spans a place spans it also as a pattern that promises less. -/
theorem Spans.weaken {pattern other : Pattern} {place stop : Place} (h : pattern.Spans place stop)
    (hLength : other.minLength ≤ pattern.minLength) (hGroups : other.minGroups ≤ pattern.minGroups)
    (hFills : other.fillsGroups = true → pattern.fillsGroups = true) : other.Spans place stop := by
  refine ⟨Nat.le_trans (Nat.add_le_add_left hLength _) h.length, ?_⟩
  intro hOther
  obtain ⟨closed, hClosed, hCount, hFull⟩ := h.groups (hFills hOther)
  exact ⟨closed, hClosed, Nat.le_trans hGroups hCount, hFull⟩

theorem Spans.group {inner : Pattern} {place stop : Place} (h : inner.Spans place stop) :
    (Pattern.group inner).Spans place { stop with
      groups := place.after.take (place.after.length - stop.after.length) :: stop.groups } := by
  refine ⟨h.length, ?_⟩
  intro hFills
  obtain ⟨hInner, hTakes⟩ := Bool.and_eq_true_iff.mp hFills
  obtain ⟨closed, hClosed, hCount, hFull⟩ := h.groups hInner
  refine ⟨_ :: closed, congrArg (List.cons _) hClosed, Nat.succ_le_succ hCount,
    List.forall_mem_cons.mpr ⟨?_, hFull⟩⟩
  have hLength := h.length
  have hPositive : 0 < inner.minLength := of_decide_eq_true hTakes
  rw [← List.length_pos_iff, List.length_take]
  omega

theorem length_advance {place next : Place} {test : Char → Bool}
    (h : place.advance test = some next) :
    next.after.length + 1 = place.after.length ∧ next.groups = place.groups := by
  unfold Place.advance at h
  split at h
  · cases h
  · rename_i c rest hAfter
    split_ifs at h
    cases h
    exact ⟨by rw [hAfter, List.length_cons], rfl⟩

/-- A run that succeeds comes to its continuation at a place to which the pattern leads. -/
theorem exists_spans_of_run {pattern : Pattern} {place stop : Place} {next : Place → Option Place}
    (h : pattern.run place next = some stop) :
    ∃ middle, pattern.Spans place middle ∧ next middle = some stop := by
  -- on the pattern, for every continuation
  induction pattern generalizing place next with
  | empty => exact ⟨place, .of_groups_eq (Nat.le_refl _) rfl rfl, h⟩
  | oneOf | noneOf | nonAscii | nonWord =>
    obtain ⟨middle, hMiddle, hStop⟩ := Option.bind_eq_some_iff.mp h
    obtain ⟨hLength, hGroups⟩ := length_advance hMiddle
    exact ⟨middle, .of_groups_eq (Nat.le_of_eq hLength) rfl hGroups, hStop⟩
  | wordBoundary | start | finish =>
    unfold run at h
    split_ifs at h
    exact ⟨place, .of_groups_eq (Nat.le_refl _) rfl rfl, h⟩
  | seq first second ihFirst ihSecond =>
    obtain ⟨middle, hFirst, hRest⟩ := ihFirst h
    obtain ⟨last, hSecond, hStop⟩ := ihSecond hRest
    exact ⟨last, hFirst.seq hSecond, hStop⟩
  | choice first second ihFirst ihSecond =>
    unfold run at h
    split at h
    · rename_i found hFound
      obtain ⟨middle, hFirst, hStop⟩ := ihFirst (hFound.trans h)
      exact ⟨middle, hFirst.weaken (Nat.min_le_left _ _) (Nat.min_le_left _ _)
        fun hFills => (Bool.and_eq_true_iff.mp hFills).1, hStop⟩
    · obtain ⟨middle, hSecond, hStop⟩ := ihSecond h
      exact ⟨middle, hSecond.weaken (Nat.min_le_right _ _) (Nat.min_le_right _ _)
        fun hFills => (Bool.and_eq_true_iff.mp hFills).2, hStop⟩
  | group inner ih =>
    obtain ⟨middle, hInner, hStop⟩ := ih h
    exact ⟨_, hInner.group, hStop⟩

/-- A match takes at least as many characters and groups as its pattern. -/
theorem spans_of_find? {pattern : Pattern} {text : List Char} {found : Match}
    (h : pattern.find? text = some found) :
    pattern.minLength ≤ found.matched.length ∧
      (pattern.fillsGroups = true → pattern.minGroups ≤ found.groups.length ∧
        ∀ group ∈ found.groups, group ≠ []) := by
  obtain ⟨front, back, -, hFound⟩ := exists_of_find? h
  obtain ⟨stop, hStop, rfl⟩ := Option.map_eq_some_iff.mp hFound
  obtain ⟨middle, hSpans, hMiddle⟩ := exists_spans_of_run hStop
  obtain rfl := Option.some.inj hMiddle
  refine ⟨?_, ?_⟩
  · have hLength := hSpans.length
    rw [List.length_take]
    simp only at hLength ⊢
    omega
  · intro hFills
    obtain ⟨closed, hClosed, hCount, hFull⟩ := hSpans.groups hFills
    rw [List.append_nil] at hClosed
    simp only [hClosed, List.length_reverse, List.mem_reverse]
    exact ⟨hCount, hFull⟩

end SchemaScaffold.Inflection.Pattern
