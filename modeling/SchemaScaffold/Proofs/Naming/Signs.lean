import SchemaScaffold.Naming.Conventions
import SchemaScaffold.Proofs.Naming.Letters
import SchemaScaffold.Proofs.Naming.Matches

/-!
# Names gain no signs

A table may be named by any text, and its name may hold slashes. The name of its model never does:
only letters and numbers of the name are kept, and neither the case maps nor the inflection rules
bring a slash in. As far as the case maps go, the same is true of all signs from the blank to the
slash.

* `Unicode.IsSign`, `Unicode.eq_of_mem_upperOf`, `Unicode.eq_of_mem_lowerOf`: only a sign has itself
  in its upper or lower case.
* `Naming.not_mem_camelCase`: none is left in camel case.
* `Inflection.not_mem_restoreCase?`: none comes in with the casing of another word.
* `Naming.slash_not_mem_modelName`: the name of a model has no slash.
-/

namespace SchemaScaffold

/-! ## Case maps -/

namespace Unicode

/-- The signs from the blank to the slash. -/
def IsSign (c : Char) : Prop := 0x20 ≤ c.toNat ∧ c.toNat < 0x30

instance (c : Char) : Decidable (IsSign c) :=
  inferInstanceAs (Decidable (_ ∧ _))

theorem isSign_slash : IsSign '/' := by decide

theorem exists_of_target? {code image : Nat} {runs : List ShiftRun}
    (h : ShiftRun.target? code runs = some image) :
    ∃ run ∈ runs, run.first ≤ code ∧ code ≤ run.last ∧ image = Int.toNat (code + run.offset) := by
  induction runs with
  | nil => cases h
  | cons run rest ih =>
    unfold ShiftRun.target? at h
    split_ifs at h with hBefore hWithin hStep
    · exact ⟨run, List.mem_cons_self, Nat.le_of_not_lt hBefore, hWithin, (Option.some.inj h).symm⟩
    · obtain ⟨found, hFound, hImage⟩ := ih h
      exact ⟨found, List.mem_cons_of_mem _ hFound, hImage⟩

theorem toNat_ofNat_of_pos {code : Nat} (h : 0 < (Char.ofNat code).toNat) :
    (Char.ofNat code).toNat = code := by
  by_cases hValid : code.isValidChar
  · rw [Char.ofNat, dif_pos hValid]
    rfl
  · rw [Char.ofNat, dif_neg hValid] at h
    exact absurd h (by decide)

section

variable {mark : Char} (hMark : IsSign mark)
include hMark

theorem eq_of_mem_mapCode {expansions : List (Nat × List Nat)} {runs : List ShiftRun}
    (hExpansions : ∀ expansion ∈ expansions, ∀ code ∈ expansion.2, 0x30 ≤ code)
    (hRuns : ∀ run ∈ runs, (0x30 : Int) ≤ run.first + run.offset) {c : Char}
    (h : mark ∈ mapCode expansions runs c) : c = mark := by
  -- no image is as low as a sign
  have hImage : ∀ code, 0x30 ≤ code → mark ≠ Char.ofNat code := by
    rintro code hCode rfl
    have hValue := toNat_ofNat_of_pos (Nat.lt_of_lt_of_le (by decide) hMark.1)
    have hLess := hMark.2
    omega
  unfold mapCode at h
  split at h
  · rename_i codes hCodes
    obtain ⟨before, after, hSplit, -⟩ := List.lookup_eq_some_iff.mp hCodes
    obtain ⟨code, hCode, hChar⟩ := List.mem_map.mp h
    have hLeast := hExpansions (c.toNat, codes) (by simp [hSplit]) code hCode
    exact absurd hChar.symm (hImage code hLeast)
  · split at h
    · rename_i code hTarget
      obtain ⟨run, hRun, hFirst, -, hCode⟩ := exists_of_target? hTarget
      have hLeast := hRuns run hRun
      exact absurd (List.mem_singleton.mp h) (hImage code (by omega))
    · exact (List.mem_singleton.mp h).symm

theorem eq_of_ascii {f : Char → Char}
    (hTable : ∀ code < 0x80, IsSign (f (Char.ofNat code)) →
      f (Char.ofNat code) = Char.ofNat code) {c : Char}
    (hc : c.toNat < 0x80) (h : mark ∈ [f c]) : c = mark := by
  obtain rfl := List.mem_singleton.mp h
  have hChar := hTable c.toNat hc
  rw [Char.ofNat_toNat] at hChar
  exact (hChar hMark).symm

theorem eq_of_mem_upperOf {c : Char} (h : mark ∈ upperOf c) : c = mark := by
  unfold upperOf at h
  split at h
  · rename_i hc
    exact eq_of_ascii hMark (f := Char.toUpper) (by decide +kernel) hc h
  · exact eq_of_mem_mapCode hMark (by decide +kernel) (by decide +kernel) h

theorem eq_of_mem_lowerOf {c : Char} (h : mark ∈ lowerOf c) : c = mark := by
  unfold lowerOf at h
  split at h
  · rename_i hc
    exact eq_of_ascii hMark (f := Char.toLower) (by decide +kernel) hc h
  · exact eq_of_mem_mapCode hMark (by decide +kernel) (by decide +kernel) h

theorem not_mem_upperText {text : List Char} (h : mark ∉ text) : mark ∉ upperText text := by
  intro hMem
  obtain ⟨c, hc, hUpper⟩ := List.mem_flatMap.mp hMem
  exact h (eq_of_mem_upperOf hMark hUpper ▸ hc)

theorem not_mem_lowerAfter (before : List Char) {text : List Char} (h : mark ∉ text) :
    mark ∉ lowerAfter before text := by
  induction text generalizing before with
  | nil => exact List.not_mem_nil
  | cons c rest ih =>
    obtain ⟨hc, hRest⟩ := not_or.mp (mt List.mem_cons.mpr h)
    rw [lowerAfter, List.mem_append, not_or]
    refine ⟨?_, ih (c :: before) hRest⟩
    split
    · intro hSigma
      obtain rfl := List.mem_singleton.mp hSigma
      split at hMark
      · exact absurd hMark (by decide)
      · exact absurd hMark (by decide)
    · exact fun hLower => hc (eq_of_mem_lowerOf hMark hLower).symm

theorem not_mem_lowerText {text : List Char} (h : mark ∉ text) : mark ∉ lowerText text :=
  not_mem_lowerAfter hMark [] h

end

end Unicode

/-! ## Camel case -/

namespace Naming

open Unicode

section

variable {mark : Char} (hMark : IsSign mark)
include hMark

theorem isAlphanumeric_eq_false : isAlphanumeric mark = false := by
  have hTable : ∀ code < 0x30, isAlphanumeric (Char.ofNat code) = false := by decide +kernel
  have hChar := hTable mark.toNat hMark.2
  rwa [Char.ofNat_toNat] at hChar

theorem not_mem_of_mem_words {name : String} {word : List Char} (h : word ∈ words name.toList) :
    mark ∉ word := by
  intro hMem
  have hLetter := isAlphanumeric_of_mem_words h hMem
  rw [isAlphanumeric_eq_false hMark] at hLetter
  cases hLetter

theorem not_mem_lowerWord {word : List Char} (h : mark ∉ word) : mark ∉ lowerWord word := by
  fun_induction lowerWord word with
  | case1 => exact h
  | case2 =>
    intro hSigma
    obtain rfl := List.mem_singleton.mp hSigma
    exact absurd hMark (by decide)
  | case3 c hSigma =>
    exact fun hLower => h (eq_of_mem_lowerOf hMark hLower ▸ List.mem_cons_self)
  | case4 c rest hRest ih =>
    rw [List.mem_append, not_or]
    exact ⟨fun hLower => h (eq_of_mem_lowerOf hMark hLower ▸ List.mem_cons_self),
      ih fun hMem => h (List.mem_cons_of_mem _ hMem)⟩

theorem not_mem_capitalise {word : List Char} (h : mark ∉ word) : mark ∉ capitalise word := by
  cases word with
  | nil => exact h
  | cons c rest =>
    obtain ⟨hc, hRest⟩ := not_or.mp (mt List.mem_cons.mpr h)
    rw [capitalise, List.mem_append, not_or]
    exact ⟨fun hUpper => hc (eq_of_mem_upperOf hMark hUpper).symm, not_mem_lowerWord hMark hRest⟩

theorem not_mem_camelCase (name : String) : mark ∉ (camelCase name).toList := by
  have hWords : ∀ word ∈ words name.toList, mark ∉ word := fun word => not_mem_of_mem_words hMark
  rw [camelCase, String.toList_ofList]
  cases hSplit : words name.toList with
  | nil => exact List.not_mem_nil
  | cons first rest =>
    rw [hSplit] at hWords
    obtain ⟨hFirst, hRest⟩ := List.forall_mem_cons.mp hWords
    rw [camelWords, List.mem_append, List.mem_flatMap, not_or]
    refine ⟨not_mem_lowerWord hMark hFirst, ?_⟩
    rintro ⟨word, hWord, hMem⟩
    exact not_mem_capitalise hMark (hRest word hWord) hMem

theorem not_mem_upperFirst {text : String} (h : mark ∉ text.toList) :
    mark ∉ (upperFirst text).toList := by
  unfold upperFirst
  split
  · rw [String.toList_empty]
    exact List.not_mem_nil
  · rename_i c rest hText
    rw [hText] at h
    obtain ⟨hc, hRest⟩ := not_or.mp (mt List.mem_cons.mpr h)
    rw [String.toList_ofList, List.mem_append, not_or]
    exact ⟨fun hUpper => hc (eq_of_mem_upperOf hMark hUpper).symm, hRest⟩

end

end Naming

namespace Inflection

open Unicode

/-! ## Inflected words -/

/-- A text as it is, all small, and all capital. -/
def casings (text : List Char) : List (List Char) := [text, lowerText text, upperText text]

theorem mem_casings_of_restoreCase? {word text restored : List Char}
    (h : restoreCase? word text = some restored) : restored ∈ casings text := by
  unfold restoreCase? at h
  split_ifs at h
  · simp [casings, ← Option.some.inj h]
  · simp [casings, ← Option.some.inj h]
  · simp [casings, ← Option.some.inj h]
  · split at h
    · simp [casings, ← Option.some.inj h]
    · split_ifs at h
      simp [casings, ← Option.some.inj h]
  · simp [casings, ← Option.some.inj h]

theorem not_mem_restoreCase? {mark : Char} (hMark : IsSign mark) {word text restored : List Char}
    (hText : mark ∉ text) (h : restoreCase? word text = some restored) : mark ∉ restored := by
  have hCasing := mem_casings_of_restoreCase? h
  simp only [casings, List.mem_cons, List.not_mem_nil, or_false] at hCasing
  rcases hCasing with rfl | rfl | rfl
  · exact hText
  · exact not_mem_lowerText hMark hText
  · exact not_mem_upperText hMark hText

theorem mem_of_mem_replaceMark {first second c : Char} {text template : List Char}
    (h : c ∈ replaceMark first second text template) : c ∈ text ∨ c ∈ template := by
  fun_induction replaceMark first second text template with
  | case1 a b rest hMark ih =>
    rcases List.mem_append.mp h with hText | hRest
    · exact Or.inl hText
    · exact (ih hRest).imp_right fun hMem => by simp [hMem]
  | case2 a b rest hMark ih =>
    rcases List.mem_cons.mp h with rfl | hRest
    · exact Or.inr List.mem_cons_self
    · exact (ih hRest).imp_right (List.mem_cons_of_mem a)
  | case3 => exact Or.inr h

theorem slash_not_mem_fillTemplate? {word : List Char} {texts : List (List Char)}
    (hTexts : ∀ text ∈ texts, '/' ∉ text) {index : Nat} {template filled : List Char}
    (hTemplate : '/' ∉ template) (h : fillTemplate? word index texts template = some filled) :
    '/' ∉ filled := by
  induction texts generalizing index template with
  | nil =>
    cases h
    exact hTemplate
  | cons text rest ih =>
    obtain ⟨hText, hRest⟩ := List.forall_mem_cons.mp hTexts
    obtain ⟨restored, hRestored, h⟩ := Option.bind_eq_some_iff.mp h
    refine ih hRest (fun hMem => ?_) h
    rcases mem_of_mem_replaceMark hMem with hNew | hOld
    · exact not_mem_restoreCase? isSign_slash hText hRestored hNew
    · exact hTemplate hOld

theorem mem_of_mem_dropMarks {c : Char} {text : List Char} (h : c ∈ dropMarks text) : c ∈ text := by
  fun_induction dropMarks text with
  | case1 mark rest ih => exact List.mem_cons_of_mem _ (List.mem_cons_of_mem _ (ih h))
  | case2 => cases h
  | case3 first rest _ _ ih =>
    rcases List.mem_cons.mp h with rfl | hRest
    · exact List.mem_cons_self
    · exact List.mem_cons_of_mem _ (ih hRest)
  | case4 => cases h

theorem Rule.slash_not_mem_rewritten {rule : Rule} {word rewritten : List Char}
    {found : Pattern.Match} (hTemplate : '/' ∉ rule.template.toList)
    (hFound : found.Satisfies (· ≠ '/')) (h : rule.rewritten word found = some rewritten) :
    '/' ∉ rewritten := by
  obtain ⟨template, hRestored, h⟩ := Option.bind_eq_some_iff.mp h
  obtain ⟨filled, hFilled, h⟩ := Option.bind_eq_some_iff.mp h
  obtain rfl := Option.some.inj h
  have hTexts : ∀ text ∈ found.matched :: found.groups, '/' ∉ text :=
    fun text hText hMem => hFound.texts text hText '/' hMem rfl
  have hCased := not_mem_restoreCase? isSign_slash hTemplate hRestored
  intro hMem
  rcases List.mem_append.mp (mem_of_mem_dropMarks hMem) with hFront | hAfter
  · rcases List.mem_append.mp hFront with hBefore | hMiddle
    · exact hFound.before '/' hBefore rfl
    · exact slash_not_mem_fillTemplate? hTexts hCased hFilled hMiddle
  · exact hFound.after '/' hAfter rfl

/-- The exceptions and templates of a direction have no slash. -/
structure Direction.SparesSlashes (direction : Direction) : Prop where
  replaced : ∀ pair ∈ direction.replaced, '/' ∉ pair.2.toList
  rules : ∀ rule ∈ direction.rules, '/' ∉ rule.template.toList

theorem Direction.SparesSlashes.inflect {direction : Direction} (h : direction.SparesSlashes)
    {word inflected : String} (hWord : '/' ∉ word.toList)
    (hInflected : direction.inflect word = some inflected) : '/' ∉ inflected.toList := by
  have hToken : '/' ∉ (String.ofList (lowerText word.toList)).toList := by
    rw [String.toList_ofList]
    exact not_mem_lowerText isSign_slash hWord
  have hRestored {text : List Char} (hText : '/' ∉ text)
      (hMap : (restoreCase? word.toList text).map String.ofList = some inflected) :
      '/' ∉ inflected.toList := by
    obtain ⟨restored, hRestored, rfl⟩ := Option.map_eq_some_iff.mp hMap
    rw [String.toList_ofList]
    exact not_mem_restoreCase? isSign_slash hText hRestored
  unfold Direction.inflect at hInflected
  simp only at hInflected
  split at hInflected
  · exact hRestored hToken hInflected
  · split at hInflected
    · rename_i other hOther
      obtain ⟨before, after, hSplit, -⟩ := List.lookup_eq_some_iff.mp hOther
      have hPair : (String.ofList (lowerText word.toList), other) ∈ direction.replaced :=
        List.mem_reverse.mp (by simp [hSplit])
      exact hRestored (h.replaced _ hPair) hInflected
    · split at hInflected
      · cases hInflected
        exact hWord
      · split at hInflected
        · rename_i rule found hMatch
          obtain ⟨listed, hListed, hFind⟩ := List.exists_of_findSome?_eq_some hMatch
          obtain ⟨_, hFound, hEq⟩ := Option.map_eq_some_iff.mp hFind
          obtain ⟨rfl, rfl⟩ := Prod.mk.inj hEq
          obtain ⟨rewritten, hRewritten, rfl⟩ := Option.map_eq_some_iff.mp hInflected
          rw [String.toList_ofList]
          refine Rule.slash_not_mem_rewritten (h.rules _ (List.mem_reverse.mp hListed))
            (Pattern.satisfies_of_find? ?_ hFound) hRewritten
          rintro c hc rfl
          exact hWord hc
        · cases hInflected
          exact hWord

theorem toSingular_sparesSlashes : toSingular.SparesSlashes where
  replaced := by decide +kernel
  rules := by decide +kernel

end Inflection

/-- **The name of a model has no slash**, whatever its table is called. -/
theorem Naming.slash_not_mem_modelName {table model : String} (h : modelName table = some model) :
    '/' ∉ model.toList := by
  obtain ⟨singular, hSingular, rfl⟩ := Option.map_eq_some_iff.mp h
  have hCamel := not_mem_camelCase Unicode.isSign_slash table
  exact not_mem_upperFirst Unicode.isSign_slash
    (Inflection.toSingular_sparesSlashes.inflect hCamel hSingular)

end SchemaScaffold
