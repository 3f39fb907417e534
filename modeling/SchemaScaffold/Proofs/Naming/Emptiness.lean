import SchemaScaffold.Proofs.Naming.Signs

/-!
# Words whose inflection is empty

An inflection rule replaces what it matches by its template, and the template may be empty or filled
with nothing but what was matched. That a word is lost altogether is possible all the same only
where the ending `s` is dropped from a word that has nothing else.

* `IsTemplate`: texts in which every dollar sign begins a mark of two characters.
* `Rule.LeavesText`: the template of a rule has characters of its own, or it stands for a part of
  the match that cannot be empty. Such a rule rewrites no word to nothing
  (`Rule.LeavesText.rewritten_ne_nil`).
* `pluralize_eq_empty_iff`, `singularize_eq_empty_iff`: the words whose plural and whose singular
  are empty.
* `Naming.HasNoPlural`, `Naming.HasNoSingular`: the names of tables of which this is true in camel
  case. The names of relationships that are formed from them are empty.
-/

namespace SchemaScaffold

namespace Inflection

open Unicode

theorem isSign_dollar : IsSign '$' := by decide

/-! ## Templates -/

/-- Every dollar sign of a text begins a mark of two characters. -/
inductive IsTemplate : List Char → Prop
  | nil : IsTemplate []
  | cons {c : Char} {rest : List Char} (hc : c ≠ '$') (hRest : IsTemplate rest) :
      IsTemplate (c :: rest)
  | mark {c : Char} {rest : List Char} (hc : c ≠ '$') (hRest : IsTemplate rest) :
      IsTemplate ('$' :: c :: rest)

theorem isTemplate_cons_iff {c : Char} {rest : List Char} (hc : c ≠ '$') :
    IsTemplate (c :: rest) ↔ IsTemplate rest := by
  constructor
  · intro h
    cases h with
    | cons _ hRest => exact hRest
    | mark => exact absurd rfl hc
  · exact .cons hc

theorem isTemplate_mark_iff {c : Char} {rest : List Char} :
    IsTemplate ('$' :: c :: rest) ↔ c ≠ '$' ∧ IsTemplate rest := by
  constructor
  · intro h
    cases h with
    | cons hDollar => exact absurd rfl hDollar
    | mark hc hRest => exact ⟨hc, hRest⟩
  · rintro ⟨hc, hRest⟩
    exact .mark hc hRest

theorem not_isTemplate_dollar : ¬ IsTemplate ['$'] := by
  intro h
  cases h with
  | cons hDollar => exact hDollar rfl

instance decidableIsTemplate : (text : List Char) → Decidable (IsTemplate text)
  | [] => isTrue .nil
  | c :: rest =>
    if hc : c = '$' then
      match rest with
      | [] => isFalse (hc ▸ not_isTemplate_dollar)
      | d :: more =>
        have := decidableIsTemplate more
        decidable_of_iff (d ≠ '$' ∧ IsTemplate more) (by rw [hc, isTemplate_mark_iff])
    else
      have := decidableIsTemplate rest
      decidable_of_iff (IsTemplate rest) (isTemplate_cons_iff hc).symm

theorem isTemplate_of_not_mem {text : List Char} (h : '$' ∉ text) : IsTemplate text := by
  induction text with
  | nil => exact .nil
  | cons c rest ih =>
    obtain ⟨hc, hRest⟩ := not_or.mp (mt List.mem_cons.mpr h)
    exact .cons (Ne.symm hc) (ih hRest)

theorem IsTemplate.append {text template : List Char} (hText : IsTemplate text)
    (h : IsTemplate template) : IsTemplate (text ++ template) := by
  induction hText with
  | nil => exact h
  | cons hc _ ih => exact .cons hc ih
  | mark hc _ ih => exact .mark hc ih

section

variable {second c : Char} {text rest : List Char}

theorem replaceMark_nil : replaceMark '$' second text [] = [] := rfl

theorem replaceMark_cons (hc : c ≠ '$') :
    replaceMark '$' second text (c :: rest) = c :: replaceMark '$' second text rest := by
  cases rest with
  | nil => rfl
  | cons d more => rw [replaceMark, if_neg (fun h => hc h.1)]

theorem replaceMark_same :
    replaceMark '$' second text ('$' :: second :: rest) =
      text ++ replaceMark '$' second text rest := by
  rw [replaceMark, if_pos ⟨rfl, rfl⟩]

theorem replaceMark_other (hc : c ≠ '$') (hSecond : c ≠ second) :
    replaceMark '$' second text ('$' :: c :: rest) =
      '$' :: c :: replaceMark '$' second text rest := by
  rw [replaceMark, if_neg (fun h => hSecond h.2), replaceMark_cons hc]

theorem dropMarks_cons (hc : c ≠ '$') : dropMarks (c :: rest) = c :: dropMarks rest := by
  rw [dropMarks]
  · rintro d more rfl
    exact absurd rfl hc
  · rintro rfl
    exact absurd rfl hc

theorem dropMarks_mark : dropMarks ('$' :: c :: rest) = dropMarks rest := by
  rw [dropMarks]

end

theorem IsTemplate.dropMarks_append {template : List Char} (h : IsTemplate template)
    (after : List Char) :
    dropMarks (template ++ after) = dropMarks template ++ dropMarks after := by
  induction h with
  | nil => rfl
  | cons hc _ ih =>
    rw [List.cons_append, dropMarks_cons hc, dropMarks_cons hc, ih, List.cons_append]
  | mark hc _ ih =>
    rw [List.cons_append, List.cons_append, dropMarks_mark, dropMarks_mark, ih]

theorem dropMarks_of_not_mem {text : List Char} (h : '$' ∉ text) : dropMarks text = text := by
  induction text with
  | nil => rfl
  | cons c rest ih =>
    obtain ⟨hc, hRest⟩ := not_or.mp (mt List.mem_cons.mpr h)
    rw [dropMarks_cons (Ne.symm hc), ih hRest]

/-- Filling a mark leaves a template with the characters that it had. -/
theorem IsTemplate.replaceMark (second : Char) {text template : List Char} (hText : '$' ∉ text)
    (h : IsTemplate template) :
    IsTemplate (replaceMark '$' second text template) ∧
      (dropMarks template).Sublist (dropMarks (replaceMark '$' second text template)) := by
  have hPlain := isTemplate_of_not_mem hText
  induction h with
  | nil => exact ⟨.nil, List.Sublist.refl _⟩
  | @cons c rest hc _ ih =>
    rw [replaceMark_cons hc, dropMarks_cons hc, dropMarks_cons hc]
    exact ⟨.cons hc ih.1, ih.2.cons_cons c⟩
  | @mark c rest hc _ ih =>
    rw [dropMarks_mark]
    by_cases hSecond : c = second
    · subst hSecond
      rw [replaceMark_same, hPlain.dropMarks_append]
      exact ⟨hPlain.append ih.1, ih.2.trans (List.sublist_append_right _ _)⟩
    · rw [replaceMark_other hc hSecond, dropMarks_mark]
      exact ⟨.mark hc ih.1, ih.2⟩

theorem IsTemplate.fillTemplate? {word : List Char} {texts : List (List Char)}
    (hTexts : ∀ text ∈ texts, '$' ∉ text) {index : Nat} {template filled : List Char}
    (hTemplate : IsTemplate template)
    (h : fillTemplate? word index texts template = some filled) :
    IsTemplate filled ∧ (dropMarks template).Sublist (dropMarks filled) := by
  induction texts generalizing index template with
  | nil =>
    cases h
    exact ⟨hTemplate, List.Sublist.refl _⟩
  | cons text rest ih =>
    obtain ⟨hText, hRest⟩ := List.forall_mem_cons.mp hTexts
    obtain ⟨restored, hRestored, h⟩ := Option.bind_eq_some_iff.mp h
    have hPlain := not_mem_restoreCase? isSign_dollar hText hRestored
    obtain ⟨hNext, hMore⟩ := hTemplate.replaceMark (Char.ofNat (48 + index)) hPlain
    obtain ⟨hFilled, hAll⟩ := ih hRest hNext h
    exact ⟨hFilled, hMore.trans hAll⟩

/-! ## Rules -/

theorem restored_ne_nil {word text restored : List Char} (hText : text ≠ [])
    (h : restoreCase? word text = some restored) : restored ≠ [] := by
  have hCasing := mem_casings_of_restoreCase? h
  simp only [casings, List.mem_cons, List.not_mem_nil, or_false] at hCasing
  rcases hCasing with rfl | rfl | rfl
  · exact hText
  · exact lowerText_ne_nil hText
  · exact upperText_ne_nil hText

/-- What a rule puts in the place of a match has characters of its own, in every casing, or it is a
part of the match that cannot be empty. -/
def Rule.LeavesText (rule : Rule) : Prop :=
  (∀ template ∈ casings rule.template.toList, IsTemplate template ∧ dropMarks template ≠ []) ∨
  (rule.template.toList = ['$', '0'] ∧ 0 < rule.pattern.minLength) ∨
  (rule.template.toList = ['$', '1'] ∧ rule.pattern.fillsGroups = true ∧
    0 < rule.pattern.minGroups)

instance (rule : Rule) : Decidable rule.LeavesText :=
  inferInstanceAs (Decidable (_ ∨ _ ∨ _))

section

variable {word filled : List Char}

theorem fillTemplate?_mark (index : Nat) {text : List Char} {rest : List (List Char)}
    (hText : text ≠ []) (hTexts : ∀ other ∈ text :: rest, '$' ∉ other)
    (h : fillTemplate? word index (text :: rest) ['$', Char.ofNat (48 + index)] = some filled) :
    IsTemplate filled ∧ dropMarks filled ≠ [] := by
  obtain ⟨hPlain, hRest⟩ := List.forall_mem_cons.mp hTexts
  obtain ⟨restored, hRestored, h⟩ := Option.bind_eq_some_iff.mp h
  rw [replaceMark_same, replaceMark_nil, List.append_nil] at h
  have hSame := not_mem_restoreCase? isSign_dollar hPlain hRestored
  obtain ⟨hFilled, hAll⟩ := (isTemplate_of_not_mem hSame).fillTemplate? hRest h
  rw [dropMarks_of_not_mem hSame] at hAll
  exact ⟨hFilled, fun hNothing => restored_ne_nil hText hRestored
    (List.sublist_nil.mp (hNothing ▸ hAll))⟩

theorem Rule.LeavesText.fillTemplate? {rule : Rule} (h : rule.LeavesText) {found : Pattern.Match}
    (hFound : rule.pattern.find? word = some found)
    (hTexts : ∀ text ∈ found.matched :: found.groups, '$' ∉ text) {template : List Char}
    (hTemplate : restoreCase? word rule.template.toList = some template)
    (hFilled : fillTemplate? word 0 (found.matched :: found.groups) template = some filled) :
    IsTemplate filled ∧ dropMarks filled ≠ [] := by
  obtain ⟨hLength, hGroups⟩ := Pattern.spans_of_find? hFound
  have hCasing := mem_casings_of_restoreCase? hTemplate
  rcases h with hOwn | ⟨hWhole, hTakes⟩ | ⟨hPart, hFills, hCloses⟩
  · obtain ⟨hIsTemplate, hSome⟩ := hOwn template hCasing
    obtain ⟨hIsFilled, hAll⟩ := hIsTemplate.fillTemplate? hTexts hFilled
    exact ⟨hIsFilled, fun hNothing => hSome (List.sublist_nil.mp (hNothing ▸ hAll))⟩
  · have hMark : ∀ text ∈ casings ['$', '0'], text = ['$', '0'] := by decide +kernel
    rw [hWhole] at hCasing
    obtain rfl := hMark template hCasing
    have hMatched : found.matched ≠ [] := List.length_pos_iff.mp (by omega)
    exact fillTemplate?_mark 0 hMatched hTexts hFilled
  · have hMark : ∀ text ∈ casings ['$', '1'], text = ['$', '1'] := by decide +kernel
    rw [hPart] at hCasing
    obtain rfl := hMark template hCasing
    obtain ⟨hCount, hFull⟩ := hGroups hFills
    obtain ⟨restored, -, hFilled⟩ := Option.bind_eq_some_iff.mp hFilled
    rw [replaceMark_other (by decide) (by decide), replaceMark_nil] at hFilled
    cases hSplit : found.groups with
    | nil =>
      rw [hSplit, List.length_nil] at hCount
      omega
    | cons first rest =>
      rw [hSplit] at hTexts hFull hFilled
      exact fillTemplate?_mark 1 (hFull first List.mem_cons_self)
        (List.forall_mem_cons.mp hTexts).2 hFilled

/-- Such a rule rewrites no word to nothing. -/
theorem Rule.LeavesText.rewritten_ne_nil {rule : Rule} (h : rule.LeavesText) (hWord : '$' ∉ word)
    {found : Pattern.Match} (hFound : rule.pattern.find? word = some found)
    {rewritten : List Char} (hRewritten : rule.rewritten word found = some rewritten) :
    rewritten ≠ [] := by
  have hParts : found.Satisfies (· ≠ '$') :=
    Pattern.satisfies_of_find? (fun c hc hDollar => hWord (hDollar ▸ hc)) hFound
  have hBefore : '$' ∉ found.before := fun hMem => hParts.before '$' hMem rfl
  have hTexts : ∀ text ∈ found.matched :: found.groups, '$' ∉ text :=
    fun text hText hMem => hParts.texts text hText '$' hMem rfl
  obtain ⟨template, hTemplate, hRewritten⟩ := Option.bind_eq_some_iff.mp hRewritten
  obtain ⟨filled, hFilled, hRewritten⟩ := Option.bind_eq_some_iff.mp hRewritten
  obtain rfl := Option.some.inj hRewritten
  obtain ⟨hIsTemplate, hSome⟩ := h.fillTemplate? hFound hTexts hTemplate hFilled
  have hFront := isTemplate_of_not_mem hBefore
  rw [(hFront.append hIsTemplate).dropMarks_append, hFront.dropMarks_append]
  exact List.append_ne_nil_of_left_ne_nil (List.append_ne_nil_of_right_ne_nil _ hSome) _

end

/-! ## Words -/

theorem ofList_eq_empty_iff {text : List Char} : String.ofList text = "" ↔ text = [] := by
  rw [← String.toList_inj, String.toList_ofList, String.toList_empty]

/-- Only a rule can inflect a word to nothing. -/
theorem Direction.exists_of_inflect_eq_empty {direction : Direction} {word : String}
    (hKept : ∀ pair ∈ direction.kept, pair.1 ≠ "")
    (hReplaced : ∀ pair ∈ direction.replaced, pair.2 ≠ "") (hWord : word ≠ "")
    (h : direction.inflect word = some "") :
    ∃ rule ∈ direction.rules, ∃ found, rule.pattern.find? word.toList = some found ∧
      rule.rewritten word.toList found = some [] := by
  have hRestored {text : String} (hText : text ≠ "") :
      (restoreCase? word.toList text.toList).map String.ofList ≠ some "" := by
    intro hMap
    obtain ⟨restored, hRestored, hEmpty⟩ := Option.map_eq_some_iff.mp hMap
    rw [ofList_eq_empty_iff] at hEmpty
    exact restored_ne_nil (mt String.toList_eq_nil_iff.mp hText) hRestored hEmpty
  have hListed {pairs : List (String × String)} {key value : String}
      (hPair : lookupLast? key pairs = some value) : (key, value) ∈ pairs := by
    obtain ⟨before, after, hSplit, -⟩ := List.lookup_eq_some_iff.mp hPair
    exact List.mem_reverse.mp (by simp [hSplit])
  unfold Direction.inflect at h
  simp only at h
  split at h
  · rename_i hSome
    obtain ⟨value, hValue⟩ := Option.isSome_iff_exists.mp hSome
    exact absurd h (hRestored (hKept _ (hListed hValue)))
  · split at h
    · rename_i other hOther
      exact absurd h (hRestored (hReplaced _ (hListed hOther)))
    · split at h
      · exact absurd (Option.some.inj h) hWord
      · split at h
        · rename_i rule found hMatch
          obtain ⟨listed, hRule, hFind⟩ := List.exists_of_findSome?_eq_some hMatch
          obtain ⟨_, hFound, hEq⟩ := Option.map_eq_some_iff.mp hFind
          obtain ⟨rfl, rfl⟩ := Prod.mk.inj hEq
          obtain ⟨rewritten, hRewritten, hEmpty⟩ := Option.map_eq_some_iff.mp h
          rw [ofList_eq_empty_iff] at hEmpty
          exact ⟨_, List.mem_reverse.mp hRule, _, hFound, hEmpty ▸ hRewritten⟩
        · exact absurd (Option.some.inj h) hWord

/-- No word but the empty one has an empty plural. -/
theorem pluralize_eq_empty_iff {word : String} (hDollar : '$' ∉ word.toList) :
    pluralize word = some "" ↔ word = "" := by
  constructor
  · intro h
    by_contra hWord
    have hRules : ∀ rule ∈ pluralRules, rule.LeavesText := by decide +kernel
    obtain ⟨rule, hRule, found, hFound, hRewritten⟩ :=
      toPlural.exists_of_inflect_eq_empty (by decide +kernel) (by decide +kernel) hWord h
    exact (hRules rule hRule).rewritten_ne_nil hDollar hFound hRewritten rfl
  · rintro rfl
    exact pluralize_empty

/-- The rule that drops the ending `s`. -/
def dropsEnding : Rule := ending [Pattern.word "s"] ""

/-- What folds to `s`: small, capital and long. -/
theorem foldCase_eq_s_iff {c : Char} : foldCase c = 's' ↔ c = 's' ∨ c = 'S' ∨ c = 'ſ' := by
  constructor
  · intro h
    unfold foldCase at h
    split_ifs at h with hAscii hLong hKelvin hAcute
    · have hTable : ∀ code < 0x80, (Char.ofNat code).toLower = 's' →
          Char.ofNat code = 's' ∨ Char.ofNat code = 'S' := by decide +kernel
      have hChar := hTable c.toNat hAscii
      rw [Char.ofNat_toNat] at hChar
      exact (hChar h).imp_right Or.inl
    · exact Or.inr (Or.inr (by rw [← Char.ofNat_toNat c, hLong]))
    · exact absurd h (by decide)
    · exact absurd h (by decide)
    · exact Or.inl h
  · rintro (rfl | rfl | rfl) <;> decide

theorem exists_of_matchAt?_dropsEnding {front back : List Char} {found : Pattern.Match}
    (h : dropsEnding.pattern.matchAt? front back = some found) :
    ∃ c, foldCase c = 's' ∧ back = [c] ∧ found.before = front.reverse := by
  obtain ⟨stop, hStop, rfl⟩ := Option.map_eq_some_iff.mp h
  cases back with
  | nil => cases hStop
  | cons c rest =>
    have hRun : dropsEnding.pattern.run ⟨front, c :: rest, []⟩ some =
        if foldCase c = 's' ∧ rest = [] then some ⟨c :: front, rest, []⟩ else none := by
      by_cases hc : foldCase c = 's' <;> cases rest <;>
        simp [dropsEnding, ending, Pattern.all, Pattern.word, Pattern.run, Pattern.Place.advance,
          hc]
    rw [hRun] at hStop
    split_ifs at hStop with hEnds
    exact ⟨c, hEnds.1, by rw [hEnds.2], rfl⟩

/-- Dropping the ending leaves nothing only of a word that is nothing else. -/
theorem exists_of_rewritten_dropsEnding {word : List Char} (hWord : '$' ∉ word)
    {found : Pattern.Match} (hFound : dropsEnding.pattern.find? word = some found)
    (hRewritten : dropsEnding.rewritten word found = some []) :
    ∃ c, foldCase c = 's' ∧ word = [c] := by
  obtain ⟨front, back, rfl, hMatch⟩ := Pattern.exists_of_find? hFound
  obtain ⟨c, hc, rfl, hBefore⟩ := exists_of_matchAt?_dropsEnding hMatch
  have hFront : '$' ∉ front.reverse := fun hMem => hWord (List.mem_append_left _ hMem)
  obtain ⟨template, hTemplate, hRewritten⟩ := Option.bind_eq_some_iff.mp hRewritten
  obtain ⟨filled, hFilled, hRewritten⟩ := Option.bind_eq_some_iff.mp hRewritten
  have hNothing := Option.some.inj hRewritten
  rw [hBefore, List.append_assoc, (isTemplate_of_not_mem hFront).dropMarks_append,
    List.append_eq_nil_iff, dropMarks_of_not_mem hFront] at hNothing
  exact ⟨c, hc, by rw [hNothing.1, List.nil_append]⟩

/-- No words but the empty one and a lone `s` have an empty singular. -/
theorem singularize_eq_empty_iff {word : String} (hDollar : '$' ∉ word.toList) :
    singularize word = some "" ↔ word = "" ∨ word ∈ ["s", "S", "ſ"] := by
  constructor
  · intro h
    by_cases hWord : word = ""
    · exact Or.inl hWord
    · right
      have hRules : ∀ rule ∈ singularRules, rule = dropsEnding ∨ rule.LeavesText := by
        decide +kernel
      obtain ⟨rule, hRule, found, hFound, hRewritten⟩ :=
        toSingular.exists_of_inflect_eq_empty (by decide +kernel) (by decide +kernel) hWord h
      rcases hRules rule hRule with rfl | hLeaves
      · obtain ⟨c, hc, hLone⟩ := exists_of_rewritten_dropsEnding hDollar hFound hRewritten
        have hWord : word = String.ofList [c] := by
          rw [← String.toList_inj, String.toList_ofList, hLone]
        rw [hWord]
        rcases foldCase_eq_s_iff.mp hc with rfl | rfl | rfl <;> decide
      · exact absurd rfl (hLeaves.rewritten_ne_nil hDollar hFound hRewritten)
  · rintro (rfl | hWord)
    · exact singularize_empty
    · have hLone : ∀ word ∈ ["s", "S", "ſ"], singularize word = some "" := by decide +kernel
      exact hLone word hWord

end Inflection

/-! ## Names of tables -/

namespace Naming

open Inflection Unicode

/-- The name of a table has no letter, so that its plural is empty. -/
def HasNoPlural (table : String) : Prop := letters table = []

/-- The name of a table has no letter, or none but one `s`, so that its singular is empty. -/
def HasNoSingular (table : String) : Prop :=
  letters table = [] ∨ letters table ∈ [['s'], ['S'], ['ſ']]

instance (table : String) : Decidable (HasNoPlural table) :=
  inferInstanceAs (Decidable (_ = _))

instance (table : String) : Decidable (HasNoSingular table) :=
  inferInstanceAs (Decidable (_ ∨ _))

variable {table : String}

theorem pluralize_camelCase_eq_empty_iff :
    pluralize (camelCase table) = some "" ↔ HasNoPlural table := by
  rw [pluralize_eq_empty_iff (not_mem_camelCase isSign_dollar table), camelCase_eq_empty_iff]
  rfl

theorem foldCase_of_mapCode {c d : Char} (h : mapCode lowerExpansions lowerRuns c = [d])
    (hd : foldCase d = 's') : foldCase c = 's' := by
  have hImages : ∀ run ∈ lowerRuns, ∀ image ∈ ([0x73, 0x53, 0x17F] : List Nat),
      ¬ ((run.first : Int) + run.offset ≤ image ∧ (image : Int) ≤ run.last + run.offset) := by
    decide +kernel
  unfold mapCode at h
  split at h
  · rename_i codes hCodes
    obtain ⟨before, after, hSplit, -⟩ := List.lookup_eq_some_iff.mp hCodes
    have hLong : ∀ expansion ∈ lowerExpansions, expansion.2.length ≠ 1 := by decide
    have hLength := congrArg List.length h
    rw [List.length_map] at hLength
    exact absurd hLength (hLong (c.toNat, codes) (by simp [hSplit]))
  · split at h
    · -- the image would be one of three, and no run has it
      rename_i code hTarget
      obtain ⟨run, hRun, hFirst, hLast, hCode⟩ := exists_of_target? hTarget
      obtain rfl := List.singleton_inj.mp h
      have hValue : (Char.ofNat code).toNat ∈ ([0x73, 0x53, 0x17F] : List Nat) := by
        rcases foldCase_eq_s_iff.mp hd with hChar | hChar | hChar <;> rw [hChar] <;> decide
      have hPositive : ∀ value ∈ ([0x73, 0x53, 0x17F] : List Nat), 0 < value := by decide
      rw [toNat_ofNat_of_pos (hPositive _ hValue)] at hValue
      have hCodePositive := hPositive code hValue
      exact absurd ⟨by omega, by omega⟩ (hImages run hRun code hValue)
    · rw [List.singleton_inj.mp h, hd]

/-- Only what folds to `s` has a lower case that does. -/
theorem foldCase_of_lowerWord {c d : Char} (h : lowerWord [c] = [d]) (hd : foldCase d = 's') :
    foldCase c = 's' := by
  rw [lowerWord] at h
  split_ifs at h with hSigma
  · obtain rfl := List.singleton_inj.mp h
    exact absurd hd (by decide)
  · unfold lowerOf at h
    split_ifs at h with hAscii
    · have hTable : ∀ code < 0x80, foldCase (Char.ofNat code).toLower = 's' →
          foldCase (Char.ofNat code) = 's' := by decide +kernel
      have hChar := hTable c.toNat hAscii
      rw [Char.ofNat_toNat, List.singleton_inj.mp h] at hChar
      exact hChar hd
    · exact foldCase_of_mapCode h hd

theorem singularize_camelCase_eq_empty_iff :
    singularize (camelCase table) = some "" ↔ HasNoSingular table := by
  rw [singularize_eq_empty_iff (not_mem_camelCase isSign_dollar table), camelCase_eq_empty_iff]
  refine or_congr_right' fun hSome => ?_
  simp only [List.mem_cons, List.not_mem_nil, or_false]
  constructor
  · intro hCamel
    obtain ⟨d, hd, hWord⟩ : ∃ d, foldCase d = 's' ∧ (camelCase table).toList = [d] := by
      rcases hCamel with hCamel | hCamel | hCamel <;> rw [hCamel]
      · exact ⟨'s', by decide, by decide⟩
      · exact ⟨'S', by decide, by decide⟩
      · exact ⟨'ſ', by decide, by decide⟩
    -- camel case loses no letter, so that there is one only
    have hLength := length_letters_le table
    have hPositive := List.length_pos_iff.mpr hSome
    rw [hWord, List.length_singleton] at hLength
    obtain ⟨c, hLetters⟩ := List.length_eq_one_iff.mp (Nat.le_antisymm hLength hPositive)
    rw [camelCase_of_letters_eq hLetters, String.toList_ofList] at hWord
    have hc := foldCase_eq_s_iff.mp (foldCase_of_lowerWord hWord hd)
    simpa only [hLetters, List.singleton_inj] using hc
  · intro hLetters
    have hCamel {c : Char} (h : letters table = [c]) : camelCase table = _ :=
      camelCase_of_letters_eq h
    rcases hLetters with hLetters | hLetters | hLetters <;> rw [hCamel hLetters]
    · decide +kernel
    · decide +kernel
    · decide +kernel

/-! ## Names of relationships -/

theorem belongsToName_eq_empty_iff {source target targetModel : String} :
    belongsToName source target targetModel = some "" ↔
      source ≠ target ∧ HasNoSingular target := by
  unfold belongsToName
  split_ifs with hSame
  · have hParent : "parent" ++ targetModel ≠ "" := by
      intro hEmpty
      have hLength := congrArg String.length hEmpty
      rw [String.length_append] at hLength
      exact absurd (Nat.eq_zero_of_add_eq_zero_right hLength) (by decide)
    simp [hSame, hParent]
  · simp [hSame, singularize_camelCase_eq_empty_iff]

theorem hasName_eq_empty_iff {source : String} {unique : Bool} :
    hasName source unique = some "" ↔
      if unique then HasNoSingular source else HasNoPlural source := by
  unfold hasName
  split_ifs
  · exact singularize_camelCase_eq_empty_iff
  · exact pluralize_camelCase_eq_empty_iff

theorem belongsToManyName_eq_empty_iff {partner : String} :
    belongsToManyName partner = some "" ↔ HasNoPlural partner := by
  rw [belongsToManyName, pluralize_camelCase_eq_empty_iff]

end Naming

end SchemaScaffold
