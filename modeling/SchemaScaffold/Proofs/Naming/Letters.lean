import Mathlib.Data.List.Basic
import SchemaScaffold.Naming.CamelCase

/-!
# The letters of a name

Camel case keeps the letters and numbers of a name, in order, and drops all else. It may change
their case, and a letter may become several characters, but none of them is lost.

* `letters`: the letters and numbers of a name.
* `flatten_words`: they are what the words of the name are made of.
* `length_letters_le`: camel case has at least as many characters.
* `camelCase_eq_empty_iff`: it is empty for names without letters only.
* `camelCase_of_letters_eq`: that of a name with one letter is the lower case of the letter.
-/

namespace SchemaScaffold

/-! ## Case maps -/

namespace Unicode

theorem mapCode_ne_nil {expansions : List (Nat × List Nat)} {runs : List ShiftRun}
    (hExpansions : ∀ expansion ∈ expansions, expansion.2 ≠ []) (c : Char) :
    mapCode expansions runs c ≠ [] := by
  unfold mapCode
  split
  · rename_i codes hCodes
    obtain ⟨before, after, hSplit, -⟩ := List.lookup_eq_some_iff.mp hCodes
    have hNonempty : codes ≠ [] := hExpansions (c.toNat, codes) (by simp [hSplit])
    exact fun hMap => hNonempty (List.map_eq_nil_iff.mp hMap)
  · split <;> exact List.cons_ne_nil _ _

theorem upperOf_ne_nil (c : Char) : upperOf c ≠ [] := by
  unfold upperOf
  split
  · exact List.cons_ne_nil _ _
  · exact mapCode_ne_nil (by decide +kernel) c

theorem lowerOf_ne_nil (c : Char) : lowerOf c ≠ [] := by
  unfold lowerOf
  split
  · exact List.cons_ne_nil _ _
  · exact mapCode_ne_nil (by decide +kernel) c

theorem upperText_ne_nil {text : List Char} (h : text ≠ []) : upperText text ≠ [] := by
  obtain ⟨c, rest, rfl⟩ := List.exists_cons_of_ne_nil h
  rw [upperText, List.flatMap_cons]
  exact List.append_ne_nil_of_left_ne_nil (upperOf_ne_nil c) _

theorem lowerText_ne_nil {text : List Char} (h : text ≠ []) : lowerText text ≠ [] := by
  obtain ⟨c, rest, rfl⟩ := List.exists_cons_of_ne_nil h
  rw [lowerText, lowerAfter]
  refine List.append_ne_nil_of_left_ne_nil ?_ _
  split
  · exact List.cons_ne_nil _ _
  · exact lowerOf_ne_nil c

end Unicode

namespace Naming

open Unicode

/-- The letters and numbers of a name. -/
def letters (name : String) : List Char := name.toList.filter isAlphanumeric

/-! ## Words -/

theorem flatten_pieces (text : List Char) : (pieces text).flatten = text.filter isAlphanumeric := by
  induction text with
  | nil => rfl
  | cons c rest ih =>
    unfold pieces
    by_cases hc : isAlphanumeric c = true
    · rw [if_pos hc, List.filter_cons_of_pos hc, ← ih]
      cases pieces rest <;> rfl
    · rw [if_neg hc, List.filter_cons_of_neg hc, List.flatten_cons, List.nil_append, ih]

/-- The words of a piece are made of the word that was begun and the piece. -/
theorem flatten_wordsFrom (mode : Mode) (begun piece : List Char) :
    (wordsFrom mode begun piece).flatten = begun.reverse ++ piece := by
  fun_induction wordsFrom mode begun piece <;> simp_all

theorem flatten_words (name : String) : (words name.toList).flatten = letters name := by
  have hWords : ∀ parts : List (List Char),
      (parts.flatMap wordsOfPiece).flatten = parts.flatten := by
    intro parts
    induction parts with
    | nil => rfl
    | cons piece rest ih =>
      rw [List.flatMap_cons, List.flatten_append, ih, wordsOfPiece, flatten_wordsFrom,
        List.reverse_nil, List.nil_append, List.flatten_cons]
  rw [words, hWords, flatten_pieces, letters]

theorem isAlphanumeric_of_mem_words {name : String} {word : List Char}
    (hWord : word ∈ words name.toList) {c : Char} (hc : c ∈ word) : isAlphanumeric c = true := by
  have hLetter : c ∈ letters name := by
    rw [← flatten_words]
    exact List.mem_flatten.mpr ⟨word, hWord, hc⟩
  exact (List.mem_filter.mp hLetter).2

/-! ## Camel case -/

theorem length_le_lowerWord (word : List Char) : word.length ≤ (lowerWord word).length := by
  fun_induction lowerWord word with
  | case1 => exact Nat.le_refl 0
  | case2 => exact Nat.le_refl 1
  | case3 c => exact List.length_pos_iff.mpr (lowerOf_ne_nil c)
  | case4 c rest _ ih =>
    have hFirst : 0 < (lowerOf c).length := List.length_pos_iff.mpr (lowerOf_ne_nil c)
    rw [List.length_append, List.length_cons]
    omega

theorem length_le_capitalise (word : List Char) : word.length ≤ (capitalise word).length := by
  cases word with
  | nil => exact Nat.le_refl 0
  | cons c rest =>
    have hFirst : 0 < (upperOf c).length := List.length_pos_iff.mpr (upperOf_ne_nil c)
    have hRest := length_le_lowerWord rest
    rw [capitalise, List.length_append, List.length_cons]
    omega

theorem length_flatten_le_camelWords (parts : List (List Char)) :
    parts.flatten.length ≤ (camelWords parts).length := by
  cases parts with
  | nil => exact Nat.le_refl 0
  | cons first rest =>
    have hFirst := length_le_lowerWord first
    have hRest : rest.flatten.length ≤ (rest.flatMap capitalise).length := by
      induction rest with
      | nil => exact Nat.le_refl 0
      | cons word more ih =>
        have hWord := length_le_capitalise word
        rw [List.flatten_cons, List.flatMap_cons, List.length_append, List.length_append]
        omega
    rw [camelWords, List.flatten_cons, List.length_append, List.length_append]
    omega

/-- Camel case loses no letter. -/
theorem length_letters_le (name : String) :
    (letters name).length ≤ (camelCase name).toList.length := by
  rw [camelCase, String.toList_ofList, ← flatten_words]
  exact length_flatten_le_camelWords _

theorem camelCase_eq_empty_iff {name : String} : camelCase name = "" ↔ letters name = [] := by
  constructor
  · intro h
    have hLength := length_letters_le name
    rw [h] at hLength
    exact List.length_eq_zero_iff.mp (Nat.le_zero.mp hLength)
  · intro h
    have hWords : ∀ word ∈ words name.toList, word = [] := by
      rw [← flatten_words, List.flatten_eq_nil_iff] at h
      exact h
    rw [camelCase]
    cases hSplit : words name.toList with
    | nil => rfl
    | cons first rest =>
      obtain ⟨rfl, hRest⟩ := List.forall_mem_cons.mp (hSplit ▸ hWords)
      have hNothing : rest.flatMap capitalise = [] := by
        rw [List.flatMap_eq_nil_iff]
        rintro word hWord
        rw [hRest word hWord, capitalise]
      rw [camelWords, hNothing, lowerWord, List.append_nil]

theorem flatMap_wordsOfPiece_of_flatten_eq_nil {parts : List (List Char)}
    (h : parts.flatten = []) : parts.flatMap wordsOfPiece = [] := by
  rw [List.flatMap_eq_nil_iff]
  intro piece hPiece
  rw [List.flatten_eq_nil_iff.mp h piece hPiece]
  rfl

theorem flatMap_wordsOfPiece_of_flatten_eq {parts : List (List Char)} {c : Char}
    (h : parts.flatten = [c]) : parts.flatMap wordsOfPiece = [[c]] := by
  induction parts with
  | nil => cases h
  | cons piece rest ih =>
    rw [List.flatMap_cons]
    cases piece with
    | nil => exact ih h
    | cons d more =>
      rw [List.flatten_cons, List.cons_append, List.cons.injEq, List.append_eq_nil_iff] at h
      obtain ⟨rfl, rfl, hRest⟩ := h
      rw [flatMap_wordsOfPiece_of_flatten_eq_nil hRest]
      rfl

/-- Whatever stands around it, one letter is one word. -/
theorem camelCase_of_letters_eq {name : String} {c : Char} (h : letters name = [c]) :
    camelCase name = String.ofList (lowerWord [c]) := by
  have hWords : words name.toList = [[c]] :=
    flatMap_wordsOfPiece_of_flatten_eq ((flatten_pieces name.toList).trans h)
  rw [camelCase, hWords, camelWords, List.flatMap_nil, List.append_nil]

end Naming

end SchemaScaffold
