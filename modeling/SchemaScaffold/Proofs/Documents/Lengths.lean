import Mathlib.Data.List.Induction
import Mathlib.Data.List.TakeWhile
import SchemaScaffold.Proofs.Documents.Sources

/-!
# The grammar of column lengths

Which values stand for a length, and for which one, is written down here without the functions that
decode lengths.

* `Json.Digits`, `Json.Numeral`, `Json.Spells`: rows of decimal digits, numerals, and strings that
  hold a numeral between white space, each with the number it denotes.
* `Json.DenotesLength`: the values that stand for a length or for none.
* `decodeLength_grammar`: lengths are decoded by this grammar, and what it leaves out is refused.
-/

namespace SchemaScaffold.Json

open Unicode

/-! ## The grammar -/

/-- A row of decimal digits, and the number it denotes. -/
inductive Digits : List Char → Nat → Prop
  | single {digit : Nat} (h : digit < 10) : Digits [Nat.digitChar digit] digit
  | more {front : List Char} {n digit : Nat} (hFront : Digits front n) (h : digit < 10) :
      Digits (front ++ [Nat.digitChar digit]) (n * 10 + digit)

/-- Digits, or a plus sign and digits behind it. -/
inductive Numeral : List Char → Nat → Prop
  | unsigned {text : List Char} {n : Nat} (h : Digits text n) : Numeral text n
  | signed {text : List Char} {n : Nat} (h : Digits text n) : Numeral ('+' :: text) n

/-- Characters that are all white space. -/
def AllBlank (text : List Char) : Prop := ∀ c ∈ text, isBlank c = true

/-- A numeral that may have white space on both sides. -/
def Spells (s : String) (n : Nat) : Prop :=
  ∃ front numeral back, s.toList = front ++ numeral ++ back ∧ AllBlank front ∧ AllBlank back ∧
    Numeral numeral n

/-- The values that stand for a length, and those that stand for none. -/
inductive DenotesLength : Json → Option Nat → Prop
  | null : DenotesLength .null none
  | zero : DenotesLength (.natural 0) none
  | blank {s : String} (h : AllBlank s.toList) : DenotesLength (.string s) none
  | spelledZero {s : String} (h : Spells s 0) : DenotesLength (.string s) none
  | number {n : Nat} (h : 1 ≤ n ∧ n ≤ 4294967295) : DenotesLength (.natural n) (some n)
  | spelled {s : String} {n : Nat} (h : 1 ≤ n ∧ n ≤ 4294967295) (hSpells : Spells s n) :
      DenotesLength (.string s) (some n)

/-! ## Numerals -/

theorem exists_digitChar {c : Char} (h : c.isDigit = true) :
    ∃ digit < 10, c = Nat.digitChar digit := by
  obtain ⟨hLow, hHigh⟩ := Char.isDigit_iff_toNat.mp h
  have hZero : '0'.toNat = 48 := rfl
  have hNine : '9'.toNat = 57 := rfl
  have hDigit : c.toNat - 48 < 10 := by omega
  refine ⟨c.toNat - 48, hDigit, Char.toNat_inj.mp ?_⟩
  rw [Nat.toNat_digitChar_of_lt_ten hDigit]
  omega

theorem digitsValue_append_digitChar (front : List Char) {digit : Nat} (h : digit < 10) :
    digitsValue (front ++ [Nat.digitChar digit]) = digitsValue front * 10 + digit := by
  simp [digitsValue, Nat.toNat_digitChar_of_lt_ten h]

theorem digits_iff {text : List Char} {n : Nat} :
    Digits text n ↔ text ≠ [] ∧ text.all Char.isDigit = true ∧ digitsValue text = n := by
  constructor
  · intro h
    induction h with
    | single h =>
      have hValue := digitsValue_append_digitChar [] h
      exact ⟨by simp, by simp [Nat.isDigit_digitChar, h], by simpa [digitsValue] using hValue⟩
    | more _ h ih =>
      obtain ⟨-, hAll, rfl⟩ := ih
      refine ⟨by simp, ?_, digitsValue_append_digitChar _ h⟩
      simp only [List.all_append, List.all_cons, List.all_nil, hAll, Nat.isDigit_digitChar, h,
        decide_true, Bool.and_self]
  · rintro ⟨hNonempty, hAll, rfl⟩
    induction text using List.reverseRecOn with
    | nil => exact absurd rfl hNonempty
    | append_singleton front c ih =>
      simp only [List.all_append, List.all_cons, List.all_nil, Bool.and_true,
        Bool.and_eq_true] at hAll
      obtain ⟨digit, hDigit, rfl⟩ := exists_digitChar hAll.2
      rw [digitsValue_append_digitChar _ hDigit]
      by_cases hFront : front = []
      · subst hFront
        simpa [digitsValue] using Digits.single hDigit
      · exact .more (ih hFront hAll.1) hDigit

/-- A row of digits has no sign in front. -/
theorem not_digits_plus {rest : List Char} {n : Nat} : ¬ Digits ('+' :: rest) n := by
  intro h
  have hAll := (digits_iff.mp h).2.1
  have hPlus : '+'.isDigit = false := by decide
  simp [hPlus] at hAll

theorem Digits.unique {text : List Char} {n m : Nat} (h : Digits text n) (h' : Digits text m) :
    n = m :=
  (digits_iff.mp h).2.2.symm.trans (digits_iff.mp h').2.2

theorem Numeral.unique {text : List Char} {n m : Nat} (h : Numeral text n) (h' : Numeral text m) :
    n = m := by
  cases h with
  | unsigned h =>
    cases h' with
    | unsigned h' => exact h.unique h'
    | signed h' => exact absurd h not_digits_plus
  | signed h =>
    cases h' with
    | unsigned h' => exact absurd h' not_digits_plus
    | signed h' => exact h.unique h'

theorem numeral?_eq_some_iff {text : List Char} {n : Nat} :
    numeral? text = some n ↔ Numeral text n ∧ n ≤ maxLength := by
  have hDigits (digits : List Char) :
      (if digits ≠ [] ∧ digits.all Char.isDigit ∧ digitsValue digits ≤ maxLength then
        some (digitsValue digits) else none) = some n ↔ Digits digits n ∧ n ≤ maxLength := by
    rw [digits_iff]
    grind
  have hUnsigned (hSign : ∀ rest, text ≠ '+' :: rest) : Numeral text n ↔ Digits text n := by
    refine ⟨fun h => ?_, .unsigned⟩
    cases h with
    | unsigned h => exact h
    | signed h => exact absurd rfl (hSign _)
  cases text with
  | nil =>
    rw [hUnsigned (by simp), ← hDigits]
    simp [numeral?]
  | cons c rest =>
    by_cases hc : c = '+'
    · subst hc
      have hSigned : Numeral ('+' :: rest) n ↔ Digits rest n := by
        refine ⟨fun h => ?_, .signed⟩
        cases h with
        | unsigned h => exact absurd h not_digits_plus
        | signed h => exact h
      rw [hSigned, ← hDigits, numeral?]
    · rw [hUnsigned (by simp [hc]), ← hDigits]
      simp [numeral?, hc]

/-! ## White space around a numeral -/

theorem isBlank_eq_false_of_isDigit {c : Char} (h : c.isDigit = true) : isBlank c = false := by
  have hDigits : ∀ digit < 10, isBlank (Nat.digitChar digit) = false := by decide
  obtain ⟨digit, hDigit, rfl⟩ := exists_digitChar h
  exact hDigits digit hDigit

/-- No character of a numeral is white space. -/
theorem Numeral.not_isBlank {text : List Char} {n : Nat} (h : Numeral text n) :
    text ≠ [] ∧ ∀ c ∈ text, isBlank c = false := by
  have hDigits {digits : List Char} (h : Digits digits n) :
      digits ≠ [] ∧ ∀ c ∈ digits, isBlank c = false := by
    obtain ⟨hNonempty, hAll, -⟩ := digits_iff.mp h
    exact ⟨hNonempty, fun c hc => isBlank_eq_false_of_isDigit (List.all_eq_true.mp hAll c hc)⟩
  cases h with
  | unsigned h => exact hDigits h
  | signed h => exact ⟨by simp, List.forall_mem_cons.mpr ⟨by decide, (hDigits h).2⟩⟩

theorem AllBlank.reverse {text : List Char} (h : AllBlank text) : AllBlank text.reverse :=
  fun c hc => h c (List.mem_reverse.mp hc)

theorem trimBlanks_append {front core back : List Char} (hFront : AllBlank front)
    (hBack : AllBlank back) (hCore : ∀ c ∈ core, isBlank c = false) (hNonempty : core ≠ []) :
    trimBlanks (front ++ core ++ back) = core := by
  have hStarts {text : List Char} (hText : ∀ c ∈ text, isBlank c = false) (hText' : text ≠ [])
      (rest : List Char) : (text ++ rest).dropWhile isBlank = text ++ rest := by
    cases text with
    | nil => exact absurd rfl hText'
    | cons c text => simp [hText c List.mem_cons_self]
  have hCore' : ∀ c ∈ core.reverse, isBlank c = false :=
    fun c hc => hCore c (List.mem_reverse.mp hc)
  have hLast := hStarts hCore' (by simpa using hNonempty) []
  rw [List.append_nil] at hLast
  rw [trimBlanks, List.append_assoc, List.dropWhile_append_of_pos hFront, hStarts hCore hNonempty,
    List.reverse_append, List.dropWhile_append_of_pos hBack.reverse, hLast, List.reverse_reverse]

/-- What stands around a trimmed text is white space. -/
theorem exists_eq_trimBlanks (text : List Char) :
    ∃ front back, text = front ++ trimBlanks text ++ back ∧ AllBlank front ∧ AllBlank back := by
  have hBlank (part : List Char) : AllBlank (part.takeWhile isBlank) :=
    fun c hc => List.mem_takeWhile_imp hc
  have hFront := List.takeWhile_append_dropWhile (p := isBlank) (l := text)
  have hBack := List.takeWhile_append_dropWhile (p := isBlank)
    (l := (text.dropWhile isBlank).reverse)
  refine ⟨text.takeWhile isBlank, ((text.dropWhile isBlank).reverse.takeWhile isBlank).reverse,
    ?_, hBlank text, (hBlank _).reverse⟩
  rw [trimBlanks, List.append_assoc, ← List.reverse_append, hBack, List.reverse_reverse, hFront]

theorem trimBlanks_eq_nil_iff {text : List Char} : trimBlanks text = [] ↔ AllBlank text := by
  constructor
  · intro h
    obtain ⟨front, back, hText, hFront, hBack⟩ := exists_eq_trimBlanks text
    rw [hText, h, List.append_nil]
    exact List.forall_mem_append.mpr ⟨hFront, hBack⟩
  · intro h
    rw [trimBlanks, List.dropWhile_eq_nil_iff.mpr h]
    rfl

/-! ## Strings -/

/-- A string spells a number if and only if its trimmed text is a numeral. -/
theorem spells_iff {s : String} {n : Nat} : Spells s n ↔ Numeral (trimBlanks s.toList) n := by
  constructor
  · rintro ⟨front, numeral, back, hText, hFront, hBack, hNumeral⟩
    obtain ⟨hNonempty, hCore⟩ := hNumeral.not_isBlank
    rwa [hText, trimBlanks_append hFront hBack hCore hNonempty]
  · intro h
    obtain ⟨front, back, hText, hFront, hBack⟩ := exists_eq_trimBlanks s.toList
    exact ⟨front, _, back, hText, hFront, hBack, h⟩

theorem lengthOfString_eq_ok_iff {s : String} {length : Option Nat} :
    lengthOfString s = .ok length ↔
      AllBlank s.toList ∧ length = none ∨
        ∃ n ≤ maxLength, Spells s n ∧ length = positive? n := by
  simp only [lengthOfString, List.isEmpty_iff, spells_iff]
  by_cases hBlank : trimBlanks s.toList = []
  · have hNumeral (n : Nat) : ¬ Numeral (trimBlanks s.toList) n := by
      intro h
      exact h.not_isBlank.1 hBlank
    rw [if_pos hBlank, Except.ok.injEq]
    simp only [hNumeral, false_and, and_false, exists_false, or_false,
      trimBlanks_eq_nil_iff.mp hBlank, true_and, eq_comm]
  · have hText : ¬ AllBlank s.toList := fun h => hBlank (trimBlanks_eq_nil_iff.mpr h)
    rw [if_neg hBlank]
    cases hNumeral : numeral? (trimBlanks s.toList) with
    | none =>
      have hNone (n : Nat) (hn : n ≤ maxLength) : ¬ Numeral (trimBlanks s.toList) n := by
        intro h
        rw [numeral?_eq_some_iff.mpr ⟨h, hn⟩] at hNumeral
        cases hNumeral
      simp only [hText, false_and, false_or, reduceCtorEq, false_iff]
      rintro ⟨n, hn, h, -⟩
      exact hNone n hn h
    | some n =>
      obtain ⟨hText', hn⟩ := numeral?_eq_some_iff.mp hNumeral
      simp only [hText, false_and, false_or, Except.ok.injEq]
      constructor
      · rintro rfl
        exact ⟨n, hn, hText', rfl⟩
      · rintro ⟨other, hOther, h, rfl⟩
        have hSame := numeral?_eq_some_iff.mpr ⟨h, hOther⟩
        rw [hNumeral, Option.some.injEq] at hSame
        rw [hSame]

/-! ## Values -/

theorem positive?_eq_some_iff {n m : Nat} : positive? n = some m ↔ n = m ∧ 1 ≤ m := by
  unfold positive?
  grind

theorem denotesLength_string_iff {s : String} {length : Option Nat} :
    DenotesLength (.string s) length ↔
      AllBlank s.toList ∧ length = none ∨
        ∃ n ≤ maxLength, Spells s n ∧ length = positive? n := by
  constructor
  · intro h
    cases h with
    | blank h => exact .inl ⟨h, rfl⟩
    | spelledZero h => exact .inr ⟨0, by decide, h, rfl⟩
    | spelled h hSpells => exact .inr ⟨_, h.2, hSpells, (positive?_eq_some_iff.mpr ⟨rfl, h.1⟩).symm⟩
  · rintro (⟨h, rfl⟩ | ⟨n, hn, h, rfl⟩)
    · exact .blank h
    · by_cases hZero : n = 0
      · subst hZero
        exact .spelledZero h
      · have hPositive : 1 ≤ n := by omega
        rw [positive?_eq_some_iff.mpr ⟨rfl, hPositive⟩]
        exact .spelled ⟨hPositive, hn⟩ h

theorem denotesLength_natural_iff {n : Nat} {length : Option Nat} :
    DenotesLength (.natural n) length ↔ n ≤ maxLength ∧ length = positive? n := by
  constructor
  · intro h
    cases h with
    | zero => exact ⟨by decide, rfl⟩
    | number h => exact ⟨h.2, (positive?_eq_some_iff.mpr ⟨rfl, h.1⟩).symm⟩
  · rintro ⟨hn, rfl⟩
    by_cases hZero : n = 0
    · subst hZero
      exact .zero
    · have hPositive : 1 ≤ n := by omega
      rw [positive?_eq_some_iff.mpr ⟨rfl, hPositive⟩]
      exact .number ⟨hPositive, hn⟩

theorem decodeLength_natural (source : Source) (n : Nat) :
    decodeLength source (.ofJson (.natural n)) =
      if n ≤ maxLength then .ok (positive? n) else .error (.shape .noLength) := rfl

theorem decodeLength_string (source : Source) (s : String) :
    decodeLength source (.ofJson (.string s)) = lengthOfString s := rfl

/-- What is no length and no absence of one is refused, from a text and from a value. -/
theorem refuse_ne_ok {fault : Option TextFault} {length : Option Nat} :
    (do checkStop fault; .error (.shape .noLength) : Except ReadFault (Option Nat)) ≠
      .ok length := by
  cases fault <;> nofun

/-- A value is decoded to what it denotes. -/
theorem decodeLength_eq_ok_iff {source : Source} {value : Json} {length : Option Nat} :
    decodeLength source (.ofJson value) = .ok length ↔ DenotesLength value length := by
  have hRefused (hDecode : ∃ fault, decodeLength source (.ofJson value) = do
        checkStop fault
        .error (.shape .noLength)) (hNone : ¬ DenotesLength value length) :
      decodeLength source (.ofJson value) = .ok length ↔ DenotesLength value length := by
    obtain ⟨fault, hDecode⟩ := hDecode
    rw [hDecode]
    exact iff_of_false refuse_ne_ok hNone
  cases value with
  | scalar value =>
    cases value with
    | null =>
      constructor
      · intro h
        cases h
        exact .null
      · intro h
        cases h
        rfl
    | bool b => exact hRefused ⟨_, rfl⟩ nofun
    | number n =>
      cases n with
      | natural n =>
        rw [← natural, decodeLength_natural, denotesLength_natural_iff]
        grind
      | negative n => exact hRefused ⟨_, rfl⟩ nofun
      | real x => exact hRefused ⟨_, rfl⟩ nofun
    | string s =>
      rw [← string, decodeLength_string, lengthOfString_eq_ok_iff, denotesLength_string_iff]
  | array items => exact hRefused ⟨_, rfl⟩ nofun
  | object members => exact hRefused ⟨_, rfl⟩ nofun

theorem DenotesLength.bounds {value : Json} {n : Nat} (h : DenotesLength value (some n)) :
    1 ≤ n ∧ n ≤ 4294967295 := by
  cases h with
  | number h => exact h
  | spelled h _ => exact h

/-- All strings that spell a number denote what the number itself denotes. -/
theorem Spells.denotesLength_iff {s : String} {n : Nat} (h : Spells s n) {length : Option Nat} :
    DenotesLength (.string s) length ↔ DenotesLength (.natural n) length := by
  have hNumeral := spells_iff.mp h
  have hBlank : ¬ AllBlank s.toList :=
    fun hBlank => hNumeral.not_isBlank.1 (trimBlanks_eq_nil_iff.mpr hBlank)
  rw [denotesLength_string_iff, denotesLength_natural_iff]
  constructor
  · rintro (⟨hAll, -⟩ | ⟨m, hm, hOther, rfl⟩)
    · exact absurd hAll hBlank
    · obtain rfl := hNumeral.unique (spells_iff.mp hOther)
      exact ⟨hm, rfl⟩
  · rintro ⟨hn, rfl⟩
    exact .inr ⟨n, hn, h, rfl⟩

/-- **Column lengths are decoded by their grammar.** A value is decoded to exactly what it denotes,
and refused if it denotes nothing. So a length is at least 1 and within 32 bits, and each string
that spells a number is decoded as the number itself. -/
theorem decodeLength_grammar (source : Source) :
    (∀ value length,
      decodeLength source (.ofJson value) = .ok length ↔ DenotesLength value length) ∧
    (∀ value, (∃ fault, decodeLength source (.ofJson value) = .error fault) ↔
      ∀ length, ¬ DenotesLength value length) ∧
    (∀ value n, decodeLength source (.ofJson value) = .ok (some n) → 1 ≤ n ∧ n ≤ 4294967295) ∧
    ∀ s n, Spells s n → (decodeLength source (.ofJson (.string s))).toOption =
      (decodeLength source (.ofJson (.natural n))).toOption := by
  refine ⟨fun _ _ => decodeLength_eq_ok_iff, fun value => ?_, fun value n h => ?_,
    fun s n h => ?_⟩
  · have hNone (length : Option Nat) : ¬ DenotesLength value length ↔
        decodeLength source (.ofJson value) ≠ .ok length :=
      not_congr decodeLength_eq_ok_iff.symm
    simp only [hNone]
    cases decodeLength source (.ofJson value) <;> simp
  · exact (decodeLength_eq_ok_iff.mp h).bounds
  · refine Option.ext fun length => ?_
    rw [toOption_eq_some_iff, toOption_eq_some_iff, decodeLength_eq_ok_iff, decodeLength_eq_ok_iff,
      h.denotesLength_iff]

/-- A plus sign, leading zeros and white space on both sides make no difference. -/
example : decodeLength .value (.ofJson (.string " +007\u00A0")) = .ok (some 7) := by decide

end SchemaScaffold.Json
