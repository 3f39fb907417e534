import SchemaScaffold.Artifact.Quoted
import SchemaScaffold.Json.Reader

/-!
# Quoted texts as JavaScript literals

What `quoted` writes is meant to stand in JavaScript. The grammar of literals in single quotes is
written down here as that language has it, with all of its escapes (but for the octal ones, which
strict code does not have), and not as `quoted` happens to use it.

* `unitsOf`, `codeUnits`: a text as the UTF-16 code units that strings are made of.
* `Escape`, `LiteralBody`, `IsLiteral`: the literals, each with its value.
* `isLiteral_quoted_iff`: a text in quotes is a literal exactly if no line breaks in it, and then
  its value is the text.
* `not_isLiteral_quoted_lineFeed`: so not every text in quotes is one.
-/

namespace SchemaScaffold

/-! ## The grammar -/

/-- The code units of a code point, two of them beyond the first plane. -/
def unitsOf (point : Nat) : List UInt16 :=
  if point < 0x10000 then [.ofNat point]
  else [.ofNat (0xD800 + (point - 0x10000) / 0x400), .ofNat (0xDC00 + (point - 0x10000) % 0x400)]

/-- The code units of a text. -/
def codeUnits (text : String) : List UInt16 := text.toList.flatMap fun c => unitsOf c.toNat

/-- The characters that end a line of a script and stand in a literal only behind a backslash. -/
def lineBreaks : List Char := ['\n', '\r']

/-- All characters that end a line of a script. A literal may hold the last two as they are. -/
def lineTerminators : List Char := lineBreaks ++ ['\u2028', '\u2029']

/-- The code unit that a letter names behind a backslash. -/
def namedUnit? (c : Char) : Option UInt16 :=
  match c with
  | 'b' => some 0x08
  | 't' => some 0x09
  | 'n' => some 0x0A
  | 'v' => some 0x0B
  | 'f' => some 0x0C
  | 'r' => some 0x0D
  | _ => none

/-- `Escape script units rest`: what stands behind a backslash at the start of `script` means
`units`, and is followed by `rest`. -/
inductive Escape : List Char → List UInt16 → List Char → Prop
  | named {c : Char} {unit : UInt16} {rest : List Char} (h : namedUnit? c = some unit) :
      Escape (c :: rest) [unit] rest
  | itself {c : Char} {rest : List Char} (hNamed : namedUnit? c = none)
      (hDigit : c.isDigit = false) (hMark : c ≠ 'x' ∧ c ≠ 'u') (hLine : c ∉ lineTerminators) :
      Escape (c :: rest) (unitsOf c.toNat) rest
  | null {rest : List Char} (h : ∀ c ∈ rest.head?, c.isDigit = false) :
      Escape ('0' :: rest) [0] rest
  | byte {a b : Char} {high low : Nat} {rest : List Char} (hHigh : Json.hexValue? a = some high)
      (hLow : Json.hexValue? b = some low) :
      Escape ('x' :: a :: b :: rest) [.ofNat (high * 16 + low)] rest
  | word {a b c d : Char} {unit : Nat} {rest : List Char} (h : Json.hexWord? a b c d = some unit) :
      Escape ('u' :: a :: b :: c :: d :: rest) [.ofNat unit] rest
  | point {digits : List Char} {values : List Nat} {rest : List Char} (hSome : digits ≠ [])
      (hValues : digits.mapM Json.hexValue? = some values)
      (hRange : values.foldl (fun n digit => n * 16 + digit) 0 ≤ 0x10FFFF) :
      Escape ('u' :: '{' :: (digits ++ '}' :: rest))
        (unitsOf (values.foldl (fun n digit => n * 16 + digit) 0)) rest
  | newLine {rest : List Char} : Escape ('\r' :: '\n' :: rest) [] rest
  | continued {c : Char} {rest : List Char} (hLine : c ∈ lineTerminators)
      (hAlone : c = '\r' → rest.head? ≠ some '\n') : Escape (c :: rest) [] rest

/-- `LiteralBody script units`: the script is what follows the opening quote of a literal, up to its
closing quote and no further, and the literal means `units`. -/
inductive LiteralBody : List Char → List UInt16 → Prop
  | closed : LiteralBody ['\''] []
  | char {c : Char} {rest : List Char} {units : List UInt16} (hQuote : c ≠ '\'')
      (hBackslash : c ≠ '\\') (hLine : c ∉ lineBreaks) (hRest : LiteralBody rest units) :
      LiteralBody (c :: rest) (unitsOf c.toNat ++ units)
  | escape {script rest : List Char} {units more : List UInt16} (hEscape : Escape script units rest)
      (hRest : LiteralBody rest more) : LiteralBody ('\\' :: script) (units ++ more)

/-- A script that is one literal in single quotes, of the given value. -/
def IsLiteral (script : String) (units : List UInt16) : Prop :=
  ∃ body, script.toList = '\'' :: body ∧ LiteralBody body units

/-! ## What is written is read -/

theorem escape_iff_of_quotedChar {c : Char} (hc : c = '\'' ∨ c = '\\') {rest after : List Char}
    {units : List UInt16} :
    Escape (c :: rest) units after ↔ units = unitsOf c.toNat ∧ after = rest := by
  have hNamed : namedUnit? c = none := by rcases hc with rfl | rfl <;> decide
  have hDigit : c.isDigit = false := by rcases hc with rfl | rfl <;> decide
  have hMark : c ≠ 'x' ∧ c ≠ 'u' := by rcases hc with rfl | rfl <;> decide
  have hLine : c ∉ lineTerminators := by rcases hc with rfl | rfl <;> decide
  constructor
  · intro h
    generalize hScript : c :: rest = script at h
    cases h with
    | named h =>
      obtain ⟨rfl, -⟩ := List.cons.inj hScript
      rw [hNamed] at h
      cases h
    | itself =>
      obtain ⟨rfl, rfl⟩ := List.cons.inj hScript
      exact ⟨rfl, rfl⟩
    | null =>
      obtain ⟨rfl, -⟩ := List.cons.inj hScript
      exact absurd hDigit (by decide)
    | byte => exact absurd (List.cons.inj hScript).1 hMark.1
    | word => exact absurd (List.cons.inj hScript).1 hMark.2
    | point => exact absurd (List.cons.inj hScript).1 hMark.2
    | newLine =>
      obtain ⟨rfl, -⟩ := List.cons.inj hScript
      exact absurd (by decide) hLine
    | continued h =>
      obtain ⟨rfl, -⟩ := List.cons.inj hScript
      exact absurd h hLine
  · rintro ⟨rfl, rfl⟩
    exact .itself hNamed hDigit hMark hLine

theorem literalBody_quote_iff {rest : List Char} {units : List UInt16} :
    LiteralBody ('\'' :: rest) units ↔ rest = [] ∧ units = [] := by
  constructor
  · intro h
    generalize hScript : '\'' :: rest = script at h
    cases h with
    | closed => exact ⟨(List.cons.inj hScript).2, rfl⟩
    | char hQuote => exact absurd (List.cons.inj hScript).1.symm hQuote
    | escape => exact absurd (List.cons.inj hScript).1 (by decide)
  · rintro ⟨rfl, rfl⟩
    exact .closed

theorem literalBody_escape_iff {script : List Char} {units : List UInt16} :
    LiteralBody ('\\' :: script) units ↔
      ∃ first rest more, Escape script first rest ∧ LiteralBody rest more ∧
        units = first ++ more := by
  constructor
  · intro h
    generalize hScript : '\\' :: script = whole at h
    cases h with
    | closed => exact absurd (List.cons.inj hScript).1 (by decide)
    | char _ hBackslash => exact absurd (List.cons.inj hScript).1.symm hBackslash
    | escape hEscape hRest =>
      obtain ⟨-, rfl⟩ := List.cons.inj hScript
      exact ⟨_, _, _, hEscape, hRest, rfl⟩
  · rintro ⟨first, rest, more, hEscape, hRest, rfl⟩
    exact .escape hEscape hRest

theorem literalBody_char_iff {c : Char} (hQuote : c ≠ '\'') (hBackslash : c ≠ '\\')
    {rest : List Char} {units : List UInt16} :
    LiteralBody (c :: rest) units ↔
      c ∉ lineBreaks ∧ ∃ more, LiteralBody rest more ∧ units = unitsOf c.toNat ++ more := by
  constructor
  · intro h
    generalize hScript : c :: rest = script at h
    cases h with
    | closed => exact absurd (List.cons.inj hScript).1 hQuote
    | char _ _ hLine hRest =>
      obtain ⟨rfl, rfl⟩ := List.cons.inj hScript
      exact ⟨hLine, _, hRest, rfl⟩
    | escape => exact absurd (List.cons.inj hScript).1 hBackslash
  · rintro ⟨hLine, more, hRest, rfl⟩
    exact .char hQuote hBackslash hLine hRest

theorem literalBody_quotedChar_iff {c : Char} {rest : List Char} {units : List UInt16} :
    LiteralBody (quotedChar c ++ rest) units ↔
      c ∉ lineBreaks ∧ ∃ more, LiteralBody rest more ∧ units = unitsOf c.toNat ++ more := by
  by_cases hc : c = '\'' ∨ c = '\\'
  · have hLine : c ∉ lineBreaks := by rcases hc with rfl | rfl <;> decide
    rw [quotedChar, if_pos hc, List.cons_append, List.singleton_append, literalBody_escape_iff]
    simp only [escape_iff_of_quotedChar hc]
    constructor
    · rintro ⟨_, _, more, ⟨rfl, rfl⟩, hRest, rfl⟩
      exact ⟨hLine, more, hRest, rfl⟩
    · rintro ⟨-, more, hRest, rfl⟩
      exact ⟨_, _, more, ⟨rfl, rfl⟩, hRest, rfl⟩
  · obtain ⟨hQuote, hBackslash⟩ := not_or.mp hc
    rw [quotedChar, if_neg hc, List.singleton_append, literalBody_char_iff hQuote hBackslash]

/-- The characters between the quotes are read one after another, and the reading fails at the first
line break. -/
theorem literalBody_quoted_iff {text : List Char} {units : List UInt16} :
    LiteralBody (text.flatMap quotedChar ++ ['\'']) units ↔
      (∀ c ∈ text, c ∉ lineBreaks) ∧ units = text.flatMap fun c => unitsOf c.toNat := by
  induction text generalizing units with
  | nil =>
    rw [List.flatMap_nil, List.nil_append, literalBody_quote_iff]
    simp
  | cons c text ih =>
    rw [List.flatMap_cons, List.append_assoc, literalBody_quotedChar_iff, List.forall_mem_cons,
      List.flatMap_cons]
    simp only [ih]
    constructor
    · rintro ⟨hLine, _, ⟨hLines, rfl⟩, rfl⟩
      exact ⟨⟨hLine, hLines⟩, rfl⟩
    · rintro ⟨⟨hLine, hLines⟩, rfl⟩
      exact ⟨hLine, _, ⟨hLines, rfl⟩, rfl⟩

theorem isLiteral_quoted {text : String} {units : List UInt16} :
    IsLiteral (quoted text) units ↔
      LiteralBody (text.toList.flatMap quotedChar ++ ['\'']) units := by
  rw [IsLiteral, quoted, String.toList_ofList, List.cons_append]
  constructor
  · rintro ⟨body, hBody, h⟩
    obtain ⟨-, rfl⟩ := List.cons.inj hBody
    exact h
  · intro h
    exact ⟨_, rfl, h⟩

/-- **A text in quotes is a literal exactly if it holds no line feed and no carriage return**, and
the only value that it has then is the text: quotes and backslashes are taken care of wherever they
stand, line breaks are not. -/
theorem isLiteral_quoted_iff (text : String) (units : List UInt16) :
    IsLiteral (quoted text) units ↔
      (∀ c ∈ text.toList, c ∉ lineBreaks) ∧ units = codeUnits text := by
  rw [isLiteral_quoted, literalBody_quoted_iff, codeUnits]

/-- A text of two lines in quotes is no literal at all. -/
theorem not_isLiteral_quoted_lineFeed : ¬ ∃ units, IsLiteral (quoted "one\ntwo") units := by
  rintro ⟨units, h⟩
  obtain ⟨hLines, -⟩ := literalBody_quoted_iff.mp (isLiteral_quoted.mp h)
  exact hLines '\n' (by decide) (by decide)

end SchemaScaffold
