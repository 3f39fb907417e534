import Mathlib.Data.List.Basic
import SchemaScaffold.Artifact.Quoted

/-!
# Reading calls in generated scripts

The arguments of a generated call are texts in quotes. A reader that knows nothing of their makers
finds them again: a literal ends at its first quote that has no backslash before it.

* `readLiteral?`: the text of the literal that a script starts with, and what follows the literal.
* `readLiteral?_quoted`: a text in quotes is read back, whatever follows it.
* `openingArguments?`: the first two arguments of the first call in a script.
* `openingArguments?_call`: they are read back from a call with at least two arguments.
-/

namespace SchemaScaffold

/-! ## Literals -/

/-- The text up to the end of a literal, and what follows. A backslash stands for nothing, and the
character after it for itself. -/
def readInside? : List Char → Option (List Char × List Char)
  | [] => none
  | '\'' :: rest => some ([], rest)
  | ['\\'] => none
  | '\\' :: c :: rest => (readInside? rest).map fun (text, after) => (c :: text, after)
  | c :: rest => (readInside? rest).map fun (text, after) => (c :: text, after)

/-- The text of the literal that a script starts with, and what follows the literal. -/
def readLiteral? : List Char → Option (List Char × List Char)
  | '\'' :: rest => readInside? rest
  | _ => none

theorem readInside?_quotedChar (c : Char) (rest : List Char) :
    readInside? (quotedChar c ++ rest) =
      (readInside? rest).map fun (text, after) => (c :: text, after) := by
  unfold quotedChar
  split
  · rfl
  · rename_i hPlain
    obtain ⟨hQuote, hBackslash⟩ := not_or.mp hPlain
    rw [List.singleton_append, readInside?.eq_def]
    split
    · contradiction
    · rename_i hEq
      exact absurd (List.cons.inj hEq).1 hQuote
    · rename_i hEq
      exact absurd (List.cons.inj hEq).1 hBackslash
    · rename_i hEq
      exact absurd (List.cons.inj hEq).1 hBackslash
    · rename_i hEq
      obtain ⟨rfl, rfl⟩ := List.cons.inj hEq
      rfl

theorem readInside?_flatMap_quotedChar (text rest : List Char) :
    readInside? (text.flatMap quotedChar ++ '\'' :: rest) = some (text, rest) := by
  induction text with
  | nil => rfl
  | cons c text ih =>
    rw [List.flatMap_cons, List.append_assoc, readInside?_quotedChar, ih]
    rfl

theorem toList_quoted (text : String) :
    (quoted text).toList = '\'' :: text.toList.flatMap quotedChar ++ ['\''] := by
  rw [quoted, String.toList_ofList]

/-- **A text in quotes is read back**, whatever follows it. -/
theorem readLiteral?_quoted (text : String) (rest : List Char) :
    readLiteral? ((quoted text).toList ++ rest) = some (text.toList, rest) := by
  rw [toList_quoted, List.append_assoc, List.cons_append]
  exact readInside?_flatMap_quotedChar text.toList rest

/-! ## Calls -/

/-- The first two arguments of the first call in a script, if they are literals. -/
def openingArguments? (script : String) : Option (String × String) := do
  let (first, rest) ← readLiteral? ((script.toList.dropWhile (· ≠ '(')).drop 1)
  let rest ← ", ".toList.isPrefixOf? rest
  let (second, _) ← readLiteral? rest
  some (String.ofList first, String.ofList second)

theorem toList_arguments_cons_cons (first second : String) (rest : List String) :
    (arguments (first :: second :: rest)).toList =
      first.toList ++ ", ".toList ++ (arguments (second :: rest)).toList := by
  rw [arguments, String.intercalate_cons_cons, String.toList_append, String.toList_append,
    ← arguments]

theorem exists_toList_arguments_cons (first : String) (rest : List String) :
    ∃ more, (arguments (first :: rest)).toList = first.toList ++ more := by
  cases rest with
  | nil => exact ⟨[], by simp [arguments]⟩
  | cons second rest =>
    exact ⟨", ".toList ++ (arguments (second :: rest)).toList, by
      rw [toList_arguments_cons_cons, List.append_assoc]⟩

/-- A call with at least two quoted arguments is read back, whatever follows it. -/
theorem openingArguments?_call {name : String} (hName : '(' ∉ name.toList) (first second : String)
    (rest : List String) (after : String) :
    openingArguments?
        (name ++ "(" ++ arguments (quoted first :: quoted second :: rest) ++ after) =
      some (first, second) := by
  obtain ⟨more, hMore⟩ := exists_toList_arguments_cons (quoted second) rest
  have hCall : ((name ++ "(" ++ arguments (quoted first :: quoted second :: rest) ++
      after).toList.dropWhile (· ≠ '(')).drop 1 =
        (quoted first).toList ++
          (", ".toList ++ ((quoted second).toList ++ (more ++ after.toList))) := by
    rw [String.toList_append, String.toList_append, String.toList_append, List.append_assoc,
      List.append_assoc, List.dropWhile_append_of_pos, toList_arguments_cons_cons, hMore]
    · simp
    · intro c hc
      exact decide_eq_true fun hEq : c = '(' => hName (hEq ▸ hc)
  simp only [openingArguments?, hCall, readLiteral?_quoted, Option.bind_eq_bind, Option.bind_some,
    List.isPrefixOf?_eq_some_iff_append_eq.mpr rfl, String.ofList_toList]

end SchemaScaffold
