import SchemaScaffold.Unicode.CodeRun

/-!
# White space

* `isBlank`: the property `White_Space`.
* `trimBlanks`: a text without the white space at its two ends.
-/

namespace SchemaScaffold.Unicode

/-- The white space of every script. -/
def blankRuns : List CodeRun :=
  [⟨0x9, 0xD, 1⟩, ⟨0x20, 0x20, 1⟩, ⟨0x85, 0x85, 1⟩, ⟨0xA0, 0xA0, 1⟩, ⟨0x1680, 0x1680, 1⟩,
   ⟨0x2000, 0x200A, 1⟩, ⟨0x2028, 0x2029, 1⟩, ⟨0x202F, 0x202F, 1⟩, ⟨0x205F, 0x205F, 1⟩,
   ⟨0x3000, 0x3000, 1⟩]

/-- Whether the character is white space. -/
def isBlank (c : Char) : Bool := CodeRun.within c.toNat blankRuns

/-- The text without the white space at its two ends. -/
def trimBlanks (text : List Char) : List Char :=
  ((text.dropWhile isBlank).reverse.dropWhile isBlank).reverse

/-- Text that neither starts nor ends with white space is left as it is. -/
theorem trimBlanks_eq_self {text : List Char} (hfirst : text.head?.all (!isBlank ·))
    (hlast : text.getLast?.all (!isBlank ·)) : trimBlanks text = text := by
  have drop : ∀ l : List Char, l.head?.all (!isBlank ·) → l.dropWhile isBlank = l := by
    intro l hl
    cases l with
    | nil => rfl
    | cons c r => simp_all [List.dropWhile]
  rw [trimBlanks, drop text hfirst, drop text.reverse (by simpa using hlast), List.reverse_reverse]

end SchemaScaffold.Unicode
