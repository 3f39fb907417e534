import SchemaScaffold.Artifact.Migration
import SchemaScaffold.Proofs.Artifacts.CallChains

/-!
# The calls that create a column

The call chain of a migration is a column in writing. It can be read back, and so it tells two
columns apart whenever they are to be created differently, whatever their texts look like.

* `Column.calls`, `Column.readChain?_migrationCall`: the calls that create a column are read back.
* `Call.namedType`, `Column.openingCall_eq_iff`: what the first of these calls tells of the column.
* `Column.clauseCalls_eq_iff`: what the others tell of it.
* `Column.CreatedAlike`, `Column.migrationCall_faithful`: two columns have the same migration
  exactly if they are created alike, as a column and the same one with its canonical type are.
-/

namespace SchemaScaffold

/-! ## The calls that create a column -/

namespace Column

/-- What stands behind the name of a column where its length does. -/
def lengthPieces (column : Column) : List Piece :=
  (column.length.map fun length => marks ", " ++ marks (toString length)).getD []

/-- The call that names the type of a column. -/
def openingCall (column : Column) : Call :=
  match column.canonicalType with
  | .unknown raw => ⟨"specificType", .literal column.name :: (marks ", " ++ [.literal raw])⟩
  | type =>
    match type.textSize? with
    | some size => ⟨"text", .literal column.name :: (marks ", " ++ [.literal (size ++ "text")])⟩
    | none => ⟨type.name, .literal column.name :: column.lengthPieces⟩

/-- The calls that make a column refer to another one. -/
def keyCalls (key : ForeignKey) : List Call :=
  [⟨"references", [.literal key.column]⟩, ⟨"on", [.literal key.table]⟩,
   ⟨"onDelete", [.literal "set null"]⟩]

/-- The calls behind the first one. -/
def clauseCalls (column : Column) : List Call :=
  (column.defaultValue.map fun text => ⟨"defaultTo", [.literal text]⟩).toList ++
  callIf (!column.nullable) "notNullable" ++
  callIf column.unique "unique" ++
  callIf column.index "index" ++
  callIf column.unsigned "unsigned" ++
  (column.comment.map fun text => ⟨"comment", [.literal text]⟩).toList ++
  (column.foreignKey.map keyCalls).getD []

/-- The calls that create a column. -/
def calls (column : Column) : List Call := column.openingCall :: column.clauseCalls

theorem text_openingCall (column : Column) : column.openingCall.text = "." ++ column.typeCall := by
  rw [← String.toList_inj]
  unfold openingCall
  split
  · rename_i hType
    simp [typeCall, hType, Call.toList_text, Piece.toList, flatMap_toList_marks, arguments]
  · split
    · rename_i hSize
      simp [typeCall, hSize, Call.toList_text, Piece.toList, flatMap_toList_marks, arguments]
    · rename_i hSize
      cases hLength : column.length with
      | none =>
        simp [typeCall, hSize, hLength, Call.toList_text, Piece.toList, lengthPieces, arguments]
      | some length =>
        simp [typeCall, hSize, hLength, Call.toList_text, Piece.toList, flatMap_toList_marks,
          arguments, lengthPieces]

/-- What the clauses say in one piece is what the calls behind the first one say. -/
theorem text_clauseCalls (column : Column) :
    String.join (column.clauseCalls.map Call.text) = String.join column.clauses := by
  have hSetNull : (quoted "set null").toList = "'set null'".toList := by decide
  obtain ⟨name, type, length, nullable, unique, index, unsigned, defaultValue, comment,
    autoIncrement, foreignKey⟩ := column
  rw [← String.toList_inj]
  simp only [String.toList_join, List.flatMap_map, clauseCalls, clauses, List.flatMap_append]
  -- the clauses are taken off one after another, from the last one on
  congr 1
  swap
  · cases foreignKey <;> simp [Call.toList_text, Piece.toList, keyCalls, hSetNull]
  congr 1
  swap
  · cases comment <;> simp [Call.toList_text, Piece.toList]
  congr 1
  swap
  · cases unsigned <;> simp [callIf, Call.toList_text]
  congr 1
  swap
  · cases index <;> simp [callIf, Call.toList_text]
  congr 1
  swap
  · cases unique <;> simp [callIf, Call.toList_text]
  congr 1
  · cases defaultValue <;> simp [Call.toList_text, Piece.toList]
  · cases nullable <;> simp [callIf, Call.toList_text]

theorem migrationCall_eq_chainText (column : Column) :
    column.migrationCall = chainText "table" column.calls := by
  have hTable : "table." = "table" ++ "." := by decide
  rw [migrationCall, chainText, calls, List.map_cons, String.join_cons, text_openingCall,
    text_clauseCalls, hTable, String.append_assoc, String.append_assoc, String.append_assoc]

end Column

/-! ## The calls are read back -/

theorem isDigit_of_mem_toString {n : Nat} {c : Char} (h : c ∈ (toString n).toList) :
    c.isDigit = true := by
  rw [Nat.toString_eq_repr, Nat.toList_repr] at h
  exact Nat.isDigit_of_mem_toDigits (by decide) (by decide) h

theorem eq_of_toString_eq {m n : Nat} (h : toString m = toString n) : m = n := by
  have hDigits : Nat.toDigits 10 m = Nat.toDigits 10 n := by
    rw [← Nat.toList_repr, ← Nat.toList_repr, ← Nat.toString_eq_repr, ← Nat.toString_eq_repr, h]
  rw [← Nat.ofDigitChars_ten_toDigits (n := m), hDigits, Nat.ofDigitChars_ten_toDigits]

/-- The names of known types are words. -/
theorem ColumnType.isAlpha_of_mem_name {type : ColumnType} (hKnown : ∀ raw, type ≠ .unknown raw) :
    ∀ c ∈ type.name.toList, c.isAlpha = true := by
  cases type with
  | unknown raw => exact absurd rfl (hKnown raw)
  | _ => exact List.all_eq_true.mp (by decide)

namespace Column

theorem mark_not_mem_lengthPieces (column : Column) {c : Char} (hDigit : c.isDigit = false)
    (hSeparator : c ∉ ", ".toList) : .mark c ∉ column.lengthPieces := by
  unfold lengthPieces
  cases column.length with
  | none => simp
  | some length =>
    rw [Option.map_some, Option.getD_some, List.mem_append, not_or, mark_mem_marks_iff,
      mark_mem_marks_iff]
    refine ⟨hSeparator, fun hMem => ?_⟩
    rw [isDigit_of_mem_toString hMem] at hDigit
    cases hDigit

theorem isPlain_openingCall (column : Column) : column.openingCall.IsPlain := by
  unfold openingCall
  split
  · exact Call.isPlain_of (by decide) (by simp [marks])
  · rename_i hKnown
    have hWord := ColumnType.isAlpha_of_mem_name hKnown
    split
    · exact Call.isPlain_of (by decide) (by simp [marks])
    · refine Call.isPlain_of_word hWord ⟨?_, ?_⟩
      · simpa using column.mark_not_mem_lengthPieces (by decide) (by decide)
      · simpa using column.mark_not_mem_lengthPieces (by decide) (by decide)

theorem mem_clauseCalls_iff {column : Column} {call : Call} :
    call ∈ column.clauseCalls ↔
      (∃ text, column.defaultValue = some text ∧ call = ⟨"defaultTo", [.literal text]⟩) ∨
      (column.nullable = false ∧ call = ⟨"notNullable", []⟩) ∨
      (column.unique = true ∧ call = ⟨"unique", []⟩) ∨
      (column.index = true ∧ call = ⟨"index", []⟩) ∨
      (column.unsigned = true ∧ call = ⟨"unsigned", []⟩) ∨
      (∃ text, column.comment = some text ∧ call = ⟨"comment", [.literal text]⟩) ∨
      ∃ key, column.foreignKey = some key ∧ call ∈ keyCalls key := by
  have hKey : call ∈ (column.foreignKey.map keyCalls).getD [] ↔
      ∃ key, column.foreignKey = some key ∧ call ∈ keyCalls key := by
    cases column.foreignKey <;> simp
  simp only [clauseCalls, List.mem_append, mem_callIf_iff, hKey, Option.mem_toList,
    Option.map_eq_some_iff, Bool.not_eq_true', or_assoc, eq_comm (a := call)]

theorem isPlain_of_mem_clauseCalls {column : Column} {call : Call}
    (h : call ∈ column.clauseCalls) : call.IsPlain := by
  rcases mem_clauseCalls_iff.mp h with ⟨text, -, rfl⟩ | ⟨-, rfl⟩ | ⟨-, rfl⟩ | ⟨-, rfl⟩ | ⟨-, rfl⟩ |
    ⟨text, -, rfl⟩ | ⟨key, -, hCall⟩
  · exact Call.isPlain_of (by decide) (by simp)
  · exact Call.isPlain_of (by decide) (by simp)
  · exact Call.isPlain_of (by decide) (by simp)
  · exact Call.isPlain_of (by decide) (by simp)
  · exact Call.isPlain_of (by decide) (by simp)
  · exact Call.isPlain_of (by decide) (by simp)
  · simp only [keyCalls, List.mem_cons, List.not_mem_nil, or_false] at hCall
    rcases hCall with rfl | rfl | rfl
    · exact Call.isPlain_of (by decide) (by simp)
    · exact Call.isPlain_of (by decide) (by simp)
    · exact Call.isPlain_of (by decide) (by simp)

theorem isPlain_of_mem_calls (column : Column) : ∀ call ∈ column.calls, call.IsPlain := by
  rw [calls, List.forall_mem_cons]
  exact ⟨column.isPlain_openingCall, fun call hCall => isPlain_of_mem_clauseCalls hCall⟩

/-- The calls that create a column are read off its migration. -/
theorem readChain?_migrationCall (column : Column) :
    readChain? "table" column.migrationCall = some column.calls := by
  rw [migrationCall_eq_chainText]
  exact readChain?_chainText (by decide) column.isPlain_of_mem_calls

end Column

/-! ## What the calls tell of a column -/

/-- Whether the call that names a type takes a length. -/
def ColumnType.takesLength (type : ColumnType) : Bool := !(type.isUnknown || type.isSized)

/-- Columns that are created alike: by the same name, with the same canonical type and, unless that
type takes none, length, and with the same of everything that is said behind them. -/
structure Column.CreatedAlike (a b : Column) : Prop where
  name : a.name = b.name
  type : a.canonicalType = b.canonicalType
  length : a.canonicalType.takesLength = true → a.length = b.length
  defaultValue : a.defaultValue = b.defaultValue
  nullable : a.nullable = b.nullable
  unique : a.unique = b.unique
  index : a.index = b.index
  unsigned : a.unsigned = b.unsigned
  comment : a.comment = b.comment
  foreignKey : a.foreignKey = b.foreignKey

theorem ColumnType.takesLength_of_textSize? {type : ColumnType}
    (hKnown : ∀ raw, type ≠ .unknown raw) (hSize : type.textSize? = none) :
    type.takesLength = true := by
  cases type with
  | unknown raw => exact absurd rfl (hKnown raw)
  | tinyText => cases hSize
  | mediumText => cases hSize
  | longText => cases hSize
  | _ => rfl

theorem ColumnType.ofName_name {type : ColumnType} (hKnown : type.isUnknown = false) :
    ofName type.name = type := by
  cases type with
  | unknown raw => cases hKnown
  | _ => rfl

/-- The type that the first call of a chain names. A sized text and an unknown type are named by a
literal behind the one that names the column. -/
def Call.namedType (call : Call) : ColumnType :=
  match call.name, call.inside.drop 3 with
  | "specificType", [.literal raw] => .unknown raw
  | "text", [.literal "tinytext"] => .tinyText
  | "text", [.literal "mediumtext"] => .mediumText
  | "text", [.literal "longtext"] => .longText
  | name, _ => .ofName name

theorem Call.namedType_of_marks {name text : String} {first : Piece} {rest : List Piece}
    (hRest : rest.drop 2 = marks text) : namedType ⟨name, first :: rest⟩ = .ofName name := by
  have hLiteral : ∀ raw, marks text ≠ [.literal raw] := by
    intro raw hEq
    have hMem : .literal raw ∈ marks text := hEq ▸ List.mem_singleton_self _
    simp [marks] at hMem
  unfold namedType
  rw [List.drop_succ_cons, hRest]
  split
  · rename_i raw _ hEq
    exact absurd hEq (hLiteral raw)
  · rename_i hEq
    exact absurd hEq (hLiteral _)
  · rename_i hEq
    exact absurd hEq (hLiteral _)
  · rename_i hEq
    exact absurd hEq (hLiteral _)
  · rfl

namespace Column

theorem openingCall_of_takesLength {column : Column}
    (hTakes : column.canonicalType.takesLength = true) :
    column.openingCall =
      ⟨column.canonicalType.name, .literal column.name :: column.lengthPieces⟩ := by
  unfold openingCall
  split
  · rename_i hType
    rw [hType] at hTakes
    cases hTakes
  · split
    · rename_i hSize
      simp [ColumnType.takesLength, ColumnType.isSized, hSize] at hTakes
    · rfl

theorem head?_inside_openingCall (column : Column) :
    column.openingCall.inside.head? = some (.literal column.name) := by
  unfold openingCall
  split
  · rfl
  · split <;> rfl

theorem lengthPieces_inj {a b : Column} (h : a.lengthPieces = b.lengthPieces) :
    a.length = b.length := by
  unfold lengthPieces at h
  cases hA : a.length with
  | none =>
    cases hB : b.length with
    | none => rfl
    | some n => simp [hA, hB, marks] at h
  | some m =>
    cases hB : b.length with
    | none => simp [hA, hB, marks] at h
    | some n =>
      rw [hA, hB, Option.map_some, Option.map_some, Option.getD_some, Option.getD_some] at h
      have hDigits : toString m = toString n := marks_inj.mp (List.append_cancel_left h)
      exact congrArg some (eq_of_toString_eq hDigits)

theorem drop_lengthPieces (column : Column) :
    ∃ text, column.lengthPieces.drop 2 = marks text := by
  unfold lengthPieces
  cases column.length with
  | none => exact ⟨"", rfl⟩
  | some n => exact ⟨toString n, rfl⟩

theorem namedType_openingCall (column : Column) :
    column.openingCall.namedType = column.canonicalType := by
  by_cases hTakes : column.canonicalType.takesLength = true
  · obtain ⟨text, hText⟩ := column.drop_lengthPieces
    have hKnown : column.canonicalType.isUnknown = false := by
      simp only [ColumnType.takesLength, Bool.not_eq_true', Bool.or_eq_false_iff] at hTakes
      exact hTakes.1
    rw [openingCall_of_takesLength hTakes, Call.namedType_of_marks hText,
      ColumnType.ofName_name hKnown]
  · unfold openingCall
    cases hType : column.canonicalType with
    | unknown raw => rfl
    | tinyText => rfl
    | mediumText => rfl
    | longText => rfl
    | _ =>
      rw [hType] at hTakes
      exact absurd rfl hTakes

theorem openingCall_eq_iff {a b : Column} :
    a.openingCall = b.openingCall ↔
      a.name = b.name ∧ a.canonicalType = b.canonicalType ∧
        (a.canonicalType.takesLength = true → a.length = b.length) := by
  constructor
  · intro h
    have hName : a.name = b.name := by
      have hHead := a.head?_inside_openingCall
      rw [h, head?_inside_openingCall] at hHead
      exact (Piece.literal.inj (Option.some.inj hHead)).symm
    have hType : a.canonicalType = b.canonicalType := by
      rw [← namedType_openingCall a, h, namedType_openingCall]
    refine ⟨hName, hType, fun hTakes => ?_⟩
    rw [openingCall_of_takesLength hTakes, openingCall_of_takesLength (hType ▸ hTakes)] at h
    exact lengthPieces_inj (List.cons.inj (Call.mk.inj h).2).2
  · rintro ⟨hName, hType, hLength⟩
    unfold openingCall
    rw [← hType, hName]
    split
    · rfl
    · rename_i hKnown
      split
      · rfl
      · rename_i hSize
        have hTakes := ColumnType.takesLength_of_textSize? hKnown hSize
        rw [lengthPieces, lengthPieces, hLength hTakes]

theorem foreignKey_eq_some_iff_mem_clauseCalls {column : Column} {key : ForeignKey} :
    column.foreignKey = some key ↔
      ⟨"references", [.literal key.column]⟩ ∈ column.clauseCalls ∧
        ⟨"on", [.literal key.table]⟩ ∈ column.clauseCalls := by
  rw [mem_clauseCalls_iff, mem_clauseCalls_iff]
  cases column.foreignKey with
  | none => simp
  | some other =>
    obtain ⟨table, target⟩ := key
    obtain ⟨otherTable, otherTarget⟩ := other
    simp [keyCalls, and_comm, eq_comm (a := target), eq_comm (a := table)]

/-- No clause is said by the calls of another one, so that each is found among the calls of all. -/
theorem clauseCalls_eq_iff {a b : Column} :
    a.clauseCalls = b.clauseCalls ↔
      a.defaultValue = b.defaultValue ∧ a.nullable = b.nullable ∧ a.unique = b.unique ∧
        a.index = b.index ∧ a.unsigned = b.unsigned ∧ a.comment = b.comment ∧
        a.foreignKey = b.foreignKey := by
  constructor
  · intro h
    have hMem : ∀ call, call ∈ a.clauseCalls ↔ call ∈ b.clauseCalls := by
      intro call
      rw [h]
    have hKey : ∀ key, a.foreignKey = some key ↔ b.foreignKey = some key := by
      intro key
      rw [foreignKey_eq_some_iff_mem_clauseCalls, foreignKey_eq_some_iff_mem_clauseCalls, hMem,
        hMem]
    simp only [mem_clauseCalls_iff] at hMem
    have hDefault : ∀ text, a.defaultValue = some text ↔ b.defaultValue = some text := by
      intro text
      simpa [keyCalls] using hMem ⟨"defaultTo", [.literal text]⟩
    have hNullable : a.nullable = b.nullable := by
      simpa [keyCalls] using hMem ⟨"notNullable", []⟩
    have hUnique : a.unique = b.unique := by
      simpa [keyCalls] using hMem ⟨"unique", []⟩
    have hIndex : a.index = b.index := by
      simpa [keyCalls] using hMem ⟨"index", []⟩
    have hUnsigned : a.unsigned = b.unsigned := by
      simpa [keyCalls] using hMem ⟨"unsigned", []⟩
    have hComment : ∀ text, a.comment = some text ↔ b.comment = some text := by
      intro text
      simpa [keyCalls] using hMem ⟨"comment", [.literal text]⟩
    exact ⟨Option.ext hDefault, hNullable, hUnique, hIndex, hUnsigned, Option.ext hComment,
      Option.ext hKey⟩
  · rintro ⟨hDefault, hNullable, hUnique, hIndex, hUnsigned, hComment, hKey⟩
    simp only [clauseCalls, hDefault, hNullable, hUnique, hIndex, hUnsigned, hComment, hKey]

theorem calls_eq_iff {a b : Column} : a.calls = b.calls ↔ a.CreatedAlike b := by
  rw [calls, calls, List.cons.injEq, openingCall_eq_iff, clauseCalls_eq_iff]
  constructor
  · rintro ⟨⟨hName, hType, hLength⟩, hDefault, hNullable, hUnique, hIndex, hUnsigned, hComment,
      hKey⟩
    exact ⟨hName, hType, hLength, hDefault, hNullable, hUnique, hIndex, hUnsigned, hComment, hKey⟩
  · intro h
    exact ⟨⟨h.name, h.type, h.length⟩, h.defaultValue, h.nullable, h.unique, h.index, h.unsigned,
      h.comment, h.foreignKey⟩

theorem migrationCall_eq_iff {a b : Column} :
    a.migrationCall = b.migrationCall ↔ a.CreatedAlike b := by
  rw [migrationCall_eq_chainText, migrationCall_eq_chainText,
    chainText_inj (by decide) a.isPlain_of_mem_calls b.isPlain_of_mem_calls, calls_eq_iff]

theorem createdAlike_canonical (column : Column) : column.canonical.CreatedAlike column where
  name := rfl
  type := congrArg Column.type column.canonical_canonical
  length := fun _ => rfl
  defaultValue := rfl
  nullable := rfl
  unique := rfl
  index := rfl
  unsigned := rfl
  comment := rfl
  foreignKey := rfl

/-- **The call that creates a column tells it from all that are not created alike**, and from none
that are. Its clauses are read back as they were meant, so that no text in a name, a default, a
comment or a reference passes for a clause or hides one; and it does not matter whether the column
had its canonical type before. -/
theorem migrationCall_faithful (a b : Column) :
    (a.migrationCall = b.migrationCall ↔ a.CreatedAlike b) ∧
      readChain? "table" a.migrationCall = some a.calls ∧
        a.canonical.migrationCall = a.migrationCall := by
  refine ⟨migrationCall_eq_iff, a.readChain?_migrationCall, ?_⟩
  exact migrationCall_eq_iff.mpr a.createdAlike_canonical

end Column

end SchemaScaffold
