import SchemaScaffold.Proofs.Artifacts.Literals

/-!
# Chains of calls in generated scripts

A script such as `table.string('email', 120).unique()` is a receiver with calls on it, one after
another. What stands in quotes is text and never part of a call, whatever it looks like.

* `Piece`, `pieces?`: a script cut into literals and the characters outside of them.
* `Call`, `readChain?`: the calls of a script on its receiver.
* `chainText`, `readChain?_chainText`: a chain that is written down is read back.
-/

namespace SchemaScaffold

/-! ## Pieces of a script -/

/-- A piece of a script: a character outside of literals, or the text of a literal. -/
inductive Piece where
  | mark (c : Char)
  | literal (text : String)
  deriving Repr, DecidableEq

namespace Piece

/-- How a piece is written. -/
def toList : Piece → List Char
  | .mark c => [c]
  | .literal text => (quoted text).toList

end Piece

/-- The characters of a text as pieces. -/
def marks (text : String) : List Piece := text.toList.map .mark

theorem mark_mem_marks_iff {c : Char} {text : String} : .mark c ∈ marks text ↔ c ∈ text.toList := by
  simp [marks]

theorem marks_inj {a b : String} : marks a = marks b ↔ a = b := by
  have hInjective : Function.Injective (List.map Piece.mark) :=
    List.map_injective_iff.mpr fun _ _ => Piece.mark.inj
  exact hInjective.eq_iff.trans String.toList_inj

theorem flatMap_toList_marks (text : String) : (marks text).flatMap Piece.toList = text.toList := by
  simp [marks, List.flatMap_map, Piece.toList]

theorem length_lt_of_readInside? :
    ∀ {script text after : List Char}, readInside? script = some (text, after) →
      after.length < script.length := by
  intro script
  fun_induction readInside? script with
  | case1 => simp
  | case2 rest => simp
  | case3 => simp
  | case4 c rest ih =>
    intro text after h
    obtain ⟨⟨inner, end_⟩, hInner, hEq⟩ := Option.map_eq_some_iff.mp h
    cases hEq
    have := ih hInner
    simp only [List.length_cons]
    omega
  | case5 c rest _ _ _ ih =>
    intro text after h
    obtain ⟨⟨inner, end_⟩, hInner, hEq⟩ := Option.map_eq_some_iff.mp h
    cases hEq
    have := ih hInner
    simp only [List.length_cons]
    omega

/-- The pieces of a script; there are none if a literal is left open. -/
def pieces? : List Char → Option (List Piece)
  | [] => some []
  | c :: rest =>
    if c = '\'' then
      match _hRead : readInside? rest with
      | none => none
      | some (text, after) => (pieces? after).map (.literal (String.ofList text) :: ·)
    else (pieces? rest).map (.mark c :: ·)
termination_by script => script.length
decreasing_by
  · have := length_lt_of_readInside? _hRead
    simp only [List.length_cons]
    omega
  · simp

theorem pieces?_mark {c : Char} (hPlain : c ≠ '\'') (rest : List Char) :
    pieces? (c :: rest) = (pieces? rest).map (.mark c :: ·) := by
  rw [pieces?, if_neg hPlain]

theorem pieces?_quoted (text : String) (rest : List Char) :
    pieces? ((quoted text).toList ++ rest) = (pieces? rest).map (.literal text :: ·) := by
  have hRead := readLiteral?_quoted text rest
  rw [toList_quoted, List.append_assoc, List.cons_append] at hRead ⊢
  rw [readLiteral?] at hRead
  rw [pieces?, if_pos rfl]
  split
  · rename_i hNone
    rw [hRead] at hNone
    cases hNone
  · rename_i inner after hSome
    rw [hRead] at hSome
    cases hSome
    rw [String.ofList_toList]

/-- What is written from pieces is cut into these pieces again. -/
theorem pieces?_flatMap_toList {pieces : List Piece} (hQuotes : .mark '\'' ∉ pieces) :
    pieces? (pieces.flatMap Piece.toList) = some pieces := by
  induction pieces with
  | nil => rw [List.flatMap_nil, pieces?]
  | cons piece rest ih =>
    rw [List.mem_cons, not_or] at hQuotes
    rw [List.flatMap_cons]
    cases piece with
    | mark c =>
      have hPlain : c ≠ '\'' := fun hEq => hQuotes.1 (hEq ▸ rfl)
      rw [Piece.toList, List.singleton_append, pieces?_mark hPlain, ih hQuotes.2]
      rfl
    | literal text =>
      rw [Piece.toList, pieces?_quoted, ih hQuotes.2]
      rfl

/-! ## Calls -/

/-- A call: the name of the method, and what stands between its parentheses. -/
structure Call where
  name : String
  inside : List Piece
  deriving Repr, DecidableEq

/-- The pieces of a call, from the dot before it to its closing parenthesis. -/
def Call.pieces (call : Call) : List Piece :=
  .mark '.' :: (marks call.name ++ .mark '(' :: (call.inside ++ [.mark ')']))

mutual

/-- The calls of a chain, each behind a dot. -/
def chain? : List Piece → Option (List Call)
  | [] => some []
  | .mark '.' :: rest => namedCall? [] rest
  | _ => none

/-- A call and those behind it, when a part of its name is read. -/
def namedCall? (name : List Char) : List Piece → Option (List Call)
  | .mark '(' :: rest => openCall? (String.ofList name) [] rest
  | .mark c :: rest => namedCall? (name ++ [c]) rest
  | _ => none

/-- A call and those behind it, when its name and a part of its arguments are read. -/
def openCall? (name : String) (inside : List Piece) : List Piece → Option (List Call)
  | [] => none
  | .mark ')' :: rest => (chain? rest).map (⟨name, inside⟩ :: ·)
  | piece :: rest => openCall? name (inside ++ [piece]) rest

end

/-- The calls of a script on the given receiver. -/
def readChain? (receiver script : String) : Option (List Call) := do
  let pieces ← pieces? script.toList
  let calls ← (marks receiver).isPrefixOf? pieces
  chain? calls

/-- A call can be told from what is around it: its name has no opening parenthesis, its arguments
have no closing one, and there is no quote outside of literals. -/
structure Call.IsPlain (call : Call) : Prop where
  name : '(' ∉ call.name.toList
  inside : .mark ')' ∉ call.inside
  quotes : .mark '\'' ∉ call.pieces

theorem namedCall?_marks {front : List Char} (hFront : '(' ∉ front) (name : List Char)
    (rest : List Piece) :
    namedCall? name (front.map .mark ++ .mark '(' :: rest) =
      openCall? (String.ofList (name ++ front)) [] rest := by
  induction front generalizing name with
  | nil => rw [List.map_nil, List.nil_append, namedCall?, List.append_nil]
  | cons c front ih =>
    rw [List.mem_cons, not_or] at hFront
    rw [List.map_cons, List.cons_append, namedCall?, ih hFront.2, List.append_assoc,
      List.singleton_append]
    rintro ⟨⟩
    exact hFront.1 rfl

theorem openCall?_closed {more : List Piece} (hMore : .mark ')' ∉ more) (name : String)
    (inside rest : List Piece) :
    openCall? name inside (more ++ .mark ')' :: rest) =
      (chain? rest).map (⟨name, inside ++ more⟩ :: ·) := by
  induction more generalizing inside with
  | nil => rw [List.nil_append, openCall?, List.append_nil]
  | cons piece more ih =>
    rw [List.mem_cons, not_or] at hMore
    rw [List.cons_append, openCall?, ih hMore.2, List.append_assoc, List.singleton_append]
    rintro rfl
    exact hMore.1 rfl

theorem chain?_flatMap_pieces {calls : List Call} (hCalls : ∀ call ∈ calls, call.IsPlain) :
    chain? (calls.flatMap Call.pieces) = some calls := by
  induction calls with
  | nil => rw [List.flatMap_nil, chain?]
  | cons call rest ih =>
    obtain ⟨hCall, hRest⟩ := List.forall_mem_cons.mp hCalls
    rw [List.flatMap_cons, Call.pieces, List.cons_append, chain?, List.append_assoc,
      List.cons_append, List.append_assoc, List.singleton_append, marks,
      namedCall?_marks hCall.name, openCall?_closed hCall.inside, ih hRest, List.nil_append,
      List.nil_append, String.ofList_toList]
    rfl

/-- A call without arguments, if it is asked for. -/
def callIf (asked : Bool) (name : String) : List Call := if asked then [⟨name, []⟩] else []

theorem mem_callIf_iff {asked : Bool} {name : String} {call : Call} :
    call ∈ callIf asked name ↔ asked = true ∧ call = ⟨name, []⟩ := by
  cases asked <;> simp [callIf]

theorem callIf_inj {asked other : Bool} {name : String} :
    callIf asked name = callIf other name ↔ asked = other := by
  cases asked <;> cases other <;> simp [callIf]

/-- A call is plain if the only marks in it, but for those around its arguments, are none of these
and no quotes. -/
theorem Call.isPlain_of {name : String} {inside : List Piece}
    (hName : '(' ∉ name.toList ∧ '\'' ∉ name.toList)
    (hInside : .mark ')' ∉ inside ∧ .mark '\'' ∉ inside) : (Call.mk name inside).IsPlain where
  name := hName.1
  inside := hInside.1
  quotes := by simp [pieces, mark_mem_marks_iff, hName.2, hInside.2]

/-- A call by a word is plain. -/
theorem Call.isPlain_of_word {name : String} (hWord : ∀ c ∈ name.toList, c.isAlpha = true)
    {inside : List Piece} (hInside : .mark ')' ∉ inside ∧ .mark '\'' ∉ inside) :
    (Call.mk name inside).IsPlain := by
  have hOpening : '(' ∉ name.toList := by
    intro hMem
    exact absurd (hWord _ hMem) (by decide)
  have hQuote : '\'' ∉ name.toList := by
    intro hMem
    exact absurd (hWord _ hMem) (by decide)
  exact isPlain_of ⟨hOpening, hQuote⟩ hInside

/-! ## Chains in writing -/

/-- A call in writing, with the dot before it. -/
def Call.text (call : Call) : String := String.ofList (call.pieces.flatMap Piece.toList)

theorem Call.toList_text (call : Call) :
    call.text.toList =
      '.' :: (call.name.toList ++ '(' :: (call.inside.flatMap Piece.toList ++ [')'])) := by
  simp [text, pieces, Piece.toList, flatMap_toList_marks]

/-- A receiver with calls on it in writing. -/
def chainText (receiver : String) (calls : List Call) : String :=
  receiver ++ String.join (calls.map Call.text)

/-- **A chain of calls is read back**: no text in its literals can pass for a call or hide one. -/
theorem readChain?_chainText {receiver : String} (hReceiver : '\'' ∉ receiver.toList)
    {calls : List Call} (hCalls : ∀ call ∈ calls, call.IsPlain) :
    readChain? receiver (chainText receiver calls) = some calls := by
  have hText : (chainText receiver calls).toList =
      (marks receiver ++ calls.flatMap Call.pieces).flatMap Piece.toList := by
    simp only [chainText, String.toList_append, String.toList_join, List.flatMap_map, Call.text,
      String.toList_ofList, List.flatMap_append, flatMap_toList_marks, List.flatMap_assoc]
  have hQuotes : .mark '\'' ∉ marks receiver ++ calls.flatMap Call.pieces := by
    rw [List.mem_append, not_or, mark_mem_marks_iff, List.mem_flatMap]
    refine ⟨hReceiver, ?_⟩
    rintro ⟨call, hCall, hQuote⟩
    exact (hCalls call hCall).quotes hQuote
  simp only [readChain?, hText, pieces?_flatMap_toList hQuotes, Option.bind_eq_bind,
    Option.bind_some, List.isPrefixOf?_eq_some_iff_append_eq.mpr rfl, chain?_flatMap_pieces hCalls]

/-- Chains that are written alike are the same. -/
theorem chainText_inj {receiver : String} (hReceiver : '\'' ∉ receiver.toList)
    {calls others : List Call} (hCalls : ∀ call ∈ calls, call.IsPlain)
    (hOthers : ∀ call ∈ others, call.IsPlain) :
    chainText receiver calls = chainText receiver others ↔ calls = others := by
  constructor
  · intro h
    have hRead := readChain?_chainText hReceiver hCalls
    rw [h, readChain?_chainText hReceiver hOthers] at hRead
    exact (Option.some.inj hRead).symm
  · intro h
    rw [h]

end SchemaScaffold
