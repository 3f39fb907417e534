import SchemaScaffold.Document.Decoder

/-!
# Documents from texts and from values

A document can be decoded from a text while it is read, and from the value that a text holds. The
two report problems differently, but they accept the same and give the same documents.

* `Reading.hasDistinctKeys`: no object within a reading repeats a key.
* `Reading.ofJson_of_toJson?`: such a reading is the reading of the value it denotes.
* `Decoder.Agrees`: a decoder takes from a text what it takes from a value; one lemma for each way
  of making decoders.
* `Document.ofText_eq_ok_iff`: a text is decoded to the documents that its value is decoded to.
-/

namespace SchemaScaffold

namespace Json

variable {α β : Type}

/-! ## Readings without repeated keys -/

namespace Reading

mutual

/-- Whether no object within the reading repeats a key. -/
def hasDistinctKeys : Reading → Bool
  | .array items _ => itemsHaveDistinctKeys items
  | .object members _ => decide (members.map Prod.fst).Nodup && membersHaveDistinctKeys members
  | .scalar _ | .unreadable _ _ => true

/-- Whether no object within the items repeats a key. -/
def itemsHaveDistinctKeys : List Reading → Bool
  | [] => true
  | item :: rest => hasDistinctKeys item && itemsHaveDistinctKeys rest

/-- Whether no object within the values of the members repeats a key. -/
def membersHaveDistinctKeys : List (Option String × Reading) → Bool
  | [] => true
  | (_, value) :: rest => hasDistinctKeys value && membersHaveDistinctKeys rest

end

theorem putMember_of_not_mem {key : String} {value : Json} {before : List (String × Json)}
    (h : key ∉ before.map Prod.fst) : putMember key value before = before ++ [(key, value)] := by
  induction before with
  | nil => rfl
  | cons member before ih =>
    obtain ⟨hKey, hBefore⟩ := not_or.mp (mt List.mem_cons.mpr h)
    simp [putMember, Ne.symm hKey, ih hBefore]

mutual

/-- A reading that repeats no key is the reading of the value it denotes. -/
theorem ofJson_of_toJson? {value : Json} : ∀ {reading : Reading},
    toJson? reading = some value → hasDistinctKeys reading = true → ofJson value = reading
  | .scalar _, h, _ => by
    obtain rfl := Option.some.inj h
    rfl
  | .array items none, h, hKeys => by
    obtain ⟨values, hValues, rfl⟩ := Option.map_eq_some_iff.mp h
    rw [ofJson, ofItems_of_toItems? hValues hKeys]
  | .object members none, h, hKeys => by
    obtain ⟨values, hValues, rfl⟩ := Option.map_eq_some_iff.mp h
    obtain ⟨hNodup, hMembers⟩ := Bool.and_eq_true_iff.mp hKeys
    obtain ⟨added, rfl, hAdded⟩ :=
      ofMembers_of_toMembers? hValues (by simp) (of_decide_eq_true hNodup) hMembers
    rw [ofJson, hAdded]

/-- Items that repeat no key are the readings of the values they denote. -/
theorem ofItems_of_toItems? : ∀ {items : List Reading} {values : List Json},
    toItems? items = some values → itemsHaveDistinctKeys items = true → ofItems values = items
  | [], values, h, _ => by
    obtain rfl := Option.some.inj h
    rfl
  | item :: rest, values, h, hKeys => by
    obtain ⟨value, hValue, h⟩ := Option.bind_eq_some_iff.mp h
    obtain ⟨others, hOthers, h⟩ := Option.bind_eq_some_iff.mp h
    obtain rfl := Option.some.inj h
    obtain ⟨hItem, hRest⟩ := Bool.and_eq_true_iff.mp hKeys
    rw [ofItems, ofJson_of_toJson? hValue hItem, ofItems_of_toItems? hOthers hRest]

/-- Members whose keys are new are added as they are. -/
theorem ofMembers_of_toMembers? : ∀ {members : List (Option String × Reading)}
    {before after : List (String × Json)}, toMembers? before members = some after →
    (∀ key ∈ before.map Prod.fst, some key ∉ members.map Prod.fst) →
    (members.map Prod.fst).Nodup → membersHaveDistinctKeys members = true →
    ∃ added, after = before ++ added ∧ ofMembers added = members
  | [], before, after, h, _, _, _ => by
    obtain rfl := Option.some.inj h
    exact ⟨[], by simp, rfl⟩
  | (none, _) :: _, _, _, h, _, _, _ => by cases h
  | (some key, item) :: rest, before, after, h, hNew, hNodup, hKeys => by
    obtain ⟨value, hValue, h⟩ := Option.bind_eq_some_iff.mp h
    obtain ⟨hItem, hRest⟩ := Bool.and_eq_true_iff.mp hKeys
    obtain ⟨hKey, hNodup⟩ := List.nodup_cons.mp hNodup
    have hBefore : key ∉ before.map Prod.fst :=
      fun hMem => hNew key hMem List.mem_cons_self
    rw [putMember_of_not_mem hBefore] at h
    have hNew' : ∀ k ∈ (before ++ [(key, value)]).map Prod.fst, some k ∉ rest.map Prod.fst := by
      rw [List.map_append]
      refine List.forall_mem_append.mpr ⟨fun k hMem hLater => ?_, by simpa using hKey⟩
      exact hNew k hMem (List.mem_cons_of_mem _ hLater)
    obtain ⟨added, rfl, hAdded⟩ := ofMembers_of_toMembers? h hNew' hNodup hRest
    refine ⟨(key, value) :: added, by simp, ?_⟩
    rw [ofMembers, ofJson_of_toJson? hValue hItem, hAdded]

end

end Reading

/-! ## Decoders that take the same from both sources -/

theorem toOption_bind {ε : Type} (x : Except ε α) (f : α → Except ε β) :
    (x >>= f).toOption = x.toOption.bind fun a => (f a).toOption := by
  cases x <;> rfl

theorem toOption_map {ε : Type} (f : α → β) (x : Except ε α) :
    (x.map f).toOption = x.toOption.map f := by
  cases x <;> rfl

theorem toOption_eq_some_iff {ε : Type} {x : Except ε α} {a : α} :
    x.toOption = some a ↔ x = .ok a := by
  cases x <;> simp [Except.toOption]

/-- A decoder takes from a text what it takes from a value, though problems may differ. -/
def Decoder.Agrees (decode : Decoder α) : Prop :=
  ∀ reading, (decode .text reading).toOption = (decode .value reading).toOption

theorem Decoder.Agrees.eq_ok_iff {decode : Decoder α} (h : decode.Agrees) {reading : Reading}
    {a : α} : decode .text reading = .ok a ↔ decode .value reading = .ok a := by
  rw [← toOption_eq_some_iff, h, toOption_eq_some_iff]

@[simp] theorem decodeString_agrees : decodeString.Agrees := fun _ => rfl

@[simp] theorem decodeBool_agrees : decodeBool.Agrees := fun _ => rfl

@[simp] theorem decodeOptional_agrees {decode : Decoder α} (h : decode.Agrees) :
    (decodeOptional decode).Agrees := by
  intro reading
  unfold decodeOptional
  split
  · rfl
  · rw [toOption_map, toOption_map, h]

@[simp] theorem decodeList_agrees {decode : Decoder α} (h : decode.Agrees) :
    (decodeList decode).Agrees := by
  have hItems (items : List Reading) :
      (items.mapM (decode .text)).toOption = (items.mapM (decode .value)).toOption := by
    induction items with
    | nil => rfl
    | cons item items ih => simp only [List.mapM_cons, toOption_bind, h item, ih]
  intro reading
  unfold decodeList
  split
  · simp only [toOption_bind, hItems]
  · rfl

@[simp] theorem decodeMap_agrees {decode : Decoder α} (h : decode.Agrees) (start : β)
    (add : β → String → α → β) : (decodeMap decode start add).Agrees := by
  have hMembers (members : List (Option String × Reading)) (result : β) :
      (foldMembers (decode .text) add result members).toOption =
        (foldMembers (decode .value) add result members).toOption := by
    induction members generalizing result with
    | nil => rfl
    | cons member members ih =>
      obtain ⟨key | key, reading⟩ := member
      · rfl
      · simp only [foldMembers, toOption_bind, h reading, ih]
  intro reading
  unfold decodeMap
  split
  · simp only [toOption_bind, hMembers]
  · rfl

/-- What is no length from a value is none from a text either; only the problem may differ. -/
@[simp] theorem decodeLength_agrees : Decoder.Agrees decodeLength := by
  intro reading
  unfold decodeLength
  split
  · rfl
  · rfl
  · rfl
  · cases lengthFault? .text _ <;> rfl

/-! ## Records -/

/-- A field takes from a text what it takes from a value. -/
def Field.Agrees (field : Field α) : Prop :=
  ∀ reading value,
    (field.decode .text reading value).toOption = (field.decode .value reading value).toOption

@[simp] theorem Field.agrees_of {key : String} {required : Bool} {decode : Decoder β}
    {set : α → β → α} (h : decode.Agrees) : (Field.of key required decode set).Agrees := by
  intro reading value
  simp only [Field.of, toOption_map, h reading]

namespace Record

variable {record : Record α}

theorem decodeMembers_toOption (h : ∀ field ∈ record.fields, field.Agrees) (seen : List String)
    (value : α) (members : List (Option String × Reading)) :
    (record.decodeMembers .text seen value members).toOption =
      (record.decodeMembers .value seen value members).toOption := by
  induction members generalizing seen value with
  | nil => rfl
  | cons member members ih =>
    obtain ⟨key | key, reading⟩ := member
    · rfl
    · unfold decodeMembers
      split
      · simp only [toOption_bind, ih]
      · rename_i field hField
        have hAgrees := h field (List.mem_of_find?_eq_some hField)
        split
        · rfl
        · simp only [toOption_bind, hAgrees reading, ih]

theorem decodeItems_toOption (stop : Option TextFault) {fields : List (Field α)}
    (h : ∀ field ∈ fields, field.Agrees) (value : α) (index : Nat) (items : List Reading) :
    (record.decodeItems .text stop value index fields items).toOption =
      (record.decodeItems .value stop value index fields items).toOption := by
  induction fields generalizing value index items with
  | nil => rfl
  | cons field fields ih =>
    obtain ⟨hField, hFields⟩ := List.forall_mem_cons.mp h
    cases items with
    | nil =>
      unfold decodeItems
      simp only [toOption_bind]
      split
      · rfl
      · simp only [ih hFields]
    | cons item items =>
      unfold decodeItems
      simp only [toOption_bind, hField item, ih hFields]

/-- **Records agree if their fields do**, whether written as objects or as arrays: items beyond the
last field are two different problems, but a problem in both cases. -/
theorem decode_agrees (h : ∀ field ∈ record.fields, field.Agrees) : record.decode.Agrees := by
  intro reading
  unfold decode
  split
  · simp only [toOption_bind, decodeMembers_toOption h]
  · simp only [toOption_bind, decodeItems_toOption _ h]
    congr 1
    funext taken
    split
    · rfl
    · rfl
  · rfl

end Record

end Json

open Json

/-! ## Documents -/

@[simp] theorem TableDecl.decode_agrees : record.decode.Agrees :=
  Record.decode_agrees (by simp [record])

@[simp] theorem Pointer.decode_agrees : record.decode.Agrees :=
  Record.decode_agrees (by simp [record])

@[simp] theorem KeyDecl.decode_agrees : record.decode.Agrees :=
  Record.decode_agrees (by simp [record])

@[simp] theorem ColumnDecl.decode_agrees : record.decode.Agrees :=
  Record.decode_agrees (by simp [record])

@[simp] theorem Endpoint.decode_agrees : record.decode.Agrees :=
  Record.decode_agrees (by simp [record])

@[simp] theorem RelationDecl.decode_agrees : record.decode.Agrees :=
  Record.decode_agrees (by simp [record])

@[simp] theorem decodeColumnLists_agrees : decodeColumnLists.Agrees :=
  decodeMap_agrees (by simp) _ _

namespace Document

theorem decode_agrees : record.decode.Agrees := Record.decode_agrees (by simp [record])

/-- Of a text that holds one value and repeats no key, the reading is that of the value. -/
theorem reading_of_parse? {text : String} {value : Json} (hValue : parse? text = some value)
    (hKeys : (Reading.ofText text).1.hasDistinctKeys = true) :
    ∃ rest, Reading.ofText text = (.ofJson value, some rest) ∧ (skipSpace rest).isEmpty = true := by
  unfold parse? at hValue
  split at hValue
  · rename_i reading rest hReading
    rw [hReading] at hKeys
    split at hValue
    · rename_i hRest
      exact ⟨rest, by rw [hReading, Reading.ofJson_of_toJson? hValue hKeys], hRest⟩
    · cases hValue
  · cases hValue

/-- **A text is decoded to the documents that its value is decoded to.** The text holds one value
and repeats no key within an object. Records may be written as objects or as arrays, and objects may
have unknown members. -/
theorem ofText_eq_ok_iff {text : String} {value : Json} (hValue : parse? text = some value)
    (hKeys : (Reading.ofText text).1.hasDistinctKeys = true) (document : Document) :
    ofText text = .ok document ↔ ofJson value = .ok document := by
  obtain ⟨rest, hReading, hRest⟩ := reading_of_parse? hValue hKeys
  have hText : ofText text = record.decode .text (.ofJson value) := by
    simp only [ofText, hReading, hRest, if_true]
    exact bind_pure _
  rw [hText, ofJson, decode_agrees.eq_ok_iff]

/-- A text with records in both spellings, members in any order, and members that no record has. -/
def mixedSpellings : String :=
  "\x7b \"note\": [1.5, \x7b\x7d], \"tables\": [[\"1\", \"news\"], " ++
    "\x7b\"name\": \"tuna\", \"color\": null, \"id\": \"2\"\x7d], " ++
    "\"columns\": \x7b\"2\": [[\"21\", \"size\", \"integer\", \" +08 \"]], \"1\": []\x7d\x7d\n"

/-- The document of such a text is that of its value. -/
theorem ofText_eq_ok_iff_mixedSpellings :
    ∃ value document, parse? mixedSpellings = some value ∧
      (Reading.ofText mixedSpellings).1.hasDistinctKeys = true ∧
      document.tables.map TableDecl.name = ["news", "tuna"] ∧
      document.columns.keys = ["2", "1"] ∧
      (document.columns.get? "2").map (List.map ColumnDecl.length) = some [some 8] ∧
      ofJson value = .ok document ∧ ofText mixedSpellings = .ok document := by
  have hKeys : (Reading.ofText mixedSpellings).1.hasDistinctKeys = true := by decide +kernel
  have hDocument : ((parse? mixedSpellings).bind fun value => (ofJson value).toOption).map
      (fun document => (document.tables.map TableDecl.name, document.columns.keys,
        (document.columns.get? "2").map (List.map ColumnDecl.length))) =
      some (["news", "tuna"], ["2", "1"], some [some 8]) := by
    decide +kernel
  obtain ⟨document, hDocument, hParts⟩ := Option.map_eq_some_iff.mp hDocument
  obtain ⟨value, hValue, hDocument⟩ := Option.bind_eq_some_iff.mp hDocument
  simp only [Prod.mk.injEq] at hParts
  obtain ⟨hTables, hColumns, hLength⟩ := hParts
  have hJson := toOption_eq_some_iff.mp hDocument
  exact ⟨value, document, hValue, hKeys, hTables, hColumns, hLength, hJson,
    (ofText_eq_ok_iff hValue hKeys document).mpr hJson⟩

end Document

end SchemaScaffold
