/-!
# Ordered maps from names

`Keyed α` holds values under pairwise different names, in the order in which the names were first
put in. Putting a value under a name that is already there keeps the name's place.

* `Keyed.get?`, `Keyed.contains`, `Keyed.keys`, `Keyed.values`: what a map holds.
* `Keyed.insert`, `Keyed.change`, `Keyed.mapValues`, `Keyed.ofList`: how maps are made.
* `Keyed.entries_insert_of_not_contains`: a new name goes to the end and moves nothing.
* `Keyed.get?_eq_some_iff`: a look-up finds exactly the entries.
-/

namespace SchemaScaffold

universe u v w

/-- Values under pairwise different names, in order. -/
@[ext]
structure Keyed (α : Type u) where
  entries : List (String × α)
  nodup_keys : (entries.map Prod.fst).Nodup
  deriving DecidableEq

namespace Keyed

variable {α : Type u} {β : Type v}

/-- The map that holds nothing. -/
def empty : Keyed α := ⟨[], List.nodup_nil⟩

instance : Inhabited (Keyed α) := ⟨empty⟩

/-- The names, in order. -/
def keys (m : Keyed α) : List String := m.entries.map Prod.fst

/-- The values, in the order of their names. -/
def values (m : Keyed α) : List α := m.entries.map Prod.snd

/-- The number of names. -/
def size (m : Keyed α) : Nat := m.entries.length

/-- The value under a name. -/
def get? (m : Keyed α) (key : String) : Option α := m.entries.lookup key

/-- Whether a name is in the map. -/
def contains (m : Keyed α) (key : String) : Bool := m.keys.contains key

/-! ## Putting values in -/

/-- Puts a value under a name, at the name's place or else at the end. -/
def put (key : String) (value : α) : List (String × α) → List (String × α)
  | [] => [(key, value)]
  | (k, old) :: rest => if k = key then (k, value) :: rest else (k, old) :: put key value rest

theorem keys_put (key : String) (value : α) (entries : List (String × α)) :
    (put key value entries).map Prod.fst =
      if key ∈ entries.map Prod.fst then entries.map Prod.fst
      else entries.map Prod.fst ++ [key] := by
  induction entries with
  | nil => simp [put]
  | cons entry rest ih =>
    obtain ⟨k, old⟩ := entry
    by_cases h : k = key
    · simp [put, h]
    · by_cases hr : key ∈ rest.map Prod.fst
      · simp_all [put]
      · have hk : ¬ key = k := fun e => h e.symm
        simp_all [put]

theorem put_of_not_mem {key : String} {entries : List (String × α)}
    (h : key ∉ entries.map Prod.fst) (value : α) :
    put key value entries = entries ++ [(key, value)] := by
  induction entries with
  | nil => rfl
  | cons entry rest ih =>
    obtain ⟨k, old⟩ := entry
    simp only [List.map_cons, List.mem_cons, not_or] at h
    have hk : ¬ k = key := fun e => h.1 e.symm
    simp [put, hk, ih h.2]

/-- Puts a value under a name. -/
def insert (m : Keyed α) (key : String) (value : α) : Keyed α where
  entries := put key value m.entries
  nodup_keys := by
    rw [keys_put]
    split
    · exact m.nodup_keys
    · rename_i h
      rw [List.nodup_append]
      exact ⟨m.nodup_keys, by simp, by
        intro a ha b hb
        rw [List.mem_singleton] at hb
        rintro rfl
        exact h (hb ▸ ha)⟩

/-- The map with the value under a name changed, if the name is there. -/
def change (m : Keyed α) (key : String) (f : α → α) : Keyed α where
  entries := m.entries.map fun entry => (entry.1, if key = entry.1 then f entry.2 else entry.2)
  nodup_keys := by simpa [List.map_map, Function.comp_def] using m.nodup_keys

/-- The map with the same names and changed values. -/
def mapValues (m : Keyed α) (f : α → β) : Keyed β where
  entries := m.entries.map fun entry => (entry.1, f entry.2)
  nodup_keys := by simpa [List.map_map, Function.comp_def] using m.nodup_keys

/-- The map that arises when values are put in one after another. -/
def ofList (entries : List (String × α)) : Keyed α :=
  entries.foldl (fun m entry => m.insert entry.1 entry.2) empty

/-! ## What a map holds afterwards -/

theorem contains_iff {m : Keyed α} {key : String} : m.contains key = true ↔ key ∈ m.keys := by
  simp [contains]

@[simp] theorem keys_empty : (empty : Keyed α).keys = [] := rfl

theorem keys_nodup (m : Keyed α) : m.keys.Nodup := m.nodup_keys

/-- A new name goes to the end and moves nothing. -/
theorem entries_insert_of_not_contains {m : Keyed α} {key : String}
    (h : m.contains key = false) (value : α) :
    (m.insert key value).entries = m.entries ++ [(key, value)] := by
  apply put_of_not_mem
  simpa [contains, keys] using h

theorem keys_insert (m : Keyed α) (key : String) (value : α) :
    (m.insert key value).keys = if key ∈ m.keys then m.keys else m.keys ++ [key] :=
  keys_put key value m.entries

theorem contains_eq_false_iff_not_mem {m : Keyed α} {key : String} :
    m.contains key = false ↔ key ∉ m.keys := by
  rw [← contains_iff, Bool.not_eq_true]

theorem entries_insert_of_not_mem {m : Keyed α} {key : String} (h : key ∉ m.keys) (value : α) :
    (m.insert key value).entries = m.entries ++ [(key, value)] :=
  entries_insert_of_not_contains (contains_eq_false_iff_not_mem.mpr h) value

theorem keys_insert_of_not_mem {m : Keyed α} {key : String} (h : key ∉ m.keys) (value : α) :
    (m.insert key value).keys = m.keys ++ [key] := by
  rw [keys_insert, if_neg h]

@[simp] theorem keys_mapValues (m : Keyed α) (f : α → β) : (m.mapValues f).keys = m.keys := by
  simp [keys, mapValues, Function.comp_def]

/-- When each step changes every value by itself, so do all of them together. -/
theorem entries_foldl {γ : Type w} {step : Keyed α → γ → Keyed α} {act : γ → String × α → α}
    (h : ∀ m c, (step m c).entries = m.entries.map fun entry => (entry.1, act c entry))
    (steps : List γ) (m : Keyed α) :
    (steps.foldl step m).entries = m.entries.map fun entry =>
      (entry.1, steps.foldl (fun value c => act c (entry.1, value)) entry.2) := by
  induction steps generalizing m with
  | nil => simp
  | cons c rest ih =>
    rw [List.foldl_cons, ih, h, List.map_map]
    rfl

theorem lookup_put (key other : String) (value : α) (entries : List (String × α)) :
    (put key value entries).lookup other =
      if other = key then some value else entries.lookup other := by
  induction entries with
  | nil =>
    by_cases h : other = key
    · subst h
      simp [put]
    · have hNe : (other == key) = false := beq_eq_false_iff_ne.mpr h
      simp [put, h, List.lookup_cons, hNe]
  | cons entry rest ih =>
    obtain ⟨k, old⟩ := entry
    by_cases hk : k = key
    · subst hk
      by_cases h : other = k
      · subst h
        simp [put]
      · have hNe : (other == k) = false := beq_eq_false_iff_ne.mpr h
        simp [put, h, List.lookup_cons, hNe]
    · by_cases ho : other = k
      · subst ho
        simp [put, hk]
      · have hNe : (other == k) = false := beq_eq_false_iff_ne.mpr ho
        simp only [put, if_neg hk, List.lookup_cons, hNe, ih]

/-- Reading after writing. -/
theorem get?_insert (m : Keyed α) (key other : String) (value : α) :
    (m.insert key value).get? other = if other = key then some value else m.get? other :=
  lookup_put key other value m.entries

/-! ## Look-ups and entries -/

@[simp] theorem get?_empty (key : String) : (empty : Keyed α).get? key = none := rfl

@[simp] theorem entries_empty : (empty : Keyed α).entries = [] := rfl

theorem lookup_eq_some_iff_mem {entries : List (String × α)}
    (h : (entries.map Prod.fst).Nodup) {key : String} {value : α} :
    entries.lookup key = some value ↔ (key, value) ∈ entries := by
  induction entries with
  | nil => simp
  | cons entry rest ih =>
    obtain ⟨k, old⟩ := entry
    rw [List.map_cons, List.nodup_cons] at h
    by_cases hk : key = k
    · subst hk
      have hRest : (key, value) ∉ rest := fun hm => h.1 (List.mem_map.mpr ⟨_, hm, rfl⟩)
      simp [hRest, eq_comm]
    · have hne : (key == k) = false := by simpa using hk
      rw [List.lookup_cons, hne, ih h.2]
      simp [hk]

/-- A value is under a name if and only if the two are an entry. -/
theorem get?_eq_some_iff {m : Keyed α} {key : String} {value : α} :
    m.get? key = some value ↔ (key, value) ∈ m.entries :=
  lookup_eq_some_iff_mem m.nodup_keys

theorem mem_keys_iff {m : Keyed α} {key : String} :
    key ∈ m.keys ↔ ∃ value, m.get? key = some value := by
  simp only [keys, List.mem_map, get?_eq_some_iff]
  constructor
  · rintro ⟨entry, hm, rfl⟩
    exact ⟨entry.2, hm⟩
  · rintro ⟨value, hm⟩
    exact ⟨(key, value), hm, rfl⟩

theorem map_entries_eq (m : Keyed α) :
    m.entries.map (fun entry => (entry.1, some entry.2)) =
      m.keys.map fun key => (key, m.get? key) := by
  rw [keys, List.map_map]
  refine List.map_congr_left fun entry hEntry => ?_
  rw [Function.comp_apply, get?_eq_some_iff.mpr (show (entry.1, entry.2) ∈ m.entries from hEntry)]

/-- Maps with the same names in the same order that answer every look-up alike are equal. -/
theorem ext_get? {m m' : Keyed α} (hKeys : m.keys = m'.keys)
    (hGet : ∀ key, m.get? key = m'.get? key) : m = m' := by
  have hEntries : m.entries.map (fun entry => (entry.1, some entry.2)) =
      m'.entries.map fun entry => (entry.1, some entry.2) := by
    simp only [map_entries_eq, hKeys, hGet]
  refine Keyed.ext ((List.map_inj_right ?_).mp hEntries)
  rintro ⟨key, value⟩ ⟨key', value'⟩ hEq
  simpa using hEq

/-- Where the same entries stand matters to no look-up. -/
theorem get?_eq_of_perm {m m' : Keyed α} (h : m.entries.Perm m'.entries) (key : String) :
    m.get? key = m'.get? key := by
  refine Option.ext fun value => ?_
  rw [get?_eq_some_iff, get?_eq_some_iff, h.mem_iff]

theorem contains_eq_isSome (m : Keyed α) (key : String) :
    m.contains key = (m.get? key).isSome := by
  rw [Bool.eq_iff_iff, contains_iff, mem_keys_iff, Option.isSome_iff_exists]

theorem contains_eq_false_iff {m : Keyed α} {key : String} :
    m.contains key = false ↔ m.get? key = none := by
  rw [contains_eq_isSome, Option.isSome_eq_false_iff, Option.isNone_iff_eq_none]

theorem get?_mapValues (m : Keyed α) (f : α → β) (key : String) :
    (m.mapValues f).get? key = (m.get? key).map f := by
  change (m.entries.map fun entry => (entry.1, f entry.2)).lookup key =
    (m.entries.lookup key).map f
  induction m.entries with
  | nil => rfl
  | cons entry rest ih =>
    obtain ⟨k, value⟩ := entry
    rw [List.map_cons, List.lookup_cons, List.lookup_cons, ih]
    cases key == k <;> rfl

/-- Putting a value under a name that is there keeps the names. -/
theorem keys_insert_of_get? {m : Keyed α} {key : String} {old : α} (h : m.get? key = some old)
    (value : α) : (m.insert key value).keys = m.keys := by
  rw [keys_insert, if_pos (mem_keys_iff.mpr ⟨old, h⟩)]

theorem map_put_of_lookup {f : α → β} {key : String} {old value : α} (hEq : f value = f old) :
    ∀ {entries : List (String × α)}, entries.lookup key = some old →
      (put key value entries).map (fun entry => (entry.1, f entry.2)) =
        entries.map fun entry => (entry.1, f entry.2)
  | [], h => by simp at h
  | (k, first) :: rest, h => by
    by_cases hk : k = key
    · subst hk
      rw [List.lookup_cons_self, Option.some.injEq] at h
      simp [put, hEq, h]
    · have hne : (key == k) = false := beq_eq_false_iff_ne.mpr (Ne.symm hk)
      rw [List.lookup_cons, hne] at h
      simp only [put, if_neg hk, List.map_cons, map_put_of_lookup hEq h]

/-- Where a function takes the new value and the old one to the same, the change does not show. -/
theorem mapValues_insert_of_get? {m : Keyed α} {key : String} {old : α} (h : m.get? key = some old)
    {f : α → β} {value : α} (hEq : f value = f old) :
    (m.insert key value).mapValues f = m.mapValues f :=
  Keyed.ext (map_put_of_lookup hEq h)

/-- What comes later in a list without repetitions does not come earlier. -/
theorem not_mem_of_nodup_append {γ : Type w} {front back : List γ} {a : γ}
    (h : (front ++ a :: back).Nodup) : a ∉ front :=
  fun hOld => (List.nodup_append.mp h).2.2 _ hOld _ List.mem_cons_self rfl

theorem foldl_insert_entries {entries : List (String × α)} {m : Keyed α}
    (h : (m.keys ++ entries.map Prod.fst).Nodup) :
    (entries.foldl (fun m entry => m.insert entry.1 entry.2) m).entries = m.entries ++ entries := by
  induction entries generalizing m with
  | nil => simp
  | cons entry rest ih =>
    have hNew : entry.1 ∉ m.keys := not_mem_of_nodup_append h
    rw [List.foldl_cons, ih, entries_insert_of_not_mem hNew, List.append_assoc]
    · rfl
    · rw [keys_insert_of_not_mem hNew, List.append_assoc]
      exact h

/-- Values under different names are kept as they are. -/
theorem entries_ofList {entries : List (String × α)} (h : (entries.map Prod.fst).Nodup) :
    (ofList entries).entries = entries := by
  rw [ofList, foldl_insert_entries]
  · rfl
  · exact h

theorem size_eq_length_keys (m : Keyed α) : m.size = m.keys.length := by simp [size, keys]

end Keyed

end SchemaScaffold
