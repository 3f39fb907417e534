import Mathlib.Algebra.Group.Nat.Defs
import Mathlib.Data.List.Dedup
import Mathlib.Data.List.Nodup
import Mathlib.Order.Bounds.Defs
import SchemaScaffold.Proofs.Relationships.Registration

/-!
# Numbers behind taken names

* `Collision.exists_freeNumber?`: among the numbers that are tried one makes the name free, because
  there is one more of them than there are names.
* `Collision.freeNumbers`: the numbers that make the name free. The least of them is found, and it
  is at most two more than there are different names.
* `Collision.Counts`: a search without a bound, by a counter of 32 bits.
* `Policy.suffix_isLeast`: the policy of numbers gives the least one, and so does that search.
* `register_suffix`: under the policy of numbers a registration on a known table succeeds, and the
  name it takes depends on the table and the proposal only.
-/

namespace SchemaScaffold

theorem Collision.numbered_injective (collision : Collision) :
    Function.Injective collision.numbered := by
  intro m n h
  have hRepr : Nat.repr m = Nat.repr n :=
    (String.append_right_inj collision.proposed).mp h
  have hDigits : Nat.toDigits 10 m = Nat.toDigits 10 n := by
    rw [← Nat.toList_repr, ← Nat.toList_repr, hRepr]
  rw [← Nat.ofDigitChars_ten_toDigits (n := m), hDigits, Nat.ofDigitChars_ten_toDigits]

theorem Collision.numbered_ne_empty (collision : Collision) (n : Nat) :
    collision.numbered n ≠ "" := by
  intro h
  exact Nat.repr_ne_empty (String.append_eq_empty_iff.mp h).2

/-- The proposed name with each of the first numbers from two on. -/
def Collision.firstNumbered (collision : Collision) (count : Nat) : List String :=
  (List.range' 2 count).map collision.numbered

theorem Collision.length_firstNumbered (collision : Collision) (count : Nat) :
    (collision.firstNumbered count).length = count := by
  rw [firstNumbered, List.length_map, List.length_range']

theorem Collision.nodup_firstNumbered (collision : Collision) (count : Nat) :
    (collision.firstNumbered count).Nodup :=
  List.Nodup.map collision.numbered_injective (List.nodup_range' 1)

/-- One of the numbers that are tried makes the name free. -/
theorem Collision.exists_freeNumber? (collision : Collision) :
    ∃ n, collision.freeNumber? = some n ∧ collision.isTaken (collision.numbered n) = false := by
  cases hFound : collision.freeNumber? with
  | some n => exact ⟨n, rfl, by simpa using List.find?_some hFound⟩
  | none =>
    have hTaken : collision.firstNumbered (collision.existing.length + 1) ⊆
        collision.existing := by
      intro name hName
      obtain ⟨n, hn, rfl⟩ := List.mem_map.mp hName
      have hFailed := List.find?_eq_none.mp hFound n hn
      simpa [Collision.isTaken] using hFailed
    have hLength := (collision.nodup_firstNumbered _).length_le_of_subset hTaken
    rw [collision.length_firstNumbered] at hLength
    omega

/-! ## The least free number -/

namespace Collision

variable {collision : Collision} {n : Nat}

/-- The numbers from two on that make the proposed name free. -/
def freeNumbers (collision : Collision) : Set Nat :=
  {n | 2 ≤ n ∧ collision.numbered n ∉ collision.existing}

theorem isLeast_of_freeNumber? (h : collision.freeNumber? = some n) :
    IsLeast collision.freeNumbers n := by
  obtain ⟨hFree, hRange, hTaken⟩ := List.find?_range'_eq_some.mp h
  simp only [isTaken, Bool.not_not, Bool.not_eq_true', List.contains_iff_mem,
    ← Bool.not_eq_true] at hFree hTaken
  refine ⟨⟨(List.mem_range'_1.mp hRange).1, hFree⟩, ?_⟩
  rintro m ⟨hTwo, hm⟩
  exact Nat.le_of_not_lt fun hLess => hm (hTaken m hTwo hLess)

theorem taken_of_lt (h : IsLeast collision.freeNumbers n) {m : Nat} (hTwo : 2 ≤ m) (hLess : m < n) :
    collision.numbered m ∈ collision.existing := by
  by_contra hFree
  have hLe : n ≤ m := h.2 ⟨hTwo, hFree⟩
  omega

theorem firstNumbered_subset (h : IsLeast collision.freeNumbers n) :
    collision.firstNumbered (n - 2) ⊆ collision.existing.dedup := by
  intro name hName
  obtain ⟨m, hm, rfl⟩ := List.mem_map.mp hName
  have hRange := List.mem_range'_1.mp hm
  exact List.mem_dedup.mpr (taken_of_lt h hRange.1 (by omega))

theorem le_of_isLeast (h : IsLeast collision.freeNumbers n) :
    n ≤ collision.existing.dedup.length + 2 := by
  have hLength :=
    (collision.nodup_firstNumbered (n - 2)).length_le_of_subset (firstNumbered_subset h)
  rw [collision.length_firstNumbered] at hLength
  omega

theorem numbered_ne_proposed (collision : Collision) (n : Nat) :
    collision.numbered n ≠ collision.proposed := by
  intro h
  have hEmpty : collision.proposed ++ toString n = collision.proposed ++ "" := by
    rw [String.append_empty]
    exact h
  exact Nat.repr_ne_empty ((String.append_right_inj _).mp hEmpty)

/-- A taken name without a number leaves one less for those with numbers. -/
theorem le_of_isLeast_of_taken (h : IsLeast collision.freeNumbers n)
    (hTaken : collision.proposed ∈ collision.existing) :
    n ≤ collision.existing.dedup.length + 1 := by
  have hNew : collision.proposed ∉ collision.firstNumbered (n - 2) := by
    intro hMem
    obtain ⟨m, -, hm⟩ := List.mem_map.mp hMem
    exact collision.numbered_ne_proposed m hm
  have hNodup := List.nodup_cons.mpr ⟨hNew, collision.nodup_firstNumbered (n - 2)⟩
  have hLength := hNodup.length_le_of_subset
    (List.cons_subset.mpr ⟨List.mem_dedup.mpr hTaken, firstNumbered_subset h⟩)
  rw [List.length_cons, collision.length_firstNumbered] at hLength
  omega

/-! ## Counting in 32 bits -/

/-- A search without a bound that counts in 32 signed bits, from a number on, with the number that
it finds. It counts on before it tries a number, and overflows where there is no next one. -/
inductive Counts (collision : Collision) : Int32 → Option Int32 → Prop
  | overflow : Counts collision Int32.maxValue none
  | free {number : Int32} (hNext : number ≠ Int32.maxValue)
      (hFree : collision.proposed ++ toString number ∉ collision.existing) :
      Counts collision number (some number)
  | taken {number : Int32} {found : Option Int32} (hNext : number ≠ Int32.maxValue)
      (hTaken : collision.proposed ++ toString number ∈ collision.existing)
      (hRest : Counts collision (number + 1) found) : Counts collision number found

theorem Counts.unique {number : Int32} {found found' : Option Int32}
    (h : collision.Counts number found) (h' : collision.Counts number found') : found = found' := by
  induction h with
  | overflow =>
    cases h' with
    | overflow => rfl
    | free hNext => exact absurd rfl hNext
    | taken hNext => exact absurd rfl hNext
  | free hNext hFree =>
    cases h' with
    | overflow => exact absurd rfl hNext
    | free => rfl
    | taken _ hTaken => exact absurd hTaken hFree
  | taken hNext hTaken _ ih =>
    cases h' with
    | overflow => exact absurd rfl hNext
    | free _ hFree => exact absurd hTaken hFree
    | taken _ _ hRest => exact ih hRest

theorem toString_ofNat {m : Nat} (h : m < 2 ^ 31) : toString (Int32.ofNat m) = toString m := by
  change toString (Int32.ofNat m).toInt = toString m
  rw [Int32.toInt_ofNat_of_lt h]
  rfl

theorem ofNat_ne_maxValue {m : Nat} (h : m < 2 ^ 31 - 1) : Int32.ofNat m ≠ Int32.maxValue := by
  intro hEq
  have hInt := congrArg Int32.toInt hEq
  rw [Int32.toInt_ofNat_of_lt (by omega), Int32.toInt_maxValue] at hInt
  omega

/-- From every number up to the least free one, the search comes to that one. -/
theorem counts_of_isLeast (left : Nat) {m : Nat} (hTwo : 2 ≤ m)
    (h : IsLeast collision.freeNumbers (m + left)) (hFits : m + left < 2 ^ 31 - 1) :
    collision.Counts (Int32.ofNat m) (some (Int32.ofNat (m + left))) := by
  -- on the numbers that are left; each of them but the last is taken
  induction left generalizing m with
  | zero =>
    refine .free (ofNat_ne_maxValue hFits) ?_
    rw [toString_ofNat (by omega)]
    exact h.1.2
  | succ left ih =>
    have hTaken := taken_of_lt h hTwo (by omega)
    have hSame : m + (left + 1) = m + 1 + left := by omega
    rw [hSame] at h hFits ⊢
    have hRest := ih (by omega) h hFits
    rw [Int32.ofNat_add] at hRest
    refine .taken (ofNat_ne_maxValue (by omega)) ?_ hRest
    rw [toString_ofNat (by omega)]
    exact hTaken

end Collision

/-- **Numbers give the lowest free name.** To every question the policy of numbers answers with the
proposed name and the least number from two on that makes it free, which is at most two more than
there are different names, and at most one more if the proposed name is taken. So with fewer than
`2 ^ 31 - 3` different names, a search without a bound that counts in 32 bits comes to this number,
and to no overflow. -/
theorem Policy.suffix_isLeast (σ : Type) (collision : Collision) :
    ∃ n, IsLeast collision.freeNumbers n ∧
      (∀ state : σ, (Policy.suffix : Policy σ).resolve collision state =
        (.ok (collision.proposed ++ toString n), state)) ∧
      n ≤ collision.existing.dedup.length + 2 ∧
      (collision.isTaken collision.proposed = true →
        n ≤ collision.existing.dedup.length + 1) ∧
      (collision.existing.dedup.length < 2 ^ 31 - 3 →
        ∀ found, collision.Counts 2 found ↔ found = some (Int32.ofNat n)) := by
  obtain ⟨n, hFound, -⟩ := collision.exists_freeNumber?
  have hLeast := Collision.isLeast_of_freeNumber? hFound
  have hBound := Collision.le_of_isLeast hLeast
  refine ⟨n, hLeast, ?_, hBound, ?_, ?_⟩
  · intro state
    simp only [suffix, stateless, hFound, Collision.numbered]
  · intro hTaken
    exact Collision.le_of_isLeast_of_taken hLeast (List.contains_iff_mem.mp hTaken)
  · intro hFew found
    obtain ⟨left, rfl⟩ := Nat.exists_eq_add_of_le hLeast.1.1
    have hCounts := Collision.counts_of_isLeast left (Nat.le_refl 2) hLeast (by omega)
    constructor
    · intro hOther
      exact hOther.unique hCounts
    · rintro rfl
      exact hCounts

/-! ## Registering with numbers -/

variable {σ : Type}

/-- Numbers always give a free name, and leave the state as it is. -/
theorem Policy.exists_suffix_answer (question : Collision) :
    ∃ answer, answer ≠ "" ∧ answer ∉ question.existing ∧
      ∀ state : σ, (Policy.suffix : Policy σ).resolve question state = (.ok answer, state) := by
  obtain ⟨n, hFound, hFree⟩ := question.exists_freeNumber?
  refine ⟨question.numbered n, question.numbered_ne_empty n, ?_, ?_⟩
  · intro hTaken
    rw [Collision.isTaken, List.contains_iff_mem.mpr hTaken] at hFree
    cases hFree
  · intro state
    simp only [suffix, stateless, hFound]

theorem freeName_suffix (table : Table) (proposal : Proposal) :
    ∃ name, ∀ state : σ, (freeName .suffix table proposal).result state = (.ok name, state) := by
  unfold freeName
  split
  · obtain ⟨answer, hNonempty, hFree, hAnswer⟩ := Policy.exists_suffix_answer (σ := σ)
      ⟨proposal.owner, proposal.name, table.relationships.keys⟩
    have hUsable : ¬ (answer = "" ∨ table.relationships.contains answer = true) := by
      rw [Keyed.contains_iff]
      exact not_or.mpr ⟨hNonempty, hFree⟩
    refine ⟨answer, fun state => ?_⟩
    simp only [Build.result_bind, Build.result_consult, hAnswer, if_neg hUsable, Build.result_pure]
  · exact ⟨proposal.name, fun state => rfl⟩

/-- Under the policy of numbers a registration on a known table succeeds. -/
theorem register_suffix (owner : Table) (proposal : Proposal) :
    ∃ name, ∀ (tables : Keyed Table) (state : σ), tables.get? proposal.owner = some owner →
      (register .suffix tables proposal).result state =
        (.ok (tables.insert proposal.owner (owner.relate name proposal.relationship)), state) := by
  obtain ⟨name, hName⟩ := freeName_suffix (σ := σ) owner proposal
  refine ⟨name, fun tables state hOwner => ?_⟩
  simp only [register, hOwner]
  rw [Build.result_bind, hName state]
  rfl

end SchemaScaffold
