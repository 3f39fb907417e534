/-!
# Runs of code points

A character class and a case map are both stored as short lists of runs, in ascending order. The
tables are those of Unicode 17 unless a module says otherwise.

* `CodeRun`: the code points `first`, `first + step`, … up to `last`.
* `CodeRun.within`: whether a list of runs holds a code point.
* `ShiftRun`, `ShiftRun.target?`: a case map whose runs move each code point by one offset.
-/

namespace SchemaScaffold.Unicode

/-- A run of code points: every `step`-th one from `first` to `last`. -/
structure CodeRun where
  first : Nat
  last : Nat
  step : Nat
  deriving Repr, DecidableEq

namespace CodeRun

/-- Whether one of the runs holds the code point; the runs ascend, so the search stops early. -/
def within (code : Nat) : List CodeRun → Bool
  | [] => false
  | run :: rest =>
    if code < run.first then false
    else if code ≤ run.last then (code - run.first) % run.step == 0
    else within code rest

@[simp] theorem within_nil (code : Nat) : within code [] = false := rfl

/-- What a list of runs holds lies in one of its runs. -/
theorem exists_of_within {code : Nat} {runs : List CodeRun} (h : within code runs = true) :
    ∃ run ∈ runs, run.first ≤ code ∧ code ≤ run.last := by
  induction runs with
  | nil => simp at h
  | cons run rest ih =>
    unfold within at h
    split at h
    · simp at h
    · split at h
      · exact ⟨run, List.mem_cons_self, by omega, by omega⟩
      · obtain ⟨found, hmem, hbound⟩ := ih h
        exact ⟨found, List.mem_cons_of_mem _ hmem, hbound⟩

end CodeRun

/-- A run of code points that a case map moves by the same offset. -/
structure ShiftRun extends CodeRun where
  offset : Int
  deriving Repr, DecidableEq

namespace ShiftRun

/-- The code point that the map sends `code` to, if one of its runs holds it. -/
def target? (code : Nat) : List ShiftRun → Option Nat
  | [] => none
  | run :: rest =>
    if code < run.first then none
    else if code ≤ run.last then
      if (code - run.first) % run.step == 0 then some (Int.toNat (code + run.offset)) else none
    else target? code rest

end ShiftRun

end SchemaScaffold.Unicode
