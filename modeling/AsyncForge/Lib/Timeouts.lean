import Mathlib.Data.List.Basic

/-! Things awaited one after another, each for a given time at most. A completion is a time, or
    none for what never completes. -/

namespace AsyncForge.Timeouts

def CompleteBy (time : Nat) (completion : Option Nat) : Prop := ∃ c ∈ completion, c ≤ time

instance (time : Nat) (completion : Option Nat) : Decidable (CompleteBy time completion) :=
  inferInstanceAs (Decidable (∃ c ∈ completion, c ≤ time))

/-- When the waiting that started at `now` ends: at the completion or after the time `d`. -/
def endOf (d now : Nat) (completion : Option Nat) : Nat :=
  match completion with
  | some c => if c ≤ now + d then max now c else now + d
  | none => now + d

def endOfAll (d now : Nat) (completions : List (Option Nat)) : Nat :=
  completions.foldl (endOf d) now

variable {d now time : Nat} {completion : Option Nat} {completions : List (Option Nat)}

@[simp] theorem completeBy_some {c : Nat} : CompleteBy time (some c) ↔ c ≤ time := by
  simp [CompleteBy]

@[simp] theorem not_completeBy_none : ¬ CompleteBy time none := by simp [CompleteBy]

theorem le_endOf : now ≤ endOf d now completion := by
  unfold endOf
  split
  · split <;> omega
  · omega

theorem endOf_le : endOf d now completion ≤ now + d := by
  unfold endOf
  split
  · split <;> omega
  · omega

/-- The waiting ends with what is complete exactly when the time for it was enough. -/
theorem completeBy_endOf :
    CompleteBy (endOf d now completion) completion ↔ CompleteBy (now + d) completion := by
  cases completion with
  | none => simp
  | some c =>
    simp only [endOf, completeBy_some]
    split <;> omega

/-- Only what is complete in time ends in time when it is awaited from later on. -/
theorem endOf_le_iff (later : 0 < now) :
    endOf d now completion ≤ d ↔ now ≤ d ∧ CompleteBy d completion := by
  cases completion with
  | none =>
    simp only [endOf, not_completeBy_none, and_false, iff_false]
    omega
  | some c =>
    simp only [endOf, completeBy_some]
    split <;> omega

theorem endOf_pos (room : 0 < d) (pending : completion ≠ some 0) : 0 < endOf d 0 completion := by
  cases completion with
  | none => simpa [endOf] using room
  | some c =>
    have positive : c ≠ 0 := by simpa using pending
    simp only [endOf]
    split <;> omega

theorem le_endOfAll : now ≤ endOfAll d now completions := by
  induction completions generalizing now with
  | nil => exact Nat.le_refl now
  | cons completion rest ih => exact Nat.le_trans le_endOf ih

/-- All of them take at most the time `d` each. -/
theorem endOfAll_le : endOfAll d now completions ≤ now + completions.length * d := by
  induction completions generalizing now with
  | nil => simp [endOfAll]
  | cons completion rest ih =>
    have first : endOf d now completion ≤ now + d := endOf_le
    have others : endOfAll d (endOf d now completion) rest ≤ _ := ih
    change endOfAll d (endOf d now completion) rest ≤ _
    rw [List.length_cons, Nat.succ_mul]
    omega

theorem endOfAll_le_iff_of_pos (later : 0 < now) :
    endOfAll d now completions ≤ d ↔
      now ≤ d ∧ ∀ completion ∈ completions, CompleteBy d completion := by
  induction completions generalizing now with
  | nil => simp [endOfAll]
  | cons completion rest ih =>
    have next : 0 < endOf d now completion := Nat.lt_of_lt_of_le later le_endOf
    change endOfAll d (endOf d now completion) rest ≤ d ↔ _
    rw [ih next, endOf_le_iff later, List.forall_mem_cons, and_assoc]

/-- They all end within the time of one of them exactly when whatever is not complete in that time
    comes after nothing but what was complete at once. -/
theorem endOfAll_le_iff : endOfAll d 0 completions ≤ d ↔
    d = 0 ∨ completions.Pairwise fun before completion =>
      CompleteBy d completion ∨ before = some 0 := by
  rcases Nat.eq_zero_or_pos d with rfl | room
  · have bound : endOfAll 0 0 completions ≤ _ := endOfAll_le
    simpa using bound
  have positive : d ≠ 0 := Nat.ne_of_gt room
  rw [or_iff_right positive]
  induction completions with
  | nil => simp [endOfAll]
  | cons completion rest ih =>
    change endOfAll d (endOf d 0 completion) rest ≤ d ↔ _
    rw [List.pairwise_cons]
    by_cases atOnce : completion = some 0
    · subst atOnce
      have still : endOf d 0 (some 0) = 0 := by simp [endOf]
      simp [still, ih]
    · have first : endOf d 0 completion ≤ 0 + d := endOf_le
      rw [Nat.zero_add] at first
      rw [endOfAll_le_iff_of_pos (endOf_pos room atOnce)]
      simp only [atOnce, or_false, first, true_and]
      constructor
      · intro all
        refine ⟨all, ?_⟩
        apply List.pairwise_of_forall_mem_list
        intro _ _ other member
        exact .inl (all other member)
      · intro given
        exact given.1

end AsyncForge.Timeouts
