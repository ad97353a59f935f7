import Mathlib.Data.List.Induction

/-! Removing collected places from a list, the last place first. -/

namespace AsyncForge.Removal

variable {T : Type*}

/-- Removal of one place, which fails out of bounds. -/
def remove? (rows : List T) (i : Nat) : Option (List T) :=
  if i < rows.length then some (rows.eraseIdx i) else none

/-- The rows whose places, counted from `first`, are not listed, in their order. -/
def dropAt (places : List Nat) : Nat → List T → List T
  | _, [] => []
  | first, row :: rows =>
    if first ∈ places then dropAt places (first + 1) rows
    else row :: dropAt places (first + 1) rows

theorem dropAt_append (places : List Nat) (first : Nat) (front back : List T) :
    dropAt places first (front ++ back) =
      dropAt places first front ++ dropAt places (first + front.length) back := by
  induction front generalizing first with
  | nil => simp [dropAt]
  | cons row front ih =>
    have shift : first + (row :: front).length = first + 1 + front.length := by simp; omega
    rw [List.cons_append, dropAt, dropAt, ih, shift]
    split <;> rfl

theorem dropAt_congr {places places' : List Nat} {first : Nat} {rows : List T}
    (same : ∀ i, first ≤ i → i < first + rows.length → (i ∈ places ↔ i ∈ places')) :
    dropAt places first rows = dropAt places' first rows := by
  induction rows generalizing first with
  | nil => rfl
  | cons row rows ih =>
    have rest : dropAt places (first + 1) rows = dropAt places' (first + 1) rows :=
      ih fun i low high => same i (by omega) (by simp only [List.length_cons]; omega)
    have here := same first (Nat.le_refl _) (by simp)
    simp only [dropAt, rest, here]

theorem dropAt_of_below {places : List Nat} {first : Nat} (below : ∀ i ∈ places, i < first)
    (rows : List T) : dropAt places first rows = rows := by
  induction rows generalizing first with
  | nil => rfl
  | cons row rows ih =>
    have absent : first ∉ places := fun member => Nat.lt_irrefl _ (below first member)
    rw [dropAt, if_neg absent, ih fun i member => Nat.lt_succ_of_lt (below i member)]

theorem mem_dropAt {places : List Nat} {first : Nat} {rows : List T} {row : T} :
    row ∈ dropAt places first rows ↔ ∃ i, rows[i]? = some row ∧ first + i ∉ places := by
  induction rows generalizing first with
  | nil => simp [dropAt]
  | cons head rows ih =>
    have later : (∃ i, rows[i]? = some row ∧ first + 1 + i ∉ places) ↔
        ∃ i, (head :: rows)[i + 1]? = some row ∧ first + (i + 1) ∉ places := by
      simp [Nat.add_assoc, Nat.add_comm 1]
    have split : (∃ i, (head :: rows)[i]? = some row ∧ first + i ∉ places) ↔
        (head = row ∧ first ∉ places) ∨
          ∃ i, (head :: rows)[i + 1]? = some row ∧ first + (i + 1) ∉ places := by
      constructor
      · intro given
        rcases given with ⟨_ | i, found, kept⟩
        · exact .inl ⟨by simpa using found, by simpa using kept⟩
        · exact .inr ⟨i, found, kept⟩
      · intro either
        rcases either with ⟨same, kept⟩ | ⟨i, found, kept⟩
        · exact ⟨0, by simp [same], by simpa using kept⟩
        · exact ⟨i + 1, found, kept⟩
    rw [split, ← later, ← ih, dropAt]
    by_cases listed : first ∈ places
    · simp [listed]
    · simp [listed, eq_comm]

/-- Rows that are all different are dropped by name as well as by place. -/
theorem mem_dropAt_of_nodup {places : List Nat} {rows : List T} {row : T}
    (distinct : rows.Nodup) :
    row ∈ dropAt places 0 rows ↔ row ∈ rows ∧ row ∉ places.filterMap fun i => rows[i]? := by
  rw [mem_dropAt]
  simp only [Nat.zero_add, List.mem_filterMap, not_exists, not_and]
  constructor
  · intro given
    rcases given with ⟨i, place, kept⟩
    refine ⟨List.mem_of_getElem? place, fun j member found => ?_⟩
    have inside := (List.getElem?_eq_some_iff.mp place).1
    obtain rfl := (List.getElem?_inj inside distinct).mp (place.trans found.symm)
    exact kept member
  · intro given
    rcases given with ⟨member, kept⟩
    rcases List.mem_iff_getElem?.mp member with ⟨i, place⟩
    exact ⟨i, place, fun dropped => kept i dropped place⟩

theorem dropAt_sublist (places : List Nat) (first : Nat) (rows : List T) :
    (dropAt places first rows).Sublist rows := by
  induction rows generalizing first with
  | nil => exact .slnil
  | cons row rows ih =>
    rw [dropAt]
    split
    · exact (ih _).cons _
    · exact (ih _).cons_cons _

theorem dropAt_eraseIdx {places : List Nat} {last : Nat} {rows : List T}
    (below : ∀ i ∈ places, i < last) (inside : last < rows.length) :
    dropAt places 0 (rows.eraseIdx last) = dropAt (places ++ [last]) 0 rows := by
  have cut : rows = rows.take last ++ rows[last] :: rows.drop (last + 1) := by
    rw [List.getElem_cons_drop, List.take_append_drop]
  have front : (rows.take last).length = last := by
    rw [List.length_take]
    omega
  have early : dropAt places 0 (rows.take last) = dropAt (places ++ [last]) 0 (rows.take last) := by
    apply dropAt_congr
    intro i _ high
    have other : i ≠ last := by omega
    simp [other]
  have late : dropAt places last (rows.drop (last + 1)) =
      dropAt (places ++ [last]) (last + 1) (rows.drop (last + 1)) := by
    rw [dropAt_of_below below, dropAt_of_below]
    intro i member
    rcases List.mem_append.mp member with member | member
    · exact Nat.lt_succ_of_lt (below i member)
    · exact List.mem_singleton.mp member ▸ Nat.lt_succ_self last
  calc dropAt places 0 (rows.eraseIdx last)
      = dropAt places 0 (rows.take last ++ rows.drop (last + 1)) := by
        rw [List.eraseIdx_eq_take_drop_succ]
    _ = dropAt (places ++ [last]) 0 (rows.take last ++ rows[last] :: rows.drop (last + 1)) := by
        rw [dropAt_append, dropAt_append, early, front, Nat.zero_add, late, dropAt,
          if_pos (by simp)]
    _ = dropAt (places ++ [last]) 0 rows := by rw [← cut]

/-- The removal loop over increasing places never leaves the bounds and drops exactly them. -/
theorem remove_reverse {places : List Nat} {rows : List T} (increasing : places.Pairwise (· < ·))
    (inside : ∀ i ∈ places, i < rows.length) :
    places.reverse.foldlM remove? rows = some (dropAt places 0 rows) := by
  induction places using List.reverseRecOn generalizing rows with
  | nil => simp [dropAt_of_below]
  | append_singleton places last ih =>
    rcases List.pairwise_append.mp increasing with ⟨front, -, below⟩
    have before : ∀ i ∈ places, i < last := fun i member => below i member last (by simp)
    have bound : last < rows.length := inside last (by simp)
    have kept : ∀ i ∈ places, i < (rows.eraseIdx last).length := by
      intro i member
      have low := before i member
      rw [List.length_eraseIdx_of_lt bound]
      omega
    have rest := ih front kept
    rw [List.reverse_append, List.reverse_singleton, List.singleton_append, List.foldlM_cons,
      remove?, if_pos bound, Option.bind_eq_bind, Option.bind_some, rest,
      dropAt_eraseIdx before bound]

end AsyncForge.Removal
