import Mathlib.Data.List.Basic

/-! Bounded channels with many senders and one receiver, and tables of them. -/

namespace AsyncForge.Channels

/-- A bounded channel. `received` is what its receiver has taken so far, oldest first;
    `closed` says that the receiver was closed or dropped. -/
structure Chan (T : Type*) where
  capacity : Nat
  received : List T := []
  buffer : List T := []
  closed : Bool := false
  deriving DecidableEq, Repr

namespace Chan

variable {T : Type*} (c : Chan T) (m : T)

/-- Everything that was ever put into the buffer, oldest first. -/
def sent : List T := c.received ++ c.buffer

def full : Bool := c.capacity ≤ c.buffer.length

def push : Chan T := { c with buffer := c.buffer ++ [m] }

def pop : Chan T :=
  { c with received := c.received ++ c.buffer.take 1, buffer := c.buffer.drop 1 }

def close : Chan T := { c with closed := true }

@[simp] theorem sent_push : (c.push m).sent = c.sent ++ [m] := by simp [sent, push]

@[simp] theorem sent_pop : c.pop.sent = c.sent := by
  simp only [sent, pop, List.append_assoc, List.take_append_drop]

@[simp] theorem sent_close : c.close.sent = c.sent := rfl

@[simp] theorem closed_push : (c.push m).closed = c.closed := rfl

@[simp] theorem closed_pop : c.pop.closed = c.closed := rfl

@[simp] theorem closed_close : c.close.closed = true := rfl

@[simp] theorem capacity_push : (c.push m).capacity = c.capacity := rfl

@[simp] theorem capacity_pop : c.pop.capacity = c.capacity := rfl

@[simp] theorem capacity_close : c.close.capacity = c.capacity := rfl

theorem full_of_pop (filled : c.pop.full = true) : c.full = true := by
  simp only [full, pop, List.length_drop, decide_eq_true_eq] at filled ⊢
  exact Nat.le_trans filled (Nat.sub_le _ _)

theorem pop_length (buffered : c.buffer ≠ []) : c.pop.buffer.length < c.buffer.length := by
  have some := List.length_pos_iff.mpr buffered
  simp only [pop, List.length_drop]
  omega

theorem buffered_of_full (slot : 0 < c.capacity) (full : c.full = true) : c.buffer ≠ [] := by
  intro empty
  simp only [Chan.full, empty, List.length_nil, decide_eq_true_eq] at full
  omega

end Chan

section Tables

variable {T : Type*}

theorem getElem?_concat (rows : List T) (row : T) (i : Nat) :
    (rows ++ [row])[i]? = if i = rows.length then some row else rows[i]? := by
  split
  · subst i
    simp
  · rename_i other
    rcases Nat.lt_or_gt_of_ne other with below | above
    · exact List.getElem?_append_left below
    · simp only [List.getElem?_append_right (Nat.le_of_lt above)]
      rw [List.getElem?_eq_none (by omega : rows.length ≤ i)]
      exact List.getElem?_eq_none (by simp; omega)

/-- The receiver of one channel of the table takes a message; with an empty buffer it waits. -/
def receiveAt (rows : List (Chan T)) (i : Nat) : Option (List (Chan T)) :=
  match rows[i]? with
  | some chan => if chan.buffer.isEmpty then none else some (rows.modify i Chan.pop)
  | none => none

def closeAt (rows : List (Chan T)) (i : Nat) : List (Chan T) := rows.modify i Chan.close

theorem receiveAt_some {rows rows' : List (Chan T)} {i : Nat} (h : receiveAt rows i = some rows') :
    rows' = rows.modify i Chan.pop := by
  unfold receiveAt at h
  split at h
  · split at h
    · cases h
    · exact (Option.some.inj h).symm
  · cases h

theorem receiveAt_buffered {rows rows' : List (Chan T)} {i : Nat}
    (received : receiveAt rows i = some rows') :
    ∃ chan, rows[i]? = some chan ∧ chan.buffer ≠ [] := by
  unfold receiveAt at received
  split at received
  next chan present =>
    split at received
    · cases received
    next buffered => exact ⟨chan, present, by simpa using buffered⟩
  · cases received

theorem forall_mem_concat {P : T → Prop} {rows : List T} {row : T} (all : ∀ x ∈ rows, P x)
    (last : P row) : ∀ x ∈ rows ++ [row], P x :=
  List.forall_mem_append.mpr ⟨all, List.forall_mem_singleton.mpr last⟩

theorem forall_mem_modify {P : T → Prop} {rows : List T} {i : Nat} {f : T → T}
    (all : ∀ row ∈ rows, P row) (keep : ∀ row, rows[i]? = some row → P row → P (f row)) :
    ∀ row ∈ rows.modify i f, P row := by
  intro row member
  rcases List.mem_iff_getElem?.mp member with ⟨j, place⟩
  rw [List.getElem?_modify] at place
  rcases Option.map_eq_some_iff.mp place with ⟨before, found, rfl⟩
  split
  next same =>
    subst same
    exact keep before found (all before (List.mem_of_getElem? found))
  · exact all before (List.mem_of_getElem? found)

theorem getElem?_lt {rows : List T} {i : Nat} {row : T} (present : rows[i]? = some row) :
    i < rows.length := (List.getElem?_eq_some_iff.mp present).1

theorem getElem?_exists {rows : List T} {i : Nat} (bound : i < rows.length) :
    ∃ row, rows[i]? = some row := ⟨_, List.getElem?_eq_getElem bound⟩

end Tables

end AsyncForge.Channels
