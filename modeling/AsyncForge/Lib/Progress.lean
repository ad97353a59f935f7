import Mathlib.Algebra.GroupWithZero.Nat
import Mathlib.Algebra.Order.BigOperators.Group.List
import Mathlib.Data.List.Basic
import Mathlib.Order.WellFounded
import AsyncForge.Lib.Runs

/-! What is left to do, as a measure of the state. -/

namespace AsyncForge.Progress

open AsyncForge.Runs

variable {σ α M : Type*} {step : σ → α → Option σ} {start s : σ} {trace : List (σ × α)}

theorem run_cons {a : α} {s' s'' : σ} (first : step s a = some s') (rest : Run step s' trace s'') :
    Run step s ((s, a) :: trace) s'' := by
  have one : Run step s [(s, a)] s' := Run.nil.snoc first
  exact one.append rest

/-- If in every state that is not quiet some good step leaves less to do, a quiet state is reached
    by good steps. -/
theorem settles [Preorder M] [WellFoundedLT M] {Inv Quiet : σ → Prop} {good : σ → α → Prop}
    (left : σ → M) (keep : ∀ s a s', Inv s → good s a → step s a = some s' → Inv s')
    (advance : ∀ s, Inv s → ¬ Quiet s → ∃ a s', good s a ∧ step s a = some s' ∧ left s' < left s)
    (s : σ) (inv : Inv s) :
    ∃ trace s', Run step s trace s' ∧ Along good trace ∧ Quiet s' := by
  induction s using (InvImage.wf left wellFounded_lt).induction with
  | _ s ih =>
    by_cases quiet : Quiet s
    · exact ⟨[], s, .nil, .nil _, quiet⟩
    · rcases advance s inv quiet with ⟨a, s', meets, taken, less⟩
      rcases ih s' less (keep s a s' inv meets taken) with ⟨trace, s'', run, all, ended⟩
      refine ⟨(s, a) :: trace, s'', run_cons taken run, ?_, ended⟩
      intro e member
      rcases List.mem_cons.mp member with rfl | member
      · exact meets
      · exact all e member

/-- No more steps are counted than there was left to do. -/
theorem counted {left : σ → Nat} {good : σ → α → Prop} (counts : σ → α → Bool)
    (kept : ∀ s a s', good s a → step s a = some s' → left s' ≤ left s)
    (less : ∀ s a s', good s a → counts s a = true → step s a = some s' → left s' < left s)
    (run : Run step start trace s) (all : Along good trace) :
    (trace.countP fun e => counts e.1 e.2) + left s ≤ left start := by
  induction run with
  | nil => simp
  | @snoc trace t t' a before last ih =>
    rcases along_snoc.mp all with ⟨past, now⟩
    have first := ih past
    have next := kept t a t' now last
    rw [List.countP_append, List.countP_singleton]
    split
    next counting =>
      have below := less t a t' now counting last
      omega
    · omega

/-- The same, if every step counts. -/
theorem bounded {left : σ → Nat} {good : σ → α → Prop}
    (less : ∀ s a s', good s a → step s a = some s' → left s' < left s)
    (run : Run step start trace s) (all : Along good trace) :
    trace.length + left s ≤ left start := by
  have some := counted (fun _ _ => true)
    (fun t a t' now taken => Nat.le_of_lt (less t a t' now taken))
    (fun t a t' now _ taken => less t a t' now taken) run all
  simpa using some

theorem sum_modify {T : Type*} (weight : T → Nat) (f : T → T) {rows : List T} {i : Nat} {row : T}
    (found : rows[i]? = some row) :
    ((rows.modify i f).map weight).sum + weight row =
      (rows.map weight).sum + weight (f row) := by
  induction rows generalizing i with
  | nil => cases found
  | cons first rows ih =>
    cases i with
    | zero =>
      cases found
      simp
      omega
    | succ i =>
      have rest := ih found
      simp only [List.modify_succ_cons, List.map_cons, List.sum_cons]
      omega

end AsyncForge.Progress
