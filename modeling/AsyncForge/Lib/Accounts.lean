import AsyncForge.Lib.Runs

/-! What the steps of a run tell, in order, and the laws of what goes into a part of the state and
    comes out of it. -/

namespace AsyncForge.Accounts

open AsyncForge.Runs

variable {σ α β : Type*} {step : σ → α → Option σ} {start s : σ} {trace : List (σ × α)}

/-- What the steps of a trace tell, in order. -/
def told (tell : σ → α → List β) (trace : List (σ × α)) : List β :=
  trace.flatMap fun e => tell e.1 e.2

@[simp] theorem told_nil (tell : σ → α → List β) : told tell [] = [] := rfl

@[simp] theorem told_snoc (tell : σ → α → List β) (trace : List (σ × α)) (s : σ) (a : α) :
    told tell (trace ++ [(s, a)]) = told tell trace ++ tell s a := by
  simp [told]

theorem told_append (tell : σ → α → List β) (past later : List (σ × α)) :
    told tell (past ++ later) = told tell past ++ told tell later := List.flatMap_append

/-- What the steps tell, gathered in a relation to the state. -/
theorem gathers {Inv : σ → Prop} {R : σ → List β → Prop} {tell : σ → α → List β}
    (keep : ∀ s a s', Inv s → step s a = some s' → Inv s')
    (gather : ∀ s a s' l, Inv s → R s l → step s a = some s' → R s' (l ++ tell s a))
    (run : Run step start trace s) (initial : Inv start) (related : R start []) :
    R s (told tell trace) := by
  induction run with
  | nil => exact related
  | snoc before last ih =>
    rw [told_snoc]
    exact gather _ _ _ _ (before.invariant keep initial) ih last

variable {held : σ → List β} {put got : σ → α → List β}

/-- A queue gives out what was put into it, in the same order, while its steps are good ones. -/
theorem queued_along {good : σ → α → Prop}
    (change : ∀ s a s', good s a → step s a = some s' → held s ++ put s a = got s a ++ held s')
    (run : Run step start trace s) (all : Along good trace) :
    held start ++ told put trace = told got trace ++ held s := by
  induction run with
  | nil => simp
  | snoc before last ih =>
    rcases along_snoc.mp all with ⟨all, now⟩
    rw [told_snoc, told_snoc, ← List.append_assoc, ih all, List.append_assoc,
      change _ _ _ now last, List.append_assoc]

theorem queued (change : ∀ s a s', step s a = some s' → held s ++ put s a = got s a ++ held s')
    (run : Run step start trace s) :
    held start ++ told put trace = told got trace ++ held s := by
  have all : Along (fun _ _ => True) trace := fun _ _ => True.intro
  exact queued_along (fun s a s' _ taken => change s a s' taken) run all

/-- A bag gives out what was put into it, in some order. -/
theorem balanced
    (change : ∀ s a s', step s a = some s' → (held s ++ put s a).Perm (got s a ++ held s'))
    (run : Run step start trace s) :
    (held start ++ told put trace).Perm (told got trace ++ held s) := by
  induction run with
  | nil => simp
  | @snoc trace s s' a before last ih =>
    rw [told_snoc, told_snoc, ← List.append_assoc]
    have past := ih.append_right (put s a)
    have now := (change _ _ _ last).append_left (told got trace)
    rw [List.append_assoc (told got trace)] at past
    rw [List.append_assoc (told got trace)]
    exact past.trans now

end AsyncForge.Accounts
