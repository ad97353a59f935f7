import AsyncForge.Lib.Accounts

/-! One machine against another: a run that a second machine follows step by step, a run with some
    of its steps left out, and two runs with the same decisions. -/

namespace AsyncForge.Refinement

open AsyncForge.Accounts AsyncForge.Runs

variable {σ τ α β : Type*} {step : σ → α → Option σ} {start s : σ} {trace : List (σ × α)}

/-- The second machine takes, for each step of the first, the steps that this one tells. -/
theorem follows {Inv : σ → Prop} {R : σ → τ → Prop} {tell : σ → α → List β} {apply : τ → β → τ}
    {t : τ} (keep : ∀ s a s', Inv s → step s a = some s' → Inv s')
    (match_step : ∀ s a s' t, Inv s → R s t → step s a = some s' →
      R s' ((tell s a).foldl apply t))
    (run : Run step start trace s) (initial : Inv start) (related : R start t) :
    R s ((told tell trace).foldl apply t) := by
  refine gathers (R := fun s l => R s (l.foldl apply t)) keep ?_ run initial related
  intro s a s' l inv before taken
  rw [List.foldl_append]
  exact match_step s a s' _ inv before taken

/-- A run goes through without the steps that nothing related depends on. -/
theorem erased {step' : τ → α → Option τ} {R : σ → τ → Prop} {visible : α → Bool} {t : τ}
    (matched : ∀ s a s' t, R s t → visible a = true → step s a = some s' →
      ∃ t', step' t a = some t' ∧ R s' t')
    (skipped : ∀ s a s' t, R s t → visible a = false → step s a = some s' → R s' t)
    (run : Run step start trace s) (related : R start t) :
    ∃ trace' t', Run step' t trace' t' ∧ R s t' ∧
      trace'.map Prod.snd = (trace.map Prod.snd).filter visible := by
  induction run with
  | nil => exact ⟨[], t, .nil, related, rfl⟩
  | @snoc trace s s' a before last ih =>
    rcases ih with ⟨trace', t', run', related', same⟩
    cases seen : visible a with
    | true =>
      rcases matched s a s' t' related' seen last with ⟨t'', last', related''⟩
      exact ⟨trace' ++ [(t', a)], t'', run'.snoc last', related'', by simp [same, seen]⟩
    | false => exact ⟨trace', t', run', skipped s a s' t' related' seen last, by simp [same, seen]⟩

/-- Two runs in which the same is decided, in the same order, agree on what depends on no more than
    the decisions. -/
theorem agree {R : σ → σ → Prop} {decision : α → Option β} {start' s' : σ}
    {trace' : List (σ × α)}
    (matched : ∀ s a s' t b t', R s t → decision b = decision a → (decision a).isSome = true →
      step s a = some s' → step t b = some t' → R s' t')
    (left : ∀ s a s' t, R s t → decision a = none → step s a = some s' → R s' t)
    (right : ∀ s t a t', R s t → decision a = none → step t a = some t' → R s t')
    (one : Run step start trace s) (two : Run step start' trace' s') (related : R start start')
    (same : (trace'.map Prod.snd).filterMap decision = (trace.map Prod.snd).filterMap decision) :
    R s s' := by
  induction one generalizing trace' s' with
  | nil =>
    induction two with
    | nil => exact related
    | @snoc trace' t t' b before last ih =>
      cases decided : decision b with
      | none => exact right _ _ _ _ (ih (by simpa [decided] using same)) decided last
      | some d => simp [decided] at same
  | @snoc trace u u' a before last ih =>
    cases decided : decision a with
    | none => exact left _ _ _ _ (ih two (by simpa [decided] using same)) decided last
    | some d =>
      -- The last decision of the other run may lie before steps that decide nothing.
      induction two with
      | nil => simp [decided] at same
      | @snoc trace' t t' b before' last' ih' =>
        cases decided' : decision b with
        | none => exact right _ _ _ _ (ih' (by simpa [decided'] using same)) decided' last'
        | some d' =>
          have ends : (trace'.map Prod.snd).filterMap decision =
              (trace.map Prod.snd).filterMap decision ∧ d' = d := by
            simpa [decided, decided'] using same
          rcases ends with ⟨prior, rfl⟩
          have equal : decision b = decision a := decided'.trans decided.symm
          exact matched _ _ _ _ _ _ (ih before' prior) equal (by simp [decided]) last last'

end AsyncForge.Refinement
