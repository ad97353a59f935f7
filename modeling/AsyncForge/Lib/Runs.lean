import Mathlib.Data.List.Basic

/-! Runs of a guarded step function, with the state every step starts from. -/

namespace AsyncForge.Runs

variable {σ α : Type*}

/-- The steps of the trace, in order, lead from the first state to the last. -/
inductive Run (step : σ → α → Option σ) (start : σ) : List (σ × α) → σ → Prop
  | nil : Run step start [] start
  | snoc {trace : List (σ × α)} {s s' : σ} {a : α} (before : Run step start trace s)
      (last : step s a = some s') : Run step start (trace ++ [(s, a)]) s'

def Reachable (step : σ → α → Option σ) (start s : σ) : Prop := ∃ trace, Run step start trace s

/-- Every step of the trace meets the condition on its action and the state it starts from. -/
def Along (good : σ → α → Prop) (trace : List (σ × α)) : Prop := ∀ e ∈ trace, good e.1 e.2

instance {good : σ → α → Prop} [∀ s a, Decidable (good s a)] (trace : List (σ × α)) :
    Decidable (Along good trace) := inferInstanceAs (Decidable (∀ e ∈ trace, good e.1 e.2))

theorem Along.nil (good : σ → α → Prop) : Along good [] := by simp [Along]

theorem along_snoc {good : σ → α → Prop} {trace : List (σ × α)} {s : σ} {a : α} :
    Along good (trace ++ [(s, a)]) ↔ Along good trace ∧ good s a := by
  constructor
  · intro all
    exact ⟨fun e member => all e (List.mem_append_left _ member), all (s, a) (by simp)⟩
  · intro given e member
    rcases given with ⟨all, last⟩
    rcases List.mem_append.mp member with member | member
    · exact all e member
    · obtain rfl := List.mem_singleton.mp member
      exact last

variable {step : σ → α → Option σ} {start s s' : σ} {trace trace' : List (σ × α)}

theorem Run.append (first : Run step start trace s) (second : Run step s trace' s') :
    Run step start (trace ++ trace') s' := by
  induction second with
  | nil => simpa using first
  | snoc _ last ih =>
    rw [← List.append_assoc]
    exact ih.snoc last

theorem Run.split {past later : List (σ × α)} {t : σ} {a : α}
    (run : Run step start (past ++ (t, a) :: later) s) :
    ∃ t', Run step start past t ∧ step t a = some t' ∧ Run step t' later s := by
  generalize cut : past ++ (t, a) :: later = trace at run
  induction run generalizing later with
  | nil => simp at cut
  | @snoc trace u u' b before last ih =>
    rcases List.eq_nil_or_concat later with rfl | ⟨front, e, rfl⟩
    · rcases List.append_inj' cut rfl with ⟨rfl, same⟩
      rcases Prod.mk.inj (List.cons.inj same).1 with ⟨rfl, rfl⟩
      exact ⟨u', before, last, .nil⟩
    · rw [List.concat_eq_append] at cut ⊢
      have shifted : (past ++ (t, a) :: front) ++ [e] = trace ++ [(u, b)] := by simpa using cut
      rcases List.append_inj' shifted rfl with ⟨same, ends⟩
      rcases ih same with ⟨t', prior, taken, rest⟩
      obtain rfl := (List.cons.inj ends).1
      exact ⟨t', prior, taken, rest.snoc last⟩

theorem Run.nil_eq (run : Run step start [] s) : s = start := by
  generalize empty : ([] : List (σ × α)) = trace at run
  cases run with
  | nil => rfl
  | snoc _ _ => simp at empty

theorem Run.head_eq {later : List (σ × α)} {t : σ} {a : α}
    (run : Run step start ((t, a) :: later) s) : t = start := by
  have cut : Run step start ([] ++ (t, a) :: later) s := run
  rcases cut.split with ⟨_, before, -, -⟩
  exact before.nil_eq

theorem Run.invariant {Inv : σ → Prop} (keep : ∀ s a s', Inv s → step s a = some s' → Inv s')
    (run : Run step start trace s) (initial : Inv start) : Inv s := by
  induction run with
  | nil => exact initial
  | snoc _ last ih => exact keep _ _ _ ih last

theorem Run.invariant_along {Inv : σ → Prop} {good : σ → α → Prop}
    (keep : ∀ s a s', Inv s → good s a → step s a = some s' → Inv s')
    (run : Run step start trace s) (all : Along good trace) (initial : Inv start) : Inv s := by
  induction run with
  | nil => exact initial
  | snoc _ last ih =>
    rcases along_snoc.mp all with ⟨before, now⟩
    exact keep _ _ _ (ih before) now last

/-- What an invariant says of single steps holds of every step of the run. -/
theorem Run.along_of_invariant (Inv : σ → Prop) {good told : σ → α → Prop}
    (keep : ∀ s a s', Inv s → good s a → step s a = some s' → Inv s')
    (tell : ∀ s a s', Inv s → good s a → step s a = some s' → told s a)
    (run : Run step start trace s) (all : Along good trace) (initial : Inv start) :
    Along told trace := by
  induction run with
  | nil => exact Along.nil _
  | snoc before last ih =>
    rcases along_snoc.mp all with ⟨past, now⟩
    exact along_snoc.mpr ⟨ih past, tell _ _ _ (before.invariant_along keep past initial) now last⟩

theorem Reachable.invariant {Inv : σ → Prop}
    (keep : ∀ s a s', Inv s → step s a = some s' → Inv s')
    (reached : Reachable step start s) (initial : Inv start) : Inv s := by
  rcases reached with ⟨trace, run⟩
  exact run.invariant keep initial

theorem Reachable.next {a : α} (reached : Reachable step start s) (taken : step s a = some s') :
    Reachable step start s' := by
  rcases reached with ⟨trace, run⟩
  exact ⟨_, run.snoc taken⟩

theorem Run.reachable (run : Run step start trace s) : Reachable step start s := ⟨trace, run⟩

def exec (step : σ → α → Option σ) : σ → List α → Option σ
  | s, [] => some s
  | s, a :: acts => (step s a).bind fun s' => exec step s' acts

def traceOf (step : σ → α → Option σ) : σ → List α → List (σ × α)
  | _, [] => []
  | s, a :: acts => (s, a) :: ((step s a).map fun s' => traceOf step s' acts).getD []

theorem run_of_exec (acts : List α) (done : exec step start acts = some s) :
    Run step start (traceOf step start acts) s := by
  induction acts generalizing start with
  | nil => cases done; exact .nil
  | cons a acts ih =>
    rcases Option.bind_eq_some_iff.mp done with ⟨middle, first, rest⟩
    have one : Run step start [(start, a)] middle := Run.nil.snoc first
    simpa [traceOf, first] using one.append (ih rest)

theorem reachable_of_exec (acts : List α) (done : exec step start acts = some s) :
    Reachable step start s := (run_of_exec acts done).reachable

/-- The steps that are good where they are taken. -/
def guarded (step : σ → α → Option σ) (good : σ → α → Bool) (s : σ) (a : α) : Option σ :=
  if good s a then step s a else none

theorem exec_guarded {good : σ → α → Bool} (acts : List α)
    (done : exec (guarded step good) start acts = some s) :
    exec step start acts = some s ∧
      Along (fun t a => good t a = true) (traceOf step start acts) := by
  induction acts generalizing start with
  | nil => exact ⟨done, Along.nil _⟩
  | cons a acts ih =>
    rcases Option.bind_eq_some_iff.mp done with ⟨middle, first, rest⟩
    simp only [guarded, Option.ite_none_right_eq_some] at first
    rcases first with ⟨good, first⟩
    rcases ih rest with ⟨done, all⟩
    simp only [exec, traceOf, first, Option.bind_some, Option.map_some, Option.getD_some]
    exact ⟨done, List.forall_mem_cons.mpr ⟨good, all⟩⟩

/-- Some step met `begin`, and every step after it met `hold`. -/
def Since (hold begin : σ → α → Prop) (trace : List (σ × α)) : Prop :=
  ∃ past s a later, trace = past ++ (s, a) :: later ∧ begin s a ∧ Along hold later

theorem not_since_nil {hold begin : σ → α → Prop} : ¬ Since hold begin [] := by
  intro given
  rcases given with ⟨past, s, a, later, same, -⟩
  simp at same

theorem since_snoc {hold begin : σ → α → Prop} {a : α} :
    Since hold begin (trace ++ [(s, a)]) ↔ begin s a ∨ Since hold begin trace ∧ hold s a := by
  constructor
  · intro given
    rcases given with ⟨past, t, b, later, same, started, held⟩
    rcases List.eq_nil_or_concat later with rfl | ⟨front, ⟨u, c⟩, rfl⟩
    · rcases List.append_inj' same rfl with ⟨-, ends⟩
      rcases Prod.mk.inj (List.cons.inj ends).1 with ⟨rfl, rfl⟩
      exact .inl started
    · rw [List.concat_eq_append] at same held
      have shifted : trace ++ [(s, a)] = (past ++ (t, b) :: front) ++ [(u, c)] := by
        rw [same, List.append_assoc, List.cons_append]
      rcases List.append_inj' shifted rfl with ⟨prefixes, ends⟩
      rcases Prod.mk.inj (List.cons.inj ends).1 with ⟨rfl, rfl⟩
      rcases along_snoc.mp held with ⟨before, now⟩
      exact .inr ⟨⟨past, t, b, front, prefixes, started, before⟩, now⟩
  · intro either
    rcases either with started | ⟨⟨past, t, b, later, rfl, started, held⟩, now⟩
    · exact ⟨trace, s, a, [], rfl, started, .nil _⟩
    · exact ⟨past, t, b, later ++ [(s, a)], by simp, started, along_snoc.mpr ⟨held, now⟩⟩

/-- A state predicate that `begin` steps establish, `hold` steps keep and all other steps end is
    the past-time formula "`hold` since `begin`". -/
theorem Run.since_iff {Inv R : σ → Prop} {hold begin : σ → α → Prop}
    (keep : ∀ s a s', Inv s → step s a = some s' → Inv s')
    (change : ∀ s a s', Inv s → step s a = some s' → (R s' ↔ begin s a ∨ R s ∧ hold s a))
    (run : Run step start trace s) (initial : Inv start) (unset : ¬ R start) :
    R s ↔ Since hold begin trace := by
  induction run with
  | nil => simp only [unset, not_since_nil]
  | snoc before last ih =>
    rw [change _ _ _ (before.invariant keep initial) last, since_snoc, ih]

/-- The same, where the account of a step needs no invariant. -/
theorem Run.since_iff_of_steps {R : σ → Prop} {hold begin : σ → α → Prop}
    (change : ∀ s a s', step s a = some s' → (R s' ↔ begin s a ∨ R s ∧ hold s a))
    (run : Run step start trace s) (unset : ¬ R start) : R s ↔ Since hold begin trace := by
  have keep : ∀ s a s', True → step s a = some s' → True := fun _ _ _ _ _ => True.intro
  exact run.since_iff keep (fun s a s' _ taken => change s a s' taken) True.intro unset

/-- What an open state holds is what the steps up to it added, if the account of every step that
    ends in an open state is right. -/
theorem Run.account {β : Type*} {Inv Open : σ → Prop} {held : σ → List β}
    {added : σ → α → List β} (keep : ∀ s a s', Inv s → step s a = some s' → Inv s')
    (back : ∀ s a s', step s a = some s' → Open s' → Open s)
    (change : ∀ s a s', Inv s → step s a = some s' → Open s' →
      (held s').Perm (held s ++ added s a))
    (run : Run step start trace s) (initial : Inv start) (opened : Open s) :
    (held s).Perm (held start ++ trace.flatMap fun e => added e.1 e.2) := by
  induction run with
  | nil => simp
  | snoc before last ih =>
    have now := change _ _ _ (before.invariant keep initial) last opened
    have past := ih (back _ _ _ last opened)
    simpa [List.append_assoc] using now.trans (past.append_right _)

/-- What an object that is born in the run holds is what the steps since its birth added. -/
theorem Run.since_birth {β : Type*} {Inv : σ → Prop} {held : σ → Option (List β)}
    {born : σ → α → Prop} {added : σ → α → List β}
    (keep : ∀ s a s', Inv s → step s a = some s' → Inv s')
    (change : ∀ s a s' l, Inv s → step s a = some s' → held s' = some l →
      (born s a ∧ l = []) ∨ ∃ before, held s = some before ∧ l = before ++ added s a)
    (run : Run step start trace s) (initial : Inv start) (unborn : held start = none)
    {l : List β} (holds : held s = some l) :
    ∃ past t a later, trace = past ++ (t, a) :: later ∧ born t a ∧
      l = later.flatMap fun e => added e.1 e.2 := by
  induction run generalizing l with
  | nil =>
    rw [unborn] at holds
    cases holds
  | @snoc trace s s' b before last ih =>
    rcases change _ _ _ _ (before.invariant keep initial) last holds with
      ⟨started, rfl⟩ | ⟨kept, held, rfl⟩
    · exact ⟨trace, s, b, [], rfl, started, rfl⟩
    · rcases ih held with ⟨past, t, a, later, rfl, started, rfl⟩
      exact ⟨past, t, a, later ++ [(s, b)], by simp, started, by simp⟩

end AsyncForge.Runs
