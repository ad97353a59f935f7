import AsyncForge.NotifierHub.Subscriptions

/-! Many hubs that are created, moved, swapped and dropped, and share their users. -/

namespace AsyncForge.NotifierHub

open AsyncForge.Channels AsyncForge.Runs AsyncForge.SmartChannel

/-- A hub, where it lies (nowhere once it is dropped), and where it lay at each of its calls of
    `get_new_id`. -/
structure Placed (M ChannelId : Type) where
  hub : NotifierHub M ChannelId
  address : Option Nat
  sites : List Nat

/-- The owner of a receiver is the hub that it was obtained from. -/
structure World (M ChannelId : Type) extends Tables M where
  hubs : List (Placed M ChannelId)
  owners : List Nat

inductive World.Act (M ChannelId : Type)
  | create (address : Nat)
  | move (h address : Nat)
  | swap (h g : Nat)
  | drop (h : Nat)
  | op (h : Nat) (op : Op M ChannelId)
  | event (e : Event)

def Op.asks {M ChannelId : Type} : Op M ChannelId → Bool
  | .subscribe _ | .subscribeMultiple _ | .getCreationWaiter _ => true
  | _ => false

namespace World

variable {M ChannelId : Type}

def new : World M ChannelId := { Tables.new with hubs := [], owners := [] }

def vacant (w : World M ChannelId) (address : Nat) : Bool :=
  w.hubs.all fun p => p.address != some address

/-- The hub that is asked for an id, and where it lies. -/
def asked (w : World M ChannelId) : Act M ChannelId → Option (Nat × Nat)
  | .op h op =>
    match w.hubs[h]? with
    | some ⟨_, some address, _⟩ => if op.asks then some (h, address) else none
    | _ => none
  | _ => none

def issues (w : World M ChannelId) : Act M ChannelId → Option SmartChannelId
  | .op h op =>
    match w.hubs[h]? with
    | some ⟨hub, some address, _⟩ =>
      if op.asks then (hub.getNewId address).map Prod.fst else none
    | _ => none
  | _ => none

variable [DecidableEq ChannelId]

def step (w : World M ChannelId) : Act M ChannelId → Option (World M ChannelId)
  | .create address =>
    if w.vacant address then some { w with hubs := w.hubs ++ [⟨.new, some address, []⟩] } else none
  | .move h address =>
    match w.hubs[h]? with
    | some ⟨hub, some _, sites⟩ =>
      if w.vacant address then some { w with hubs := w.hubs.set h ⟨hub, some address, sites⟩ }
      else none
    | _ => none
  | .swap h g =>
    match w.hubs[h]?, w.hubs[g]? with
    | some ⟨hub, some x, sites⟩, some ⟨hub', some y, sites'⟩ =>
      some { w with hubs := (w.hubs.set h ⟨hub, some y, sites⟩).set g ⟨hub', some x, sites'⟩ }
    | _, _ => none
  | .drop h =>
    match w.hubs[h]? with
    | some ⟨hub, some _, sites⟩ => some { w with hubs := w.hubs.set h ⟨hub, none, sites⟩ }
    | _ => none
  | .op h op =>
    match w.hubs[h]? with
    | some ⟨hub, some address, sites⟩ =>
      (call hub address w.toTables op).map fun (hub, t) => { w with
        toTables := t
        hubs := w.hubs.set h ⟨hub, some address, if op.asks then sites ++ [address] else sites⟩
        owners := if op.joins.isSome then w.owners ++ [h] else w.owners }
    | _ => none
  | .event e => (w.toTables.step e).map fun t => { w with toTables := t }

def issued (trace : List (World M ChannelId × Act M ChannelId)) : List SmartChannelId :=
  trace.filterMap fun e => e.1.issues e.2

section Addresses

def addressOf (hubs : List (Placed M ChannelId)) (h : Nat) : Option Nat :=
  (hubs[h]?).bind Placed.address

def Scattered (hubs : List (Placed M ChannelId)) : Prop :=
  ∀ h g x, addressOf hubs h = some x → addressOf hubs g = some x → h = g

variable {w w' : World M ChannelId} {a : Act M ChannelId} {hubs : List (Placed M ChannelId)}
  {p p' : Placed M ChannelId} {h g address : Nat}

omit [DecidableEq ChannelId] in
theorem addressOf_set (found : hubs[h]? = some p) :
    addressOf (hubs.set h p') g = if g = h then p'.address else addressOf hubs g := by
  unfold addressOf
  rw [List.getElem?_set]
  by_cases same : h = g
  · subst same
    simp [getElem?_lt found]
  · simp [same, Ne.symm same]

omit [DecidableEq ChannelId] in
theorem addressOf_concat :
    addressOf (hubs ++ [p]) g = if g = hubs.length then p.address else addressOf hubs g := by
  unfold addressOf
  rw [getElem?_concat]
  split <;> rfl

omit [DecidableEq ChannelId] in
theorem ne_of_vacant (free : w.vacant address = true) (g : Nat) :
    addressOf w.hubs g ≠ some address := by
  intro taken
  rcases Option.bind_eq_some_iff.mp taken with ⟨p, found, lies⟩
  have other := List.all_eq_true.mp free p (List.mem_of_getElem? found)
  simp [lies] at other

omit [DecidableEq ChannelId] in
/-- A hub that comes to lie where no other hub lies. -/
theorem Scattered.put {hubs' : List (Placed M ChannelId)} (scattered : Scattered hubs)
    (fresh : ∀ g, addressOf hubs g ≠ some address)
    (moved : ∀ g, addressOf hubs' g = if g = h then some address else addressOf hubs g) :
    Scattered hubs' := by
  intro i j x one two
  rw [moved] at one two
  by_cases first : i = h <;> by_cases second : j = h <;>
    simp only [first, second, ↓reduceIte] at one two
  · rw [first, second]
  · cases one
    exact absurd two (fresh j)
  · cases two
    exact absurd one (fresh i)
  · exact scattered i j x one two

omit [DecidableEq ChannelId] in
theorem Scattered.of_imp {hubs' : List (Placed M ChannelId)} (scattered : Scattered hubs)
    (kept : ∀ g x, addressOf hubs' g = some x → addressOf hubs g = some x) :
    Scattered hubs' :=
  fun i j x one two => scattered i j x (kept i x one) (kept j x two)

omit [DecidableEq ChannelId] in
theorem Scattered.swap {x y : Nat} {q q' : Placed M ChannelId} (scattered : Scattered hubs)
    (first : hubs[h]? = some p) (second : hubs[g]? = some p') (one : p.address = some x)
    (two : p'.address = some y) (lies : q.address = some y) (lies' : q'.address = some x) :
    Scattered ((hubs.set h q).set g q') := by
  have present : ∃ other, (hubs.set h q)[g]? = some other := by
    rw [List.getElem?_set]
    split
    next own => exact ⟨q, if_pos (getElem?_lt first)⟩
    · exact ⟨p', second⟩
  have here : addressOf hubs h = some x := by simp [addressOf, first, one]
  have there : addressOf hubs g = some y := by simp [addressOf, second, two]
  have moved : ∀ i, addressOf ((hubs.set h q).set g q') i = addressOf hubs (Equiv.swap h g i) := by
    intro i
    rcases present with ⟨other, found⟩
    rw [addressOf_set found, addressOf_set first, Equiv.swap_apply_def, lies, lies']
    by_cases low : i = h <;> by_cases high : i = g <;> simp_all
  intro i j z left right
  rw [moved] at left right
  exact (Equiv.swap h g).injective (scattered _ _ z left right)

theorem scattered_step (scattered : Scattered w.hubs) (taken : w.step a = some w') :
    Scattered w'.hubs := by
  cases a with
  | create address =>
    simp only [step, Option.ite_none_right_eq_some, Option.some.injEq] at taken
    rcases taken with ⟨free, rfl⟩
    exact scattered.put (ne_of_vacant free) fun _ => addressOf_concat
  | move h address =>
    simp only [step] at taken
    split at taken
    next found =>
      simp only [Option.ite_none_right_eq_some, Option.some.injEq] at taken
      rcases taken with ⟨free, rfl⟩
      exact scattered.put (ne_of_vacant free) fun _ => addressOf_set found
    · cases taken
  | swap h g =>
    simp only [step] at taken
    split at taken
    next first second =>
      cases taken
      exact scattered.swap first second rfl rfl rfl rfl
    · cases taken
  | drop h =>
    simp only [step] at taken
    split at taken
    next found =>
      cases taken
      apply scattered.of_imp
      intro g x lies
      rw [addressOf_set found] at lies
      split at lies
      · cases lies
      · exact lies
    · cases taken
  | op h op =>
    simp only [step] at taken
    split at taken
    next found =>
      rcases Option.map_eq_some_iff.mp taken with ⟨⟨f, t⟩, -, rfl⟩
      apply scattered.of_imp
      intro g x lies
      rw [addressOf_set found] at lies
      split at lies
      next own => rw [own, addressOf, found, ← lies, Option.bind_some]
      · exact lies
    · cases taken
  | event e =>
    rcases Option.map_eq_some_iff.mp taken with ⟨t, -, rfl⟩
    exact scattered

/-- Live hubs lie apart at every moment. -/
theorem scattered_reachable (reached : Reachable step new w) : Scattered w.hubs := by
  have keep : ∀ (w : World M ChannelId) a w', Scattered w.hubs → w.step a = some w' →
      Scattered w'.hubs := fun _ _ _ scattered taken => scattered_step scattered taken
  apply reached.invariant keep
  intro h g x one
  simp [new, addressOf] at one

end Addresses

end World

end AsyncForge.NotifierHub
