import AsyncForge.NotifierHub.Hubs

/-! When the ids of several hubs differ. An id pairs the number of the ids its hub issued before
    with the address the hub had then, and another hub may come to lie there. -/

namespace AsyncForge.NotifierHub

open AsyncForge.Channels AsyncForge.Runs AsyncForge.SmartChannel

section Placed

variable {M ChannelId : Type}

/-- The addresses at which the hub was asked for an id. -/
def sitesOf (hubs : List (Placed M ChannelId)) (h : Nat) : List Nat :=
  ((hubs[h]?).map Placed.sites).getD []

def Gave (sites : List Nat) (id : SmartChannelId) : Prop :=
  sites[id.channelCounter]? = some id.notifierAddress

variable {hubs : List (Placed M ChannelId)} {p p' : Placed M ChannelId} {h g : Nat}
  {sites : List Nat} {id : SmartChannelId}

theorem sitesOf_found (found : hubs[h]? = some p) : sitesOf hubs h = p.sites := by
  simp [sitesOf, found]

theorem sitesOf_set (found : hubs[h]? = some p) :
    sitesOf (hubs.set h p') g = if g = h then p'.sites else sitesOf hubs g := by
  unfold sitesOf
  rw [List.getElem?_set]
  split
  next same =>
    subst same
    simp [getElem?_lt found]
  next other => rw [if_neg (Ne.symm other)]

theorem sitesOf_set_same (found : hubs[h]? = some p) (same : p'.sites = p.sites) :
    sitesOf (hubs.set h p') g = sitesOf hubs g := by
  rw [sitesOf_set found]
  split
  next own => rw [own, sitesOf_found found, same]
  · rfl

theorem sitesOf_create {address : Nat} :
    sitesOf (hubs ++ [⟨.new, some address, []⟩]) g = sitesOf hubs g := by
  unfold sitesOf
  rw [getElem?_concat]
  split
  next last => simp [last]
  · rfl

theorem lt_of_sitesOf {n x : Nat} (site : (sitesOf hubs h)[n]? = some x) : h < hubs.length := by
  by_contra beyond
  simp [sitesOf, List.getElem?_eq_none (Nat.le_of_not_lt beyond)] at site

theorem Gave.append (gave : Gave sites id) (more : List Nat) : Gave (sites ++ more) id := by
  unfold Gave at gave ⊢
  rw [List.getElem?_append_left (getElem?_lt gave)]
  exact gave

theorem gave_concat {x : Nat} :
    Gave (sites ++ [x]) id ↔ Gave sites id ∨ id = ⟨sites.length, x⟩ := by
  unfold Gave
  rw [getElem?_concat]
  cases id with
  | mk n y =>
    split
    next last =>
      dsimp only at last
      subst last
      simp [eq_comm]
    next other => simp [other]

variable [DecidableEq ChannelId]

/-- The hub counts the ids it gave, and its entries have ids that it gave. -/
structure Placed.Tracked (p : Placed M ChannelId) : Prop where
  count : p.sites.length = p.hub.connectionId
  entries : ∀ id, ∀ s ∈ p.hub.sendersOf id, Gave p.sites s.id

variable {t t' : Tables M} {op : Op M ChannelId} {address : Nat} {f : NotifierHub M ChannelId}

theorem Placed.Tracked.congr (tracked : p.Tracked) (hub : p'.hub = p.hub)
    (sites : p'.sites = p.sites) : p'.Tracked := by
  constructor
  · rw [hub, sites, tracked.count]
  · rw [hub, sites]
    exact tracked.entries

omit [DecidableEq ChannelId] in
theorem asks_of_joins {ids : List ChannelId} (names : op.joins = some ids) : op.asks = true := by
  cases op <;> cases names <;> rfl

omit [DecidableEq ChannelId] in
theorem asks_of_leaves {names : Nat × List ChannelId} (leaves : op.leaves = some names) :
    op.asks = false := by
  cases op <;> cases leaves <;> rfl

omit [DecidableEq ChannelId] in
theorem asks_of_sweeps {names : List ChannelId × Option M} (sweeps : op.sweeps = some names) :
    op.asks = false := by
  cases op <;> cases sweeps <;> rfl

theorem room_of_asks (made : Called p.hub address t op f t') (asks : op.asks = true) :
    p.hub.connectionId + 1 < 2 ^ 64 := by
  cases made with
  | joined names room inserted => exact room
  | left names lists held retained => simp [asks_of_leaves names] at asks
  | swept names lists retained => simp [asks_of_sweeps names] at asks
  | awaited room counter senders => exact room

theorem receivers_called (made : Called p.hub address t op f t') :
    t'.receivers = if op.joins.isSome then
      t.receivers ++ [⟨⟨p.hub.connectionId, address⟩, t.chans.length⟩] else t.receivers := by
  cases made with
  | joined names room inserted => simp [names]
  | left names lists held retained =>
    cases op <;> cases names <;> rfl
  | swept names lists retained =>
    cases op <;> cases names <;> rfl
  | awaited room counter senders => rfl

theorem Placed.Tracked.retained {place : Option Nat} {ids : List ChannelId}
    {keep : MessageSender → Bool} (tracked : p.Tracked) (retained : Retained p.hub f ids keep) :
    Placed.Tracked ⟨f, place, p.sites⟩ := by
  constructor
  · exact tracked.count.trans retained.counter.symm
  · intro id s member
    rw [retained.sendersOf id] at member
    split at member
    · exact tracked.entries id s (List.mem_filter.mp member).1
    · exact tracked.entries id s member

theorem Placed.Tracked.called {place : Option Nat} (tracked : p.Tracked)
    (made : Called p.hub address t op f t') :
    Placed.Tracked ⟨f, place, if op.asks then p.sites ++ [address] else p.sites⟩ := by
  cases made with
  | joined names room inserted =>
    have counter : f.connectionId = p.hub.connectionId + 1 := inserted.counter
    rw [if_pos (asks_of_joins names)]
    constructor
    · simp [tracked.count, counter]
    · intro id s member
      rw [inserted.sendersOf id] at member
      rcases List.mem_append.mp member with old | new
      · exact (tracked.entries id s old).append _
      · rcases List.mem_replicate.mp new with ⟨-, rfl⟩
        exact gave_concat.mpr (.inr (by rw [tracked.count]))
  | left names lists held retained =>
    rw [if_neg (by simp [asks_of_leaves names])]
    exact tracked.retained retained
  | swept names lists retained =>
    rw [if_neg (by simp [asks_of_sweeps names])]
    exact tracked.retained retained
  | awaited room counter senders =>
    refine ⟨?_, fun id s member => ?_⟩
    · simp [Op.asks, tracked.count, counter]
    · rw [NotifierHub.sendersOf, senders] at member
      exact (tracked.entries id s member).append _

end Placed

namespace World

variable {M ChannelId : Type} [DecidableEq ChannelId] {w w' : World M ChannelId}
  {a : Act M ChannelId}

def sitesAfter (w : World M ChannelId) (a : Act M ChannelId) (g : Nat) : List Nat :=
  match w.asked a with
  | some (h, x) => if g = h then sitesOf w.hubs g ++ [x] else sitesOf w.hubs g
  | none => sitesOf w.hubs g

/-- Every hub keeps its record, and every receiver has an id that its owner gave. -/
structure Tracked (w : World M ChannelId) : Prop where
  hubs : ∀ p ∈ w.hubs, p.Tracked
  length : w.owners.length = w.receivers.length
  origins : ∀ (r g : Nat) receiver, w.owners[r]? = some g → w.receivers[r]? = some receiver →
    Gave (sitesOf w.hubs g) receiver.id

inductive Stepped (w : World M ChannelId) : Act M ChannelId → World M ChannelId → Prop
  | called {h address : Nat} {op : Op M ChannelId} {p : Placed M ChannelId}
      {hub : NotifierHub M ChannelId} {t : Tables M} (found : w.hubs[h]? = some p)
      (lies : p.address = some address) (made : Called p.hub address w.toTables op hub t) :
      Stepped w (.op h op) { w with
        toTables := t
        hubs := w.hubs.set h
          ⟨hub, some address, if op.asks then p.sites ++ [address] else p.sites⟩
        owners := if op.joins.isSome then w.owners ++ [h] else w.owners }
  | placed {a : Act M ChannelId} {hubs : List (Placed M ChannelId)} (quiet : w.asked a = none)
      (silent : w.issues a = none) (sites : ∀ g, sitesOf hubs g = sitesOf w.hubs g)
      (tracked : (∀ p ∈ w.hubs, p.Tracked) → ∀ p ∈ hubs, p.Tracked) :
      Stepped w a { w with hubs }
  | happened {e : Event} {t : Tables M} (receivers : t.receivers = w.receivers) :
      Stepped w (.event e) { w with toTables := t }

theorem step_cases (taken : w.step a = some w') : Stepped w a w' := by
  have forgets : ∀ {h : Nat} {p p' : Placed M ChannelId} {hubs : List (Placed M ChannelId)},
      hubs[h]? = some p → p'.hub = p.hub → p'.sites = p.sites → (∀ p ∈ hubs, p.Tracked) →
        ∀ p ∈ hubs.set h p', p.Tracked := by
    intro h p p' hubs found hub sites all q member
    rcases List.mem_or_eq_of_mem_set member with old | rfl
    · exact all q old
    · exact (all p (List.mem_of_getElem? found)).congr hub sites
  cases a with
  | create address =>
    simp only [step, Option.ite_none_right_eq_some, Option.some.injEq] at taken
    rcases taken with ⟨-, rfl⟩
    refine .placed rfl rfl (fun _ => sitesOf_create) fun all p member => ?_
    rcases List.mem_append.mp member with old | new
    · exact all p old
    · obtain rfl := List.mem_singleton.mp new
      exact ⟨rfl, by simp [NotifierHub.new, NotifierHub.sendersOf]⟩
  | move h address =>
    simp only [step] at taken
    split at taken
    next hub x sites found =>
      simp only [Option.ite_none_right_eq_some, Option.some.injEq] at taken
      rcases taken with ⟨-, rfl⟩
      exact .placed rfl rfl (fun _ => sitesOf_set_same found rfl) (forgets found rfl rfl)
    · cases taken
  | swap h g =>
    simp only [step] at taken
    split at taken
    next hub x sites hub' y sites' first second =>
      cases taken
      obtain ⟨q, other, same, kept⟩ : ∃ q : Placed M ChannelId,
          (w.hubs.set h ⟨hub, some y, sites⟩)[g]? = some q ∧ hub' = q.hub ∧ sites' = q.sites := by
        rw [List.getElem?_set]
        split
        next own =>
          subst own
          rcases Placed.mk.inj (Option.some.inj (first.symm.trans second)) with ⟨rfl, -, rfl⟩
          exact ⟨_, if_pos (getElem?_lt first), rfl, rfl⟩
        · exact ⟨_, second, rfl, rfl⟩
      refine .placed rfl rfl (fun i => ?_) fun all => ?_
      · exact (sitesOf_set_same other kept).trans (sitesOf_set_same first rfl)
      · exact forgets other same kept (forgets first rfl rfl all)
    · cases taken
  | drop h =>
    simp only [step] at taken
    split at taken
    next hub x sites found =>
      cases taken
      exact .placed rfl rfl (fun _ => sitesOf_set_same found rfl) (forgets found rfl rfl)
    · cases taken
  | op h op =>
    simp only [step] at taken
    split at taken
    next hub address sites found =>
      rcases Option.map_eq_some_iff.mp taken with ⟨⟨f, t⟩, made, rfl⟩
      exact .called found rfl (call_cases made)
    · cases taken
  | event e =>
    rcases Option.map_eq_some_iff.mp taken with ⟨t, happened, rfl⟩
    exact .happened (step_tables happened).1

section Called

variable {h address : Nat} {p : Placed M ChannelId} {op : Op M ChannelId}

omit [DecidableEq ChannelId] in
theorem asked_called (found : w.hubs[h]? = some p) (lies : p.address = some address) :
    w.asked (.op h op) = if op.asks then some (h, address) else none := by
  rcases p with ⟨hub, place, sites⟩
  obtain rfl : place = some address := lies
  simp [asked, found]

omit [DecidableEq ChannelId] in
theorem issues_called (found : w.hubs[h]? = some p) (lies : p.address = some address) :
    w.issues (.op h op) =
      if op.asks then (p.hub.getNewId address).map Prod.fst else none := by
  rcases p with ⟨hub, place, sites⟩
  obtain rfl : place = some address := lies
  simp [issues, found]

end Called

/-- The record of a hub grows by the address at which it is asked, and by nothing else. -/
theorem sites_step (taken : w.step a = some w') (g : Nat) :
    sitesOf w'.hubs g = w.sitesAfter a g := by
  unfold sitesAfter
  cases step_cases taken with
  | called found lies made =>
    rw [asked_called found lies, sitesOf_set found]
    split
    next own =>
      subst own
      split <;> simp_all [sitesOf_found found]
    next other => split <;> simp_all
  | placed quiet silent sites tracked =>
    rw [quiet]
    exact sites g
  | happened receivers => rfl

theorem gave_step (taken : w.step a = some w') {g : Nat} {id : SmartChannelId}
    (gave : Gave (sitesOf w.hubs g) id) : Gave (sitesOf w'.hubs g) id := by
  rw [sites_step taken]
  unfold sitesAfter
  split
  · split
    · exact gave.append _
    · exact gave
  · exact gave

theorem tracked_step (tracked : w.Tracked) (taken : w.step a = some w') : w'.Tracked := by
  have known : ∀ (r g : Nat) receiver, w.owners[r]? = some g → w.receivers[r]? = some receiver →
      Gave (sitesOf w'.hubs g) receiver.id :=
    fun r g receiver owner held => gave_step taken (tracked.origins r g receiver owner held)
  cases step_cases taken with
  | @called h address op p hub t found lies made =>
    have own := tracked.hubs p (List.mem_of_getElem? found)
    have kept : ∀ q ∈ w.hubs.set h
        ⟨hub, some address, if op.asks then p.sites ++ [address] else p.sites⟩, q.Tracked := by
      intro q member
      rcases List.mem_or_eq_of_mem_set member with old | rfl
      · exact tracked.hubs q old
      · exact own.called made
    cases joins : op.joins with
    | none =>
      have same : t.receivers = w.receivers := by rw [receivers_called made, joins]; rfl
      refine ⟨kept, ?_, ?_⟩
      · simp [same, tracked.length]
      · simpa [same] using known
    | some ids =>
      have more : t.receivers =
          w.receivers ++ [⟨⟨p.hub.connectionId, address⟩, w.chans.length⟩] := by
        rw [receivers_called made, joins]
        rfl
      refine ⟨kept, by simp [more, tracked.length], ?_⟩
      intro r g receiver owner held
      simp only [Option.isSome_some, ↓reduceIte, more, getElem?_concat] at owner held
      rw [tracked.length] at owner
      split at owner
      next last =>
        rw [if_pos last] at held
        cases owner
        cases held
        rw [sitesOf_set found, if_pos rfl, asks_of_joins joins, if_pos rfl, ← own.count]
        exact gave_concat.mpr (.inr rfl)
      next before =>
        rw [if_neg before] at held
        exact known r g receiver owner held
  | placed quiet silent sites all => exact ⟨all tracked.hubs, tracked.length, known⟩
  | happened receivers =>
    refine ⟨tracked.hubs, by rw [tracked.length, receivers], ?_⟩
    simp only [receivers]
    exact known

theorem issues_step (tracked : w.Tracked) (taken : w.step a = some w') :
    w.issues a = (w.asked a).map fun e => ⟨(sitesOf w.hubs e.1).length, e.2⟩ := by
  cases step_cases taken with
  | @called h address op p hub t found lies made =>
    rw [issues_called found lies, asked_called found lies]
    split
    next asks =>
      have room := room_of_asks made asks
      have own := tracked.hubs p (List.mem_of_getElem? found)
      rw [getNewId, if_pos room]
      simp [sitesOf_found found, own.count]
    · rfl
  | placed quiet silent sites tracked =>
    rw [quiet, silent]
    rfl
  | happened receivers => rfl

/-- No other hub lay there when it was asked for an id and had given as many ids before. -/
def Clear (w : World M ChannelId) (a : Act M ChannelId) : Prop :=
  ∀ e ∈ w.asked a, ∀ g < w.hubs.length, g ≠ e.1 →
    (sitesOf w.hubs g)[(sitesOf w.hubs e.1).length]? ≠ some e.2

instance (a : Act M ChannelId) : Decidable (w.Clear a) :=
  inferInstanceAs (Decidable (∀ e ∈ w.asked a, ∀ g < w.hubs.length, g ≠ e.1 →
    (sitesOf w.hubs g)[(sitesOf w.hubs e.1).length]? ≠ some e.2))

theorem clear_iff (tracked : w.Tracked) (taken : w.step a = some w') :
    w.Clear a ↔ ∀ id, w.issues a = some id → ∀ g, ¬ Gave (sitesOf w.hubs g) id := by
  rw [issues_step tracked taken]
  constructor
  · intro clear id issued g gave
    rcases Option.map_eq_some_iff.mp issued with ⟨e, asked, rfl⟩
    by_cases own : g = e.1
    · subst own
      exact Nat.lt_irrefl _ (getElem?_lt gave)
    · exact clear e asked g (lt_of_sitesOf gave) own gave
  · intro fresh e asked g _ _ gave
    exact fresh _ (Option.map_eq_some_iff.mpr ⟨e, asked, rfl⟩) g gave

theorem gave_step_iff (tracked : w.Tracked) (taken : w.step a = some w') {g : Nat}
    {id : SmartChannelId} : Gave (sitesOf w'.hubs g) id ↔
      Gave (sitesOf w.hubs g) id ∨
        ((w.asked a).map Prod.fst = some g ∧ w.issues a = some id) := by
  rw [sites_step taken, issues_step tracked taken]
  unfold sitesAfter
  cases w.asked a with
  | none => simp
  | some e =>
    by_cases own : g = e.1
    · subst own
      simp [gave_concat, eq_comm]
    · simp [own, Ne.symm own]

variable {trace : List (World M ChannelId × Act M ChannelId)}

theorem tracked_run (run : Run step new trace w) : w.Tracked :=
  run.invariant (fun _ _ _ tracked taken => tracked_step tracked taken)
    ⟨by simp [new], rfl, by simp [new]⟩

omit [DecidableEq ChannelId] in
theorem issued_snoc : issued (trace ++ [(w, a)]) = issued trace ++ (w.issues a).toList := by
  cases next : w.issues a <;> simp [issued, next]

theorem mem_issued (run : Run step new trace w) {id : SmartChannelId} :
    id ∈ issued trace ↔ ∃ g, Gave (sitesOf w.hubs g) id := by
  induction run with
  | nil => simp [issued, new, sitesOf, Gave]
  | @snoc trace w w' a before last ih =>
    have tracked := tracked_run before
    simp only [issued_snoc, List.mem_append, Option.mem_toList, ih, gave_step_iff tracked last,
      exists_or]
    apply or_congr Iff.rfl
    constructor
    · intro next
      have new := next
      rw [issues_step tracked last] at new
      rcases Option.map_eq_some_iff.mp new with ⟨e, asked, -⟩
      exact ⟨e.1, by rw [asked]; rfl, next⟩
    · intro given
      rcases given with ⟨_, _, next⟩
      exact next

def Apart (w : World M ChannelId) : Prop :=
  ∀ h g, h ≠ g → ∀ id, Gave (sitesOf w.hubs h) id → ¬ Gave (sitesOf w.hubs g) id

theorem apart_step (tracked : w.Tracked) (apart : w.Apart) (clear : w.Clear a)
    (taken : w.step a = some w') : w'.Apart := by
  have fresh := (clear_iff tracked taken).mp clear
  intro h g other id one two
  rcases (gave_step_iff tracked taken).mp one with one | ⟨hub, new⟩ <;>
    rcases (gave_step_iff tracked taken).mp two with two | ⟨hub', new'⟩
  · exact apart h g other id one two
  · exact fresh id new' h one
  · exact fresh id new g two
  · exact other (Option.some.inj (hub.symm.trans hub'))

theorem apart_run (run : Run step new trace w) (all : Along Clear trace) : w.Apart := by
  have keep : ∀ (w : World M ChannelId) a w', w.Tracked ∧ w.Apart → w.Clear a →
      w.step a = some w' → w'.Tracked ∧ w'.Apart :=
    fun _ _ _ ⟨tracked, apart⟩ clear taken =>
      ⟨tracked_step tracked taken, apart_step tracked apart clear taken⟩
  refine (run.invariant_along keep all ⟨tracked_run .nil, ?_⟩).2
  intro h g other id gave
  simp [new, sitesOf, Gave] at gave

theorem issued_nodup_iff (run : Run step new trace w) :
    (issued trace).Nodup ↔ Along Clear trace := by
  induction run with
  | nil => simp [issued, Along]
  | @snoc trace w w' a before last ih =>
    rw [issued_snoc, along_snoc, clear_iff (tracked_run before) last, ← ih]
    simp only [← not_exists, ← mem_issued before]
    cases w.issues a <;> simp [List.nodup_append, List.forall_mem_ne']

/-- No hub takes the receiver of another hub for one of its own. -/
def Separate (w : World M ChannelId) : Prop :=
  ∀ (h g r : Nat) p receiver, w.hubs[h]? = some p → w.owners[r]? = some g →
    w.receivers[r]? = some receiver → g ≠ h →
      (∀ id, p.hub.isSubscribed id receiver = false ∧ (p.hub.unsubscribe id receiver).2 = p.hub) ∧
      ∀ keys, (p.hub.unsubscribeAll keys receiver).2 = p.hub

theorem separate_of_apart (tracked : w.Tracked) (apart : w.Apart) : w.Separate := by
  intro h g r p receiver found owner held other
  have absent : ∀ id, p.hub.isSubscribed id receiver = false := by
    intro id
    by_contra subscribed
    rcases isSubscribed_iff.mp (by simpa using subscribed) with ⟨s, member, bound⟩
    have same : s.id = receiver.id := by simpa [Sender.isBoundTo] using bound
    have gave := (tracked.hubs p (List.mem_of_getElem? found)).entries id s member
    rw [← sitesOf_found found, same] at gave
    exact apart g h other _ (tracked.origins r g receiver owner held) gave
  exact ⟨fun id => ⟨absent id, unsubscribe_foreign (absent id)⟩,
    fun keys => unsubscribeAll_foreign absent⟩

/-- The ids are unique, and no hub takes foreign receivers for its own, exactly in the runs in which
    no hub is asked for an id where another one was asked for the id of the same number. -/
theorem ids_unique_iff (run : Run step new trace w) :
    ((issued trace).Nodup ∧ w.Separate) ↔ Along Clear trace := by
  constructor
  · intro given
    rcases given with ⟨distinct, -⟩
    exact (issued_nodup_iff run).mp distinct
  · intro all
    exact ⟨(issued_nodup_iff run).mpr all,
      separate_of_apart (tracked_run run) (apart_run run all)⟩

/-- Two hubs lie at the same address, one after the other, but give ids of other numbers there. -/
def apartTwo : List (Act Nat Nat) :=
  [.create 7, .op 0 (.subscribe 1), .create 9, .op 1 (.subscribe 1), .drop 0, .move 1 7,
    .op 1 (.subscribe 1)]

theorem ids_unique_apart : ∃ w, exec step new apartTwo = some w ∧
    (issued (traceOf step new apartTwo)).Nodup ∧ w.Separate := by
  refine ⟨_, rfl, ?_⟩
  exact (ids_unique_iff (run_of_exec apartTwo rfl)).mpr (by decide)

/-- A hub is moved away and another one is created in its place. -/
def reuses : List (Act Nat Nat) :=
  [.create 7, .op 0 (.subscribe 1), .move 0 9, .create 7, .op 1 (.subscribe 1)]

/-- Both hubs give the same id, and the second one unsubscribes its own receiver for that of the
    first one. -/
theorem ids_collide : ∃ w p receiver, Run step new (traceOf step new reuses) w ∧
    ¬ (issued (traceOf step new reuses)).Nodup ∧
    w.hubs[1]? = some p ∧ w.owners[0]? = some 0 ∧ w.receivers[0]? = some receiver ∧
    p.hub.isSubscribed 1 receiver = true ∧ p.hub.channelNumberSubscriber 1 = 1 ∧
    (p.hub.unsubscribe 1 receiver).2.channelNumberSubscriber 1 = 0 ∧
    (p.hub.unsubscribeAll [1] receiver).2.channelNumberSubscriber 1 = 0 :=
  ⟨_, _, _, run_of_exec reuses rfl, by decide, rfl, rfl, rfl, rfl, rfl, rfl, rfl⟩

end World

end AsyncForge.NotifierHub
