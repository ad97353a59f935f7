import AsyncForge.NotifierHub.Erasure

/-! What the calls decide: neither the schedule of the tasks and the receivers nor the order in
    which the maps list their channels changes who gets what. -/

namespace AsyncForge.NotifierHub

open AsyncForge.Channels AsyncForge.Refinement AsyncForge.Runs AsyncForge.SmartChannel
open AsyncForge.NotifierHub.WritingHandler

section Addressed

variable {M : Type} {writes writes' : List (Writing M)} {chans chans' : List (Chan M)} {i r : Nat}
  {t t' : Tables M}

/-- The messages of all tasks that were spawned for the channel, over or not. -/
def addressed (writes : List (Writing M)) (r : Nat) : List M :=
  (writes.filter fun w => w.sender.sender == r).map Writing.msg

theorem addressed_append (first second : List (Writing M)) :
    addressed (first ++ second) r = addressed first r ++ addressed second r := by simp [addressed]

theorem addressed_fresh (fresh : ∀ w ∈ writes, w.result = none) :
    addressed writes r = pending writes r := by
  unfold addressed pending
  congr 1
  apply List.filter_congr
  intro w member
  simp [fresh w member]

theorem addressed_modify {f : Writing M → Writing M}
    (same : ∀ w, (f w).sender = w.sender ∧ (f w).msg = w.msg) :
    addressed (writes.modify i f) r = addressed writes r := by
  induction writes generalizing i with
  | nil => simp
  | cons w writes ih =>
    cases i with
    | zero => simp [addressed, List.filter_cons, same w, apply_ite]
    | succ i =>
      have rest := ih (i := i)
      simp only [addressed, List.modify_succ_cons, List.filter_cons] at rest ⊢
      split
      · rw [List.map_cons, List.map_cons, rest]
      · exact rest

theorem closed_modify {f : Chan M → Chan M} (same : ∀ chan, (f chan).closed = chan.closed) :
    (chans.modify i f).map Chan.closed = chans.map Chan.closed := by
  apply List.ext_getElem?
  intro j
  rw [List.getElem?_map, List.getElem?_map, List.getElem?_modify]
  cases chans[j]? with
  | none => rfl
  | some chan =>
    by_cases own : i = j <;> simp [own, same]

theorem finish_decides (finished : finish chans writes i = some (chans', writes')) :
    chans'.map Chan.closed = chans.map Chan.closed ∧
      ∀ r, addressed writes' r = addressed writes r := by
  obtain ⟨w, chan, found, unfinished, place, ⟨shut, rfl, rfl⟩ | ⟨opened, room, rfl, rfl⟩⟩ :=
    finish_some finished
  · exact ⟨rfl, fun r => addressed_modify fun w => ⟨rfl, rfl⟩⟩
  · exact ⟨closed_modify fun chan => rfl, fun r => addressed_modify fun w => ⟨rfl, rfl⟩⟩

theorem receiveAt_decides (received : receiveAt chans i = some chans') :
    chans'.map Chan.closed = chans.map Chan.closed := by
  rw [receiveAt_some received]
  exact closed_modify fun chan => rfl

theorem closed_there (same : chans'.map Chan.closed = chans.map Chan.closed) (r : Nat) :
    (chans'[r]?).map Chan.closed = (chans[r]?).map Chan.closed := by
  rw [← List.getElem?_map, ← List.getElem?_map, same]

theorem closeAt_decides (same : chans'.map Chan.closed = chans.map Chan.closed) (r : Nat) :
    (closeAt chans' r).map Chan.closed = (closeAt chans r).map Chan.closed := by
  apply List.ext_getElem?
  intro j
  have there := closed_there same j
  simp only [closeAt, List.getElem?_map, List.getElem?_modify]
  cases one : chans[j]? <;> cases two : chans'[j]? <;> simp_all
  by_cases own : r = j <;> simp_all

end Addressed

section Decided

variable {M ChannelId : Type} {t t' u u' : Tables M} {op op' : Op M ChannelId}
  {ids ids' : List ChannelId} {msg : Option M} {e : Event} {r : Nat}

/-- The call without the order in which the map lists its channels. -/
def Op.unlisted : Op M ChannelId → Op M ChannelId
  | .unsubscribeAll receiver _ => .unsubscribeAll receiver []
  | .cleanAll _ => .cleanAll []
  | .broadcastClone msg _ => .broadcastClone msg []
  | .broadcastArc msg _ => .broadcastArc msg []
  | op => op

/-- What a user decides: the calls, where the hub is, and the ends of the receivers. -/
def Act.decision : Act M ChannelId → Option (Act M ChannelId)
  | .op op => some (.op op.unlisted)
  | .move address => some (.move address)
  | .event (.close receiver) => some (.event (.close receiver))
  | .event (.closeWaiter waiter) => some (.event (.closeWaiter waiter))
  | .event _ => none

/-- The calls are the same but for the listing of a map. -/
inductive Relisted : Op M ChannelId → Op M ChannelId → Prop
  | same {op : Op M ChannelId} : Relisted op op
  | unsubscribeAll {receiver : Nat} {keys keys' : List ChannelId} :
      Relisted (.unsubscribeAll receiver keys) (.unsubscribeAll receiver keys')
  | cleanAll {keys keys' : List ChannelId} : Relisted (.cleanAll keys) (.cleanAll keys')
  | broadcastClone {msg : M} {keys keys' : List ChannelId} :
      Relisted (.broadcastClone msg keys) (.broadcastClone msg keys')
  | broadcastArc {msg : M} {keys keys' : List ChannelId} :
      Relisted (.broadcastArc msg keys) (.broadcastArc msg keys')

theorem relisted_of_unlisted (same : op'.unlisted = op.unlisted) : Relisted op op' := by
  cases op with
  | unsubscribeAll receiver keys =>
    cases op' <;> cases same
    exact .unsubscribeAll
  | cleanAll keys =>
    cases op' <;> cases same
    exact .cleanAll
  | broadcastClone msg keys =>
    cases op' <;> cases same
    exact .broadcastClone
  | broadcastArc msg keys =>
    cases op' <;> cases same
    exact .broadcastArc
  | _ =>
    cases op' <;> cases same
    exact .same

theorem Relisted.joins (relisted : Relisted op op') : op'.joins = op.joins := by
  cases relisted <;> rfl

theorem Relisted.joins_only (relisted : Relisted op op') (names : op.joins = some ids) :
    op'.leaves = none ∧ op'.sweeps = none := by
  cases relisted with
  | same => cases op <;> cases names <;> exact ⟨rfl, rfl⟩
  | unsubscribeAll | cleanAll | broadcastClone | broadcastArc => cases names

theorem Relisted.leaves_only (relisted : Relisted op op') {left : Nat × List ChannelId}
    (names : op.leaves = some left) : op'.joins = none ∧ op'.sweeps = none := by
  cases relisted with
  | same => cases op <;> cases names <;> exact ⟨rfl, rfl⟩
  | unsubscribeAll => exact ⟨rfl, rfl⟩
  | cleanAll | broadcastClone | broadcastArc => cases names

theorem Relisted.sweeps_only (relisted : Relisted op op') {swept : List ChannelId × Option M}
    (names : op.sweeps = some swept) : op'.joins = none ∧ op'.leaves = none := by
  cases relisted with
  | same => cases op <;> cases names <;> exact ⟨rfl, rfl⟩
  | unsubscribeAll => cases names
  | cleanAll | broadcastClone | broadcastArc => exact ⟨rfl, rfl⟩

/-- Both list the channels of the map, or the channels are the same. -/
theorem Relisted.leaves (relisted : Relisted op op') {receiver receiver' : Nat}
    (names : op.leaves = some (receiver, ids)) (names' : op'.leaves = some (receiver', ids')) :
    receiver' = receiver ∧ (ids' = ids ∨ op.listing = some ids ∧ op'.listing = some ids') := by
  cases relisted with
  | same =>
    rcases Prod.mk.inj (Option.some.inj (names.symm.trans names')) with ⟨rfl, rfl⟩
    exact ⟨rfl, .inl rfl⟩
  | unsubscribeAll =>
    cases names
    cases names'
    exact ⟨rfl, .inr ⟨rfl, rfl⟩⟩
  | cleanAll | broadcastClone | broadcastArc => cases names

theorem Relisted.sweeps (relisted : Relisted op op') {msg' : Option M}
    (names : op.sweeps = some (ids, msg)) (names' : op'.sweeps = some (ids', msg')) :
    msg' = msg ∧ (ids' = ids ∨ op.listing = some ids ∧ op'.listing = some ids') := by
  cases relisted with
  | same =>
    rcases Prod.mk.inj (Option.some.inj (names.symm.trans names')) with ⟨rfl, rfl⟩
    exact ⟨rfl, .inl rfl⟩
  | unsubscribeAll => cases names
  | cleanAll | broadcastClone | broadcastArc =>
    cases names
    cases names'
    exact ⟨rfl, .inr ⟨rfl, rfl⟩⟩

/-- The tables agree on everything that a call reads, and on what the calls spawned. -/
structure Tables.Concurs (t u : Tables M) : Prop where
  receivers : u.receivers = t.receivers
  waiters : u.waiters = t.waiters
  ends : u.chans.map Chan.closed = t.chans.map Chan.closed
  waitEnds : u.waits.map Chan.closed = t.waits.map Chan.closed
  writes : ∀ r, addressed u.writes r = addressed t.writes r
  notices : ∀ w, addressed u.notices w = addressed t.notices w

theorem Tables.Concurs.symm (concurs : t.Concurs u) : u.Concurs t where
  receivers := concurs.receivers.symm
  waiters := concurs.waiters.symm
  ends := concurs.ends.symm
  waitEnds := concurs.waitEnds.symm
  writes r := (concurs.writes r).symm
  notices w := (concurs.notices w).symm

theorem Tables.Concurs.isClosed (concurs : t.Concurs u) (s : MessageSender) :
    s.isClosed u.chans = s.isClosed t.chans := by
  have through : ∀ o : Option (Chan M), o.any Chan.closed = (o.map Chan.closed).any id := by
    intro o
    cases o <;> rfl
  rw [Sender.isClosed, Sender.isClosed, through, through, closed_there concurs.ends]

theorem Tables.Concurs.happened (concurs : t.Concurs u)
    (undecided : (.event e : Act M ChannelId).decision = none) (taken : t.step e = some t') :
    t'.Concurs u := by
  cases e with
  | write i =>
    rcases Option.map_eq_some_iff.mp taken with ⟨⟨chans, writes⟩, finished, rfl⟩
    rcases finish_decides finished with ⟨ends, spawned⟩
    exact { concurs with
      ends := concurs.ends.trans ends.symm
      writes := fun r => (concurs.writes r).trans (spawned r).symm }
  | notice i =>
    rcases Option.map_eq_some_iff.mp taken with ⟨⟨waits, notices⟩, finished, rfl⟩
    rcases finish_decides finished with ⟨ends, spawned⟩
    exact { concurs with
      waitEnds := concurs.waitEnds.trans ends.symm
      notices := fun w => (concurs.notices w).trans (spawned w).symm }
  | receive r =>
    rcases Option.map_eq_some_iff.mp taken with ⟨chans, received, rfl⟩
    exact { concurs with ends := concurs.ends.trans (receiveAt_decides received).symm }
  | receiveNotice w =>
    rcases Option.map_eq_some_iff.mp taken with ⟨waits, received, rfl⟩
    exact { concurs with waitEnds := concurs.waitEnds.trans (receiveAt_decides received).symm }
  | close | closeWaiter => cases undecided
  | wait | poll | timeout | dropHandler =>
    rcases handle_some taken with ⟨handlings, rfl⟩
    exact { concurs with }

end Decided

section Calls

variable {M ChannelId : Type} [DecidableEq ChannelId] {f f' f'' : NotifierHub M ChannelId}
  {t t' u u' : Tables M} {op op' : Op M ChannelId} {ids ids' : List ChannelId} {msg : Option M}
  {address : Nat}

theorem listed_perm (lists : ∀ keys, op.listing = some keys → Lists f keys)
    (lists' : ∀ keys, op'.listing = some keys → Lists f keys)
    (either : ids' = ids ∨ op.listing = some ids ∧ op'.listing = some ids') : ids'.Perm ids := by
  rcases either with rfl | ⟨listed, listed'⟩
  · exact .refl _
  · have one := lists ids listed
    have two := lists' ids' listed'
    exact List.perm_of_nodup_nodup_toFinset_eq two.1 one.1 (two.2.trans one.2.symm)

theorem spawned_perm (perm : ids'.Perm ids) (msg : Option M) (r : Nat) :
    addressed (spawned f ids' msg) r = addressed (spawned f ids msg) r := by
  cases msg with
  | none => rfl
  | some msg =>
    have fresh : ∀ keys : List ChannelId, ∀ w ∈ spawned f keys (some msg), w.result = none := by
      intro keys w member
      rcases List.mem_map.mp member with ⟨sender, -, rfl⟩
      rfl
    rw [addressed_fresh (fresh ids'), addressed_fresh (fresh ids)]
    simp only [spawned, pending_spawned, (perm.flatMap_right f.sendersOf).countP_eq]

theorem getCreationWaiter_same {id : ChannelId} (length : u.waits.length = t.waits.length)
    (one : (f.getCreationWaiter address t id).map Prod.snd = some (f', t'))
    (two : (f.getCreationWaiter address u id).map Prod.snd = some (f'', u')) : f'' = f' := by
  unfold NotifierHub.getCreationWaiter getNewId at one two
  split at one
  next room =>
    rw [if_pos room] at two
    simp only [Option.map_some, channel, length] at one two
    cases one
    cases two
    rfl
  · cases one

/-- A call gives the same hub, and spawns the same writes and notices. -/
theorem Tables.Concurs.called (concurs : t.Concurs u) (relisted : Relisted op op')
    (one : call f address t op = some (f', t')) (two : call f address u op' = some (f'', u')) :
    f'' = f' ∧ t'.Concurs u' := by
  have size : u.chans.length = t.chans.length := by
    have ends := congrArg List.length concurs.ends
    simpa using ends
  have waitSize : u.waits.length = t.waits.length := by
    have ends := congrArg List.length concurs.waitEnds
    simpa using ends
  have notices : ∀ w, addressed u'.notices w = addressed t'.notices w := by
    intro w
    cases call_noticed one with
    | awaited creations waits notices =>
      cases relisted
      cases call_noticed two with
      | awaited creations' waits' notices' => rw [notices, notices', concurs.notices w]
      | informed other => exact absurd rfl (other _)
    | informed other creations waits notices =>
      cases call_noticed two with
      | awaited =>
        cases relisted
        exact absurd rfl (other _)
      | informed other' creations' waits' notices' =>
        rw [notices, notices', relisted.joins, addressed_append, addressed_append,
          concurs.notices w]
  have made := call_cases two
  cases call_cases one with
  | joined names room inserted =>
    cases made with
    | joined names' room' inserted' =>
      rw [relisted.joins] at names'
      cases names.symm.trans names'
      rw [size] at inserted'
      refine ⟨inserted'.same_hub inserted, ?_, concurs.waiters, ?_, concurs.waitEnds,
        concurs.writes, notices⟩
      · simp [concurs.receivers, size]
      · simp [concurs.ends]
    | left names' => cases (relisted.joins_only names).1.symm.trans names'
    | swept names' => cases (relisted.joins_only names).2.symm.trans names'
    | awaited =>
      cases relisted
      cases names
  | left names lists held retained =>
    cases made with
    | joined names' => cases (relisted.leaves_only names).1.symm.trans names'
    | left names' lists' held' retained' =>
      rcases relisted.leaves names names' with ⟨rfl, either⟩
      rw [concurs.receivers] at held'
      cases held.symm.trans held'
      have members := listed_perm lists lists' either
      exact ⟨(retained.same_hub retained' fun id => members.symm.mem_iff).symm,
        { concurs with notices := notices }⟩
    | swept names' => cases (relisted.leaves_only names).2.symm.trans names'
    | awaited =>
      cases relisted
      cases names
  | @swept _ ids msg _ handlings names lists retained =>
    cases made with
    | joined names' => cases (relisted.sweeps_only names).1.symm.trans names'
    | left names' => cases (relisted.sweeps_only names).2.symm.trans names'
    | @swept _ ids' msg' _ handlings' names' lists' retained' =>
      rcases relisted.sweeps names names' with ⟨rfl, either⟩
      have shut : (fun s : MessageSender => !s.isClosed u.chans) =
          fun s => !s.isClosed t.chans := by
        funext s
        rw [concurs.isClosed]
      rw [shut] at retained'
      have perm := listed_perm lists lists' either
      obtain rfl := retained.same_hub retained' fun id => perm.symm.mem_iff
      refine ⟨rfl, concurs.receivers, concurs.waiters, concurs.ends, concurs.waitEnds, ?_, notices⟩
      intro r
      simp only [addressed_append, concurs.writes r, spawned_perm perm]
    | awaited =>
      cases relisted
      cases names
  | awaited room counter senders =>
    cases relisted
    obtain rfl := getCreationWaiter_same waitSize one two
    cases made with
    | joined names' | left names' | swept names' => cases names'
    | awaited room' counter' senders' =>
      refine ⟨rfl, concurs.receivers, ?_, concurs.ends, ?_, concurs.writes, notices⟩
      · simp [concurs.waiters, waitSize]
      · simp [concurs.waitEnds]

end Calls

section Settled

variable {M ChannelId : Type} [DecidableEq ChannelId] {f f' : NotifierHub M ChannelId}
  {t t' : Tables M} {op : Op M ChannelId} {e : Event} {address r : Nat}

/-- An open receiver has got, or will get, the message of each task that was spawned for it. -/
def Tables.Settles (r : Nat) (t : Tables M) : Prop :=
  ¬ (t.chans[r]?).any Chan.closed = true → (t.held r).Perm (addressed t.writes r)

theorem Tables.Settles.happened (settles : t.Settles r) (happened : Happened t e t') :
    t'.Settles r := by
  intro opened
  have before : ¬ (t.chans[r]?).any Chan.closed = true :=
    fun closed => opened (closed_happened happened closed)
  have same : addressed t'.writes r = addressed t.writes r := by
    cases happened with
    | failed | written => exact addressed_modify fun w => ⟨rfl, rfl⟩
    | received | closed | aside => rfl
  rw [same]
  exact (held_happened happened before).trans (settles before)

theorem Tables.Settles.grown (settles : t.Settles r) {new : List (Writing M)}
    (writes : t'.writes = t.writes ++ new) (fresh : ∀ w ∈ new, w.result = none)
    (sent : sentTo t'.chans r = sentTo t.chans r)
    (closed : (t.chans[r]?).any Chan.closed = true → (t'.chans[r]?).any Chan.closed = true) :
    t'.Settles r := by
  intro opened
  have before := settles fun shut => opened (closed shut)
  rw [Tables.held, sent, writes, pending_append, addressed_append, addressed_fresh fresh,
    ← List.append_assoc]
  exact before.append_right _

theorem Tables.Settles.called (settles : t.Settles r) (made : Called f address t op f' t') :
    t'.Settles r := by
  rcases writes_called made with ⟨new, writes, fresh, sent, closed⟩
  exact settles.grown writes fresh (sent r) (closed r)

theorem Tables.Settles.noticed (settles : t.noticeTables.Settles r)
    (made : Noticed f address t op f' t') : t'.noticeTables.Settles r := by
  cases made with
  | awaited creations waits notices =>
    have chans : t'.noticeTables.chans = t.noticeTables.chans ++ [_] := waits
    have writes : t'.noticeTables.writes = t.noticeTables.writes ++ [] :=
      notices.trans (List.append_nil _).symm
    refine settles.grown writes (by simp) ?_ ?_
    · rw [chans, sentTo_concat]
    · intro closed
      rcases (Option.any_eq_true _ _).mp closed with ⟨chan, found, -⟩
      rw [chans, List.getElem?_append_left (getElem?_lt found)]
      exact closed
  | informed other creations waits notices =>
    have chans : t'.noticeTables.chans = t.noticeTables.chans := waits
    refine settles.grown notices ?_ (by rw [chans]) (by rw [chans]; exact id)
    intro w member
    rcases List.mem_map.mp member with ⟨sender, -, rfl⟩
    rfl

theorem Tables.Settles.agree {u : Tables M} {chan chan' : Chan M} (settles : t.Settles r)
    (settles' : u.Settles r) (same : addressed u.writes r = addressed t.writes r)
    (ends : u.chans.map Chan.closed = t.chans.map Chan.closed) (found : t.chans[r]? = some chan)
    (found' : u.chans[r]? = some chan') (opened : chan.closed = false) :
    chan'.closed = false ∧ (chan'.received ++ chan'.buffer ++ pending u.writes r).Perm
      (chan.received ++ chan.buffer ++ pending t.writes r) := by
  have there := closed_there ends r
  rw [found, found', Option.map_some, Option.map_some] at there
  have opened' : chan'.closed = false := (Option.some.inj there).trans opened
  have one := settles (by simp [found, opened])
  have two := settles' (by simp [found', opened'])
  rw [Tables.held_eq found] at one
  rw [Tables.held_eq found', same] at two
  exact ⟨opened', two.trans one.symm⟩

end Settled

namespace Config

variable {M ChannelId : Type} [DecidableEq ChannelId] {s s' t t' : Config M ChannelId}
  {a b : Act M ChannelId} {trace trace' : List (Config M ChannelId × Act M ChannelId)}
  {address : Nat}

structure Concurs (s t : Config M ChannelId) : Prop where
  tables : s.toTables.Concurs t.toTables
  hub : t.hub = s.hub
  address : t.address = s.address

omit [DecidableEq ChannelId] in
theorem Concurs.symm (concurs : Concurs s t) : Concurs t s :=
  ⟨concurs.tables.symm, concurs.hub.symm, concurs.address.symm⟩

theorem Concurs.undecided (concurs : Concurs s t) (none : a.decision = none)
    (taken : s.step a = some s') : Concurs s' t := by
  cases step_cases taken with
  | called | moved => cases none
  | happened happened => exact ⟨concurs.tables.happened none happened, concurs.hub, concurs.address⟩

theorem Concurs.decided (concurs : Concurs s t) (same : b.decision = a.decision)
    (decides : a.decision.isSome = true) (one : s.step a = some s') (two : t.step b = some t') :
    Concurs s' t' := by
  have taken := step_cases two
  cases step_cases one with
  | called made =>
    cases taken with
    | called made' =>
      have relisted := relisted_of_unlisted (Act.op.inj (Option.some.inj same))
      rw [concurs.hub, concurs.address] at made'
      rcases concurs.tables.called relisted made made' with ⟨hub, tables⟩
      exact ⟨tables, hub, concurs.address⟩
    | moved => cases same
    | @happened e => cases e <;> cases same
  | moved =>
    cases taken with
    | called => cases same
    | moved =>
      cases same
      exact ⟨concurs.tables, concurs.hub, rfl⟩
    | @happened e => cases e <;> cases same
  | @happened e _ happened =>
    cases taken with
    | called | moved => cases e <;> cases same
    | @happened e' _ happened' =>
      cases e with
      | close r =>
        cases e' <;> cases same
        cases happened
        cases happened'
        have ends := closeAt_decides concurs.tables.ends r
        exact ⟨{ concurs.tables with ends }, concurs.hub, concurs.address⟩
      | closeWaiter w =>
        cases e' <;> cases same
        cases happened
        cases happened'
        have waitEnds := closeAt_decides concurs.tables.waitEnds w
        exact ⟨{ concurs.tables with waitEnds }, concurs.hub, concurs.address⟩
      | _ => cases decides

theorem concurs_runs (one : Run step (Config.new address) trace s)
    (two : Run step (Config.new address) trace' s')
    (same : (trace'.map Prod.snd).filterMap Act.decision =
      (trace.map Prod.snd).filterMap Act.decision) : Concurs s s' := by
  have start : Concurs (Config.new address : Config M ChannelId) (Config.new address) :=
    ⟨⟨rfl, rfl, rfl, rfl, fun _ => rfl, fun _ => rfl⟩, rfl, rfl⟩
  have matched : ∀ (u : Config M ChannelId) a u' v b v', Concurs u v → b.decision = a.decision →
      a.decision.isSome = true → u.step a = some u' → v.step b = some v' → Concurs u' v' :=
    fun _ _ _ _ _ _ concurs same decides one two => concurs.decided same decides one two
  have left : ∀ (u : Config M ChannelId) a u' v, Concurs u v → a.decision = none →
      u.step a = some u' → Concurs u' v :=
    fun _ _ _ _ concurs none taken => concurs.undecided none taken
  have right : ∀ (u : Config M ChannelId) v a v', Concurs u v → a.decision = none →
      v.step a = some v' → Concurs u v' :=
    fun _ _ _ _ concurs none taken => (concurs.symm.undecided none taken).symm
  exact agree matched left right one two start same

def Settles (s : Config M ChannelId) : Prop :=
  (∀ r, s.toTables.Settles r) ∧ ∀ w, s.noticeTables.Settles w

theorem settles_step (settles : s.Settles) (taken : s.step a = some s') : s'.Settles := by
  rcases settles with ⟨messages, notices⟩
  cases step_cases taken with
  | called made =>
    exact ⟨fun r => (messages r).called (call_cases made),
      fun w => (notices w).noticed (call_noticed made)⟩
  | moved => exact ⟨messages, notices⟩
  | happened happened =>
    rcases noticeTables_step happened with ⟨e, shown⟩
    exact ⟨fun r => (messages r).happened (event_cases happened),
      fun w => (notices w).happened shown⟩

theorem settles_run (run : Run step (Config.new address) trace s) : s.Settles := by
  have keep : ∀ (t : Config M ChannelId) a t', t.Settles → t.step a = some t' → t'.Settles :=
    fun _ _ _ settles taken => settles_step settles taken
  have start : (Config.new address : Config M ChannelId).Settles :=
    ⟨fun _ _ => .refl _, fun _ _ => .refl _⟩
  exact run.invariant keep start

/-- Two runs with the same calls and closings, on whatever schedule and with whatever listings of
    the maps, have the same hub and the same receivers and waiters, and spawned the same writes for
    each of these; what an open one has got, or will get without a further call, is the same. -/
theorem schedules_agree (one : Run step (Config.new address) trace s)
    (two : Run step (Config.new address) trace' s')
    (same : (trace'.map Prod.snd).filterMap Act.decision =
      (trace.map Prod.snd).filterMap Act.decision) :
    s'.hub = s.hub ∧ s'.receivers = s.receivers ∧ s'.waiters = s.waiters ∧
      (∀ r, addressed s'.writes r = addressed s.writes r) ∧
      (∀ w, addressed s'.notices w = addressed s.notices w) ∧
      (∀ (r : Nat) chan chan', s.chans[r]? = some chan → s'.chans[r]? = some chan' →
        chan.closed = false → chan'.closed = false ∧
          (chan'.received ++ chan'.buffer ++ pending s'.writes r).Perm
            (chan.received ++ chan.buffer ++ pending s.writes r)) ∧
      ∀ (w : Nat) chan chan', s.waits[w]? = some chan → s'.waits[w]? = some chan' →
        chan.closed = false → chan'.closed = false ∧
          (chan'.received ++ chan'.buffer ++ pending s'.notices w).Perm
            (chan.received ++ chan.buffer ++ pending s.notices w) := by
  have concurs := concurs_runs one two same
  have one := settles_run one
  have two := settles_run two
  refine ⟨concurs.hub, concurs.tables.receivers, concurs.tables.waiters, concurs.tables.writes,
    concurs.tables.notices, ?_, ?_⟩
  · intro r chan chan' found found' opened
    exact (one.1 r).agree (two.1 r) (concurs.tables.writes r) concurs.tables.ends found found'
      opened
  · intro w chan chan' found found' opened
    exact (one.2 w).agree (two.2 w) (concurs.tables.notices w) concurs.tables.waitEnds found found'
      opened

/-- A message to two channels and then one to the first; the other run lists the channels in the
    other order, writes the later message first and reads in between. -/
def broadcastsFirst : List (Act Nat Nat) :=
  [.op (.subscribe 1), .op (.subscribe 2), .op (.broadcastClone 5 [1, 2]), .event (.write 0),
    .op (.cloneSend 6 1), .event (.write 1), .event (.write 2)]

def broadcastsLast : List (Act Nat Nat) :=
  [.op (.subscribe 1), .op (.subscribe 2), .op (.broadcastClone 5 [2, 1]), .op (.cloneSend 6 1),
    .event (.write 2), .event (.receive 0), .event (.write 1)]

theorem schedules_agree_broadcast : ∃ s s' : Config Nat Nat,
    exec step (Config.new 7) broadcastsFirst = some s ∧
      exec step (Config.new 7) broadcastsLast = some s' ∧ s'.hub = s.hub ∧
      ∃ chan chan', s.chans[0]? = some chan ∧ s'.chans[0]? = some chan' ∧
        chan.received ++ chan.buffer ++ pending s.writes 0 = [5, 6] ∧
        chan'.received ++ chan'.buffer ++ pending s'.writes 0 = [6, 5] ∧
        (chan'.received ++ chan'.buffer ++ pending s'.writes 0).Perm
          (chan.received ++ chan.buffer ++ pending s.writes 0) := by
  obtain ⟨s, s', chan, chan', one, two, same, found, found', opened, got, got'⟩ :
      ∃ (s s' : Config Nat Nat) (chan chan' : Chan Nat),
        exec step (Config.new 7) broadcastsFirst = some s ∧
          exec step (Config.new 7) broadcastsLast = some s' ∧
          ((traceOf step (Config.new 7) broadcastsLast).map Prod.snd).filterMap Act.decision =
            ((traceOf step (Config.new 7) broadcastsFirst).map Prod.snd).filterMap Act.decision ∧
          s.chans[0]? = some chan ∧ s'.chans[0]? = some chan' ∧ chan.closed = false ∧
          chan.received ++ chan.buffer ++ pending s.writes 0 = [5, 6] ∧
          chan'.received ++ chan'.buffer ++ pending s'.writes 0 = [6, 5] :=
    ⟨_, _, _, _, rfl, rfl, by decide, rfl, rfl, rfl, by decide, by decide⟩
  rcases schedules_agree (run_of_exec _ one) (run_of_exec _ two) same with
    ⟨hub, -, -, -, -, messages, -⟩
  exact ⟨s, s', one, two, hub, chan, chan', found, found', got, got',
    (messages 0 chan chan' found found' opened).2⟩

end Config

end AsyncForge.NotifierHub
