import AsyncForge.NotifierHub.Subscriptions

/-! The messages of a receiver that stays open: each of them is received, buffered or in a writing
    task that is not over. -/

namespace AsyncForge.NotifierHub

open AsyncForge.Channels AsyncForge.Runs AsyncForge.SmartChannel
open AsyncForge.NotifierHub.WritingHandler

section Pending

variable {M : Type} {writes : List (Writing M)} {w : Writing M} {i r : Nat}

/-- The messages of the tasks that still write to the channel. -/
def pending (writes : List (Writing M)) (r : Nat) : List M :=
  (writes.filter fun w => w.result.isNone && w.sender.sender == r).map Writing.msg

@[simp] theorem pending_append (first second : List (Writing M)) :
    pending (first ++ second) r = pending first r ++ pending second r := by simp [pending]

theorem pending_cons : pending (w :: writes) r =
    (if w.result.isNone && w.sender.sender == r then [w.msg] else []) ++ pending writes r := by
  unfold pending
  rw [List.filter_cons]
  split <;> simp

theorem pending_modify {f : Writing M → Writing M} (ends : ∀ w, (f w).result.isSome = true)
    (found : writes[i]? = some w) (unfinished : w.result = none) :
    (pending writes r).Perm
      ((if w.sender.sender = r then [w.msg] else []) ++ pending (writes.modify i f) r) := by
  induction writes generalizing i with
  | nil => simp at found
  | cons head writes ih =>
    cases i with
    | zero =>
      obtain rfl : head = w := by simpa using found
      have ended : (f head).result.isNone = false := by simpa using ends head
      simp [pending_cons, unfinished, ended]
    | succ i =>
      have rest := ih (by simpa using found)
      rw [List.modify_succ_cons, pending_cons, pending_cons]
      exact (rest.append_left _).trans (List.perm_append_comm_assoc _ _ _)

theorem pending_spawned (senders : List MessageSender) (msg : M) :
    pending (senders.map fun sender => getHandler sender msg) r =
      List.replicate (senders.countP (·.sender == r)) msg := by
  induction senders with
  | nil => rfl
  | cons sender senders ih =>
    rw [List.map_cons, pending_cons, ih, List.countP_cons]
    by_cases feeds : sender.sender = r
    · simp [getHandler, feeds, List.replicate_succ]
    · simp [getHandler, feeds]

end Pending

section Held

variable {M ChannelId : Type} {chans : List (Chan M)} {chan : Chan M} {i r : Nat}

def sentTo (chans : List (Chan M)) (r : Nat) : List M := ((chans[r]?).map Chan.sent).getD []

theorem sentTo_concat {size : Nat} :
    sentTo (chans ++ [{ capacity := size }]) r = sentTo chans r := by
  unfold sentTo
  rw [getElem?_concat]
  split
  next last => simp [last, Chan.sent]
  · rfl

theorem sentTo_modify {change : Chan M → Chan M} (same : ∀ chan, (change chan).sent = chan.sent) :
    sentTo (chans.modify i change) r = sentTo chans r := by
  unfold sentTo
  rw [List.getElem?_modify]
  split
  · cases chans[r]? <;> simp [same]
  · simp

theorem sentTo_push {msg : M} (place : chans[i]? = some chan) :
    sentTo (chans.modify i (·.push msg)) r = sentTo chans r ++ if i = r then [msg] else [] := by
  unfold sentTo
  rw [List.getElem?_modify]
  split
  next feeds =>
    subst feeds
    simp [place]
  · simp

/-- What the receiver got or will get: the messages that are received, buffered or being written. -/
def Tables.held (t : Tables M) (r : Nat) : List M := sentTo t.chans r ++ pending t.writes r

theorem Tables.held_eq {t : Tables M} (found : t.chans[r]? = some chan) :
    t.held r = chan.received ++ chan.buffer ++ pending t.writes r := by
  simp [Tables.held, sentTo, found, Chan.sent]

/-- Whatever happens beside the hub, an open receiver loses nothing and gets nothing twice. -/
theorem held_happened {t t' : Tables M} {e : Event} (happened : Happened t e t')
    (opened : ¬ (t.chans[r]?).any Chan.closed = true) : (t'.held r).Perm (t.held r) := by
  cases happened with
  | @failed i w chan found unfinished place closed =>
    have other : w.sender.sender ≠ r := by
      intro same
      subst same
      exact opened (by simp [place, closed])
    have ended := pending_modify (r := r)
      (f := fun w => { w with result := some (.error ⟨w.msg⟩) }) (by simp) found unfinished
    rw [if_neg other, List.nil_append] at ended
    exact ended.symm.append_left _
  | @written i w chan found unfinished place free room =>
    have ended := pending_modify (r := r)
      (f := fun w => { w with result := some (.ok ()) }) (by simp) found unfinished
    simp only [Tables.held, sentTo_push place, List.append_assoc]
    exact ended.symm.append_left _
  | received => simp [Tables.held, sentTo_modify Chan.sent_pop]
  | closed => simp [Tables.held, sentTo_modify Chan.sent_close]
  | aside => exact .refl _

/-- A closed channel stays closed. -/
theorem closed_happened {t t' : Tables M} {e : Event} (happened : Happened t e t')
    (closed : (t.chans[r]?).any Chan.closed = true) : (t'.chans[r]?).any Chan.closed = true := by
  rcases (Option.any_eq_true _ _).mp closed with ⟨chan, found, shut⟩
  cases happened with
  | failed | aside => exact closed
  | written | received | closed =>
    simp only [List.getElem?_modify, found, Option.map_eq_map, Option.map_some, Option.any_some]
    split <;> simp [shut]

/-- No buffer outgrows its capacity. -/
theorem capacity_happened {t t' : Tables M} {e : Event} {size : Nat} (happened : Happened t e t')
    (bounded : ∀ chan ∈ t.chans, chan.capacity = size ∧ chan.buffer.length ≤ size) :
    ∀ chan ∈ t'.chans, chan.capacity = size ∧ chan.buffer.length ≤ size := by
  cases happened with
  | failed | aside => exact bounded
  | @written i w chan found unfinished place free room =>
    apply forall_mem_modify bounded
    intro chan' place' before
    obtain rfl : chan = chan' := by simpa [place] using place'
    have space : chan.buffer.length < chan.capacity := by simpa [Chan.full] using room
    rw [before.1] at space
    exact ⟨before.1, by simpa [Chan.push, Nat.succ_le_iff] using space⟩
  | received =>
    refine forall_mem_modify bounded fun chan _ before => ⟨before.1, ?_⟩
    exact (List.drop_sublist _ _).length_le.trans before.2
  | closed => exact forall_mem_modify bounded fun _ _ before => before

variable [DecidableEq ChannelId] {f f' : NotifierHub M ChannelId} {t t' : Tables M} {address : Nat}
  {op : Op M ChannelId}

/-- The messages that a call sends to the entries with the property in its channels. -/
def copiesTo (f : NotifierHub M ChannelId) (own : MessageSender → Bool) (op : Op M ChannelId) :
    List M :=
  match op.sweeps with
  | some (ids, some msg) => List.replicate ((ids.flatMap f.sendersOf).countP own) msg
  | _ => []

theorem copiesTo_of_joins {own : MessageSender → Bool} {ids : List ChannelId}
    (names : op.joins = some ids) : copiesTo f own op = [] := by
  cases op <;> cases names <;> rfl

theorem copiesTo_of_leaves {own : MessageSender → Bool} {ids : List ChannelId} {receiver : Nat}
    (names : op.leaves = some (receiver, ids)) : copiesTo f own op = [] := by
  cases op <;> cases names <;> rfl

theorem copiesTo_congr {own own' : MessageSender → Bool}
    (same : ∀ id, ∀ s ∈ f.sendersOf id, own s = own' s) :
    copiesTo f own op = copiesTo f own' op := by
  unfold copiesTo
  split
  · congr 1
    apply List.countP_congr
    intro sender member
    rcases List.mem_flatMap.mp member with ⟨id, -, inside⟩
    rw [same id sender inside]
  · rfl

theorem mem_copiesTo {own : MessageSender → Bool} {msg : M} (sent : msg ∈ copiesTo f own op) :
    ∃ ids, op.sweeps = some (ids, some msg) ∧ ∃ id ∈ ids, ∃ s ∈ f.sendersOf id, own s = true := by
  unfold copiesTo at sent
  split at sent
  next ids msg' names =>
    rcases List.mem_replicate.mp sent with ⟨some, rfl⟩
    rcases List.countP_pos_iff.mp (Nat.pos_of_ne_zero some) with ⟨s, member, owned⟩
    rcases List.mem_flatMap.mp member with ⟨id, listed, inside⟩
    exact ⟨ids, names, id, listed, s, inside, owned⟩
  · simp at sent

theorem pending_swept {ids : List ChannelId} {msg : Option M} (names : op.sweeps = some (ids, msg))
    (retained : Retained f f' ids fun s => !s.isClosed t.chans)
    (opened : ¬ (t.chans[r]?).any Chan.closed = true) :
    pending (spawned f' ids msg) r = copiesTo f (·.sender == r) op := by
  unfold copiesTo
  rw [names]
  cases msg with
  | none => rfl
  | some msg =>
    have entries : (ids.flatMap f'.sendersOf).countP (·.sender == r) =
        (ids.flatMap f.sendersOf).countP (·.sender == r) := by
      rw [retained.flatMap_sendersOf, List.countP_filter]
      apply List.countP_congr
      intro sender _
      by_cases own : sender.sender = r
      · simpa [own, Sender.isClosed] using opened
      · simp [own]
    simp only [spawned, pending_spawned, entries]

theorem held_called (made : Called f address t op f' t')
    (opened : ¬ (t.chans[r]?).any Chan.closed = true) :
    t'.held r = t.held r ++ copiesTo f (·.sender == r) op := by
  cases made with
  | joined names room inserted => simp [Tables.held, sentTo_concat, copiesTo_of_joins names]
  | left names lists held retained => simp [copiesTo_of_leaves names]
  | swept names lists retained =>
    simp only [Tables.held, pending_append, pending_swept names retained opened,
      List.append_assoc]
  | awaited => simp [Tables.held, copiesTo, Op.sweeps]

end Held

namespace Config

variable {M ChannelId : Type} [DecidableEq ChannelId] {s s' : Config M ChannelId}
  {a : Act M ChannelId} {r : Nat} {receiver : MessageReceiver} {chan : Chan M}
  {trace : List (Config M ChannelId × Act M ChannelId)} {address : Nat}

theorem closed_step (taken : s.step a = some s') (closed : s.Closed r) : s'.Closed r := by
  rcases closed_iff.mp closed with ⟨chan, found, shut⟩
  cases step_cases taken with
  | called made =>
    cases call_cases made with
    | joined names room inserted =>
      simp [Closed, List.getElem?_append_left (getElem?_lt found), found, shut]
    | left | swept | awaited => exact closed
  | moved => exact closed
  | happened happened =>
    exact closed_happened (event_cases happened) closed

def copies (own : MessageSender → Bool) (s : Config M ChannelId) : Act M ChannelId → List M
  | .op op => copiesTo s.hub own op
  | _ => []

theorem held_step (taken : s.step a = some s') (opened : ¬ s'.Closed r) :
    (s'.toTables.held r).Perm (s.toTables.held r ++ s.copies (·.sender == r) a) := by
  have before : ¬ s.Closed r := fun closed => opened (closed_step taken closed)
  cases step_cases taken with
  | called made =>
    exact .of_eq (held_called (call_cases made) before)
  | moved =>
    simp [copies]
  | happened happened =>
    simpa [copies] using held_happened (event_cases happened) before

theorem held_run (run : Run step (Config.new address) trace s) (opened : ¬ s.Closed r) :
    (s.toTables.held r).Perm (trace.flatMap fun e => e.1.copies (·.sender == r) e.2) := by
  have keep : ∀ (t : Config M ChannelId) a t', True → t.step a = some t' → True :=
    fun _ _ _ _ _ => True.intro
  have back : ∀ (t : Config M ChannelId) a t', t.step a = some t' → ¬ t'.Closed r → ¬ t.Closed r :=
    fun _ _ _ taken opened closed => opened (closed_step taken closed)
  have change : ∀ (t : Config M ChannelId) a t', True → t.step a = some t' → ¬ t'.Closed r →
      (t'.toTables.held r).Perm (t.toTables.held r ++ t.copies (·.sender == r) a) :=
    fun _ _ _ _ taken opened => held_step taken opened
  exact run.account keep back change True.intro opened

theorem receivers_step (taken : s.step a = some s') : s.receivers <+: s'.receivers := by
  cases step_cases taken with
  | called made =>
    cases call_cases made with
    | joined names room inserted => exact List.prefix_append _ _
    | left | swept | awaited => exact List.prefix_rfl
  | moved => exact List.prefix_rfl
  | happened happened =>
    rw [(step_tables happened).1]

theorem copies_run (run : Run step (Config.new address) trace s)
    (held : s.receivers[r]? = some receiver) : ∀ e ∈ trace,
      e.1.copies (·.sender == r) e.2 = e.1.copies (·.isBoundTo receiver) e.2 := by
  intro e member
  rcases List.append_of_mem member with ⟨past, later, rfl⟩
  rcases run.split with ⟨next, before, taken, after⟩
  have keep : ∀ (t : Config M ChannelId) a t', e.1.receivers <+: t.receivers →
      t.step a = some t' → e.1.receivers <+: t'.receivers :=
    fun _ _ _ prior taken => prior.trans (receivers_step taken)
  have grown := after.invariant keep (receivers_step taken)
  rcases e with ⟨t, op | address | event⟩
  · apply copiesTo_congr
    intro id sender inside
    have known := grown.subset ((wired_run before).entries id sender inside)
    rw [Bool.eq_iff_iff, (wired_run run).known_iff held known, beq_iff_eq]
  · rfl
  · rfl

def Bounded (chan : Chan M) : Prop :=
  chan.capacity = channelSize ∧ chan.buffer.length ≤ channelSize

theorem bounded_step (bounded : ∀ chan ∈ s.chans, Bounded chan) (taken : s.step a = some s') :
    ∀ chan ∈ s'.chans, Bounded chan := by
  cases step_cases taken with
  | called made =>
    cases call_cases made with
    | joined names room inserted =>
      intro chan member
      rcases List.mem_append.mp member with member | member
      · exact bounded chan member
      · obtain rfl := List.mem_singleton.mp member
        exact ⟨rfl, Nat.zero_le _⟩
    | left | swept | awaited => exact bounded
  | moved => exact bounded
  | happened happened =>
    exact capacity_happened (event_cases happened) bounded

/-- A receiver that stays open gets every message that is sent to it exactly once, unless it is
    still on its way. -/
theorem exact_delivery (run : Run step (Config.new address) trace s)
    (held : s.receivers[r]? = some receiver) (found : s.chans[r]? = some chan)
    (opened : chan.closed = false) :
    (chan.received ++ chan.buffer ++ pending s.writes r).Perm
        (trace.flatMap fun e => e.1.copies (·.isBoundTo receiver) e.2) ∧
      chan.buffer.length ≤ channelSize ∧
      (∀ (t : Config M ChannelId) (op : Op M ChannelId) ids msg,
        op.sweeps = some (ids, some msg) → (∀ id ∈ ids, t.hub.isSubscribed id receiver = false) →
          t.copies (·.isBoundTo receiver) (.op op) = []) ∧
      ∀ msg ∈ chan.received ++ chan.buffer ++ pending s.writes r, ∃ t op ids,
        (t, .op op) ∈ trace ∧ op.sweeps = some (ids, some msg) ∧
          ∃ id ∈ ids, t.hub.isSubscribed id receiver = true := by
  have bounded := run.invariant (fun _ _ _ before taken => bounded_step before taken)
    (show ∀ chan ∈ (Config.new address : Config M ChannelId).chans, Bounded chan from nofun)
  have account : (chan.received ++ chan.buffer ++ pending s.writes r).Perm
      (trace.flatMap fun e => e.1.copies (·.isBoundTo receiver) e.2) := by
    have all := held_run run (r := r) (by simp [Closed, found, opened])
    rwa [Tables.held_eq found, List.flatMap_congr (copies_run run held)] at all
  refine ⟨account, (bounded chan (List.mem_of_getElem? found)).2, ?_, ?_⟩
  · intro t op ids msg names absent
    apply List.eq_nil_iff_forall_not_mem.mpr
    intro msg' sent
    rcases mem_copiesTo sent with ⟨ids', names', id, listed, entry⟩
    rcases Prod.mk.inj (Option.some.inj (names.symm.trans names')) with ⟨rfl, -⟩
    exact Bool.false_ne_true ((absent id listed).symm.trans (isSubscribed_iff.mpr entry))
  · intro msg member
    rcases List.mem_flatMap.mp (account.subset member) with ⟨⟨t, a⟩, step, sent⟩
    rcases a with op | address | event
    · rcases mem_copiesTo sent with ⟨ids, names, id, listed, entry⟩
      exact ⟨t, op, ids, step, names, id, listed, isSubscribed_iff.mpr entry⟩
    · simp [copies] at sent
    · simp [copies] at sent

/-- The second subscriber of a channel is sent a message whose handler times out, and leaves before
    the next one. -/
def timesOut : List (Act Nat Nat) :=
  [.op (.subscribe 1), .op (.subscribeMultiple [1, 2]), .op (.cloneSend 5 1),
    .event (.wait 0 (some 3)), .event (.timeout 0), .event (.write 1), .event (.receive 1),
    .op (.unsubscribe 1 1), .op (.cloneSend 6 1), .op (.broadcastClone 7 [1, 2]),
    .event (.dropHandler 2)]

theorem exact_delivery_timed_out :
    ∃ s chan, exec step (Config.new 7) timesOut = some s ∧ s.chans[1]? = some chan ∧
      (chan.received ++ chan.buffer ++ pending s.writes 1).Perm [5, 7] := by
  have sent : ((traceOf step (Config.new 7) timesOut).flatMap
      fun e => e.1.copies (·.isBoundTo ⟨⟨1, 7⟩, 1⟩) e.2) = [5, 7] := by decide +kernel
  obtain ⟨s, done, held, found⟩ : ∃ s, exec step (Config.new 7) timesOut = some s ∧
      s.receivers[1]? = some ⟨⟨1, 7⟩, 1⟩ ∧ s.chans[1]? = some ⟨100, [5], [], false⟩ :=
    ⟨_, rfl, rfl, rfl⟩
  have account := (exact_delivery (run_of_exec timesOut done) held found rfl).1
  rw [sent] at account
  exact ⟨s, _, done, found, account⟩

end Config

end AsyncForge.NotifierHub
