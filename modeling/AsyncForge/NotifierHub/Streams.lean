import AsyncForge.Lib.Streams
import AsyncForge.NotifierHub.Conservation
import AsyncForge.NotifierHub.SendOrder

/-! The streams of the receivers, with users that keep clones of the senders from `get_sender` and
    `get_senders` and send through them. -/

namespace AsyncForge.NotifierHub

open AsyncForge.Channels AsyncForge.Ownership AsyncForge.Runs AsyncForge.SmartChannel
open AsyncForge.Streams AsyncForge.NotifierHub.WritingHandler

section Senders

variable {M ChannelId : Type} [DecidableEq ChannelId] {f : NotifierHub M ChannelId}
  {receiver : MessageReceiver} {ids : List ChannelId} {id : ChannelId} {sender : MessageSender}

theorem getSenders_concat (first : ChannelId) : f.getSenders receiver (ids ++ [first]) =
    match f.getSender first receiver with
    | some sender => (f.getSenders receiver ids).insert first sender
    | none => f.getSenders receiver ids := by
  unfold getSenders
  rw [List.foldl_append]
  rfl

theorem getSenders_lookup : (f.getSenders receiver ids).lookup id =
    if id ∈ ids then f.getSender id receiver else none := by
  induction ids using List.reverseRecOn with
  | nil => simp [getSenders]
  | append_singleton ids first ih =>
    rw [getSenders_concat]
    by_cases same : id = first
    · subst same
      cases found : f.getSender id receiver with
      | some sender => simp
      | none => simp [ih, found]
    · cases f.getSender first receiver with
      | some sender => simp [Finmap.lookup_insert_of_ne _ same, ih, same]
      | none => simp [ih, same]

theorem getSender_entry (found : f.getSender id receiver = some sender) :
    sender ∈ f.sendersOf id := by
  rw [getSender_eq] at found
  exact List.mem_of_find?_eq_some found

end Senders

/-- A hub whose users keep clones of its senders. -/
structure Lent (M ChannelId : Type) extends Config M ChannelId where
  clones : List MessageSender := []

inductive LentAct (M ChannelId : Type)
  | hub (a : Act M ChannelId)
  | getSender (id : ChannelId) (receiver : Nat)
  | getSenders (ids : List ChannelId) (receiver : Nat)
  -- A clone is dropped, or a message is sent through it.
  | drop (clone : MessageSender)
  | send (clone : MessageSender) (msg : M)
  deriving DecidableEq

namespace Lent

variable {M ChannelId : Type} [DecidableEq ChannelId]

def new (address : Nat) : Lent M ChannelId := { Config.new address with }

def step (s : Lent M ChannelId) : LentAct M ChannelId → Option (Lent M ChannelId)
  | .hub a => (s.toConfig.step a).map fun config => { s with toConfig := config }
  | .getSender id r =>
    (s.receivers[r]?).map fun receiver =>
      { s with clones := s.clones ++ (s.hub.getSender id receiver).toList }
  | .getSenders ids r =>
    (s.receivers[r]?).map fun receiver =>
      { s with clones := s.clones ++ ids.dedup.filterMap (s.hub.getSenders receiver ids).lookup }
  | .drop clone => if clone ∈ s.clones then some { s with clones := s.clones.erase clone } else none
  | .send clone msg =>
    if clone ∈ s.clones then
      match s.chans[clone.sender]? with
      | some chan =>
        if chan.closed then some s
        else if chan.full then none
        else some { s with chans := s.chans.modify clone.sender (·.push msg) }
      | none => none
    else none

/-- Somebody has a sender of the channel: the hub, a task that has not written yet, or a user. -/
def fed (s : Lent M ChannelId) (r : Nat) : Bool :=
  decide (∃ id ∈ s.hub.senders.keys, ∃ sender ∈ s.hub.sendersOf id, sender.sender = r) ||
    (s.writes.any fun w => w.result.isNone && w.sender.sender == r) ||
    s.clones.any fun clone => clone.sender == r

def recvAt (s : Lent M ChannelId) (r : Nat) : Option (Received M) :=
  (s.chans[r]?).map fun chan => recv chan (s.fed r)

variable {s s' : Lent M ChannelId} {a : LentAct M ChannelId} {r : Nat} {chan : Chan M}

theorem fed_iff : s.fed r = true ↔ (∃ id, s.subscriptions.subscribed id r) ∨
    (∃ w ∈ s.writes, w.result = none ∧ w.sender.sender = r) ∨
      ∃ clone ∈ s.clones, clone.sender = r := by
  have entries : (∃ id ∈ s.hub.senders.keys, ∃ sender ∈ s.hub.sendersOf id, sender.sender = r) ↔
      ∃ id, s.subscriptions.subscribed id r := by
    constructor
    · intro given
      rcases given with ⟨id, -, entry⟩
      exact ⟨id, entry⟩
    · intro given
      rcases given with ⟨id, sender, member, same⟩
      refine ⟨id, ?_, sender, member, same⟩
      rw [Finmap.mem_keys]
      by_contra absent
      simp [NotifierHub.sendersOf, Finmap.lookup_eq_none.mpr absent] at member
  simp only [fed, Bool.or_eq_true, decide_eq_true_eq, entries, List.any_eq_true, Bool.and_eq_true,
    beq_iff_eq, Option.isNone_iff_eq_none, or_assoc]

/-- A step is one of the hub, or one with the clones. -/
inductive Stepped (s : Lent M ChannelId) : LentAct M ChannelId → Lent M ChannelId → Prop
  | hub {a : Act M ChannelId} {config : Config M ChannelId}
      (taken : s.toConfig.step a = some config) : Stepped s (.hub a) { s with toConfig := config }
  | cloned {a : LentAct M ChannelId} {new : List MessageSender}
      (lent : ∀ clone ∈ new, ∃ id, clone ∈ s.hub.sendersOf id) :
      Stepped s a { s with clones := s.clones ++ new }
  | dropped {clone : MessageSender} :
      Stepped s (.drop clone) { s with clones := s.clones.erase clone }
  | refused {clone : MessageSender} {msg : M} : Stepped s (.send clone msg) s
  | sent {clone : MessageSender} {msg : M} {chan : Chan M} (kept : clone ∈ s.clones)
      (place : s.chans[clone.sender]? = some chan) (opened : chan.closed = false) :
      Stepped s (.send clone msg) { s with chans := s.chans.modify clone.sender (·.push msg) }

theorem step_cases (taken : s.step a = some s') : Stepped s a s' := by
  cases a with
  | hub a =>
    rcases Option.map_eq_some_iff.mp taken with ⟨config, moved, rfl⟩
    exact .hub moved
  | getSender id r =>
    rcases Option.map_eq_some_iff.mp taken with ⟨receiver, held, rfl⟩
    refine .cloned fun clone member => ?_
    rw [Option.mem_toList] at member
    exact ⟨id, getSender_entry member⟩
  | getSenders ids r =>
    rcases Option.map_eq_some_iff.mp taken with ⟨receiver, held, rfl⟩
    refine .cloned fun clone member => ?_
    rcases List.mem_filterMap.mp member with ⟨id, -, found⟩
    rw [getSenders_lookup] at found
    split at found
    · exact ⟨id, getSender_entry found⟩
    · cases found
  | drop clone =>
    simp only [step, Option.ite_none_right_eq_some] at taken
    rcases taken with ⟨-, same⟩
    cases same
    exact .dropped
  | send clone msg =>
    simp only [step, Option.ite_none_right_eq_some] at taken
    rcases taken with ⟨kept, taken⟩
    split at taken
    next chan place =>
      split at taken
      · cases taken
        exact .refused
      next opened =>
        split at taken
        · cases taken
        · cases taken
          exact .sent kept place (by simpa using opened)
    · cases taken

/-- A task that has not written yet was there before, or has its sender from the hub. -/
theorem pending_step {s s' : Config M ChannelId} {a : Act M ChannelId} {w : Writing M}
    (taken : s.step a = some s') (member : w ∈ s'.writes) (pending : w.result = none) :
    w ∈ s.writes ∨ ∃ id, w.sender ∈ s.hub.sendersOf id := by
  have unmodified : ∀ (i : Nat) (f : Writing M → Writing M), (∀ w, (f w).result ≠ none) →
      w ∈ s.writes.modify i f → w ∈ s.writes := by
    intro i f ended member
    rcases List.mem_iff_getElem?.mp member with ⟨j, place⟩
    rw [List.getElem?_modify] at place
    rcases Option.map_eq_some_iff.mp place with ⟨before, found, same⟩
    split at same
    · subst same
      exact absurd pending (ended before)
    · subst same
      exact List.mem_of_getElem? found
  cases Config.step_cases taken with
  | called made =>
    cases call_cases made with
    | joined | left | awaited => exact .inl member
    | @swept _ ids msg _ _ names lists retained =>
      rcases List.mem_append.mp member with old | new
      · exact .inl old
      · cases msg with
        | none => cases new
        | some msg =>
          rcases List.mem_map.mp new with ⟨sender, listed, rfl⟩
          rcases List.mem_flatMap.mp listed with ⟨id, -, entry⟩
          rw [retained.sendersOf id] at entry
          split at entry
          · exact .inr ⟨id, List.mem_of_mem_filter entry⟩
          · exact .inr ⟨id, entry⟩
  | moved => exact .inl member
  | happened happened =>
    cases event_cases happened with
    | failed => exact .inl (unmodified _ _ (by simp) member)
    | written => exact .inl (unmodified _ _ (by simp) member)
    | received | closed | aside => exact .inl member

/-- Nobody gets a sender of a channel that nobody has a sender of. -/
theorem fed_step (wired : Wired s.hub s.toTables) (taken : s.step a = some s')
    (present : s.chans[r]? = some chan) (fed : s'.fed r = true) : s.fed r = true := by
  rw [fed_iff] at fed ⊢
  cases step_cases taken with
  | @hub a config moved =>
    rcases fed with ⟨id, subscribed⟩ | ⟨w, member, pending, same⟩ | clones
    · rw [Config.subscriptions_step wired moved, Config.subscribed_next] at subscribed
      rcases subscribed with ⟨-, fresh⟩ | ⟨subscribed, -⟩
      · exact absurd fresh (Nat.ne_of_lt (getElem?_lt present))
      · exact .inl ⟨id, subscribed⟩
    · rcases pending_step moved member pending with old | ⟨id, entry⟩
      · exact .inr (.inl ⟨w, old, pending, same⟩)
      · exact .inl ⟨id, w.sender, entry, same⟩
    · exact .inr (.inr clones)
  | cloned lent =>
    rcases fed with subscribed | writes | ⟨clone, member, same⟩
    · exact .inl subscribed
    · exact .inr (.inl writes)
    · rcases List.mem_append.mp member with old | new
      · exact .inr (.inr ⟨clone, old, same⟩)
      · rcases lent clone new with ⟨id, entry⟩
        exact .inl ⟨id, clone, entry, same⟩
  | dropped =>
    rcases fed with subscribed | writes | ⟨clone, member, same⟩
    · exact .inl subscribed
    · exact .inr (.inl writes)
    · exact .inr (.inr ⟨clone, List.mem_of_mem_erase member, same⟩)
  | refused | sent => exact fed

/-- A message gets into a buffer only while its channel is open and somebody has a sender. -/
theorem chan_still (taken : s.step a = some s') (present : s.chans[r]? = some chan)
    (shut : chan.closed = true ∨ s.fed r = false) :
    ∃ chan', s'.chans[r]? = some chan' ∧ Still chan chan' := by
  have pushed : ∀ (i : Nat) (msg : M) target, s.chans[i]? = some target →
      target.closed = false → (i = r → s.fed r = true) →
        ∃ chan', (s.chans.modify i (·.push msg))[r]? = some chan' ∧ Still chan chan' := by
    intro i msg target place opened fed
    refine still_modify i _ present fun same => ?_
    subst same
    cases present.symm.trans place
    rcases shut with closed | gone
    · cases opened.symm.trans closed
    · cases (fed rfl).symm.trans gone
  cases step_cases taken with
  | hub moved =>
    cases Config.step_cases moved with
    | called made =>
      cases call_cases made with
      | joined =>
        exact ⟨chan, (List.getElem?_append_left (getElem?_lt present)).trans present, Still.refl _⟩
      | left | swept | awaited => exact ⟨chan, present, Still.refl _⟩
    | moved => exact ⟨chan, present, Still.refl _⟩
    | happened happened =>
      cases event_cases happened with
      | @written i w target found pending place opened =>
        refine pushed w.sender.sender w.msg target place opened fun same => ?_
        exact fed_iff.mpr (.inr (.inl ⟨w, List.mem_of_getElem? found, pending, same⟩))
      | @received i => exact still_modify i _ present fun _ => Still.pop _
      | @closed i => exact still_modify i _ present fun _ => Still.close _
      | failed | aside => exact ⟨chan, present, Still.refl _⟩
  | cloned | dropped | refused => exact ⟨chan, present, Still.refl _⟩
  | @sent clone msg target kept place opened =>
    refine pushed clone.sender msg target place opened fun same => ?_
    exact fed_iff.mpr (.inr (.inr ⟨clone, kept, same⟩))

/-- Every clone is one of a sender that feeds a receiver which was handed out. -/
structure Known (s : Lent M ChannelId) : Prop where
  wired : Wired s.hub s.toTables
  clones : ∀ clone ∈ s.clones, ⟨clone.id, clone.sender⟩ ∈ s.receivers

theorem known_step (known : s.Known) (taken : s.step a = some s') : s'.Known := by
  cases step_cases taken with
  | hub moved =>
    refine ⟨Config.wired_step known.wired moved, fun clone member => ?_⟩
    exact (Config.receivers_step moved).subset (known.clones clone member)
  | cloned lent =>
    refine ⟨known.wired, fun clone member => ?_⟩
    rcases List.mem_append.mp member with old | new
    · exact known.clones clone old
    · rcases lent clone new with ⟨id, entry⟩
      exact known.wired.entries id clone entry
  | dropped =>
    exact ⟨known.wired, fun clone member => known.clones clone (List.mem_of_mem_erase member)⟩
  | refused => exact known
  | sent =>
    have wired := known.wired
    refine ⟨⟨?_, wired.place, wired.below, wired.belowWaiters, wired.distinct, wired.apart,
      wired.entries⟩, known.clones⟩
    rw [List.length_modify]
    exact wired.length

variable {trace : List (Lent M ChannelId × LentAct M ChannelId)} {address : Nat}
  {receiver : MessageReceiver}

theorem unfed_iff (known : s.Known) (held : s.receivers[r]? = some receiver) :
    s.fed r = false ↔ (∀ id, s.hub.isSubscribed id receiver = false) ∧
      (∀ w ∈ s.writes, w.sender.sender = r → w.result.isSome = true) ∧
        ∀ clone ∈ s.clones, clone.isBoundTo receiver = false := by
  have subscribed : (∃ id, s.subscriptions.subscribed id r) ↔
      ¬ ∀ id, s.hub.isSubscribed id receiver = false := by
    simp only [not_forall, Bool.not_eq_false, Config.subscribed_iff known.wired held]
  have writing : (∃ w ∈ s.writes, w.result = none ∧ w.sender.sender = r) ↔
      ¬ ∀ w ∈ s.writes, w.sender.sender = r → w.result.isSome = true := by
    simp [and_comm]
  have cloned : (∃ clone ∈ s.clones, clone.sender = r) ↔
      ¬ ∀ clone ∈ s.clones, clone.isBoundTo receiver = false := by
    simp only [not_forall, Bool.not_eq_false, exists_prop]
    refine exists_congr fun clone => and_congr_right fun member => ?_
    exact (known.wired.known_iff held (known.clones clone member)).symm
  rw [← Bool.not_eq_true, fed_iff, subscribed, writing, cloned]
  tauto

/-- The stream of a receiver ends when it is closed, or when it is unsubscribed from all channels,
    the tasks that write to it are over, no user has a clone of its sender and its messages are
    received; it gets no message after that. -/
theorem stream_ends (run : Run step (Lent.new address) trace s)
    (held : s.receivers[r]? = some receiver) (found : s.chans[r]? = some chan) :
    (s.recvAt r = some .ended ↔ chan.buffer = [] ∧ (chan.closed = true ∨
        (∀ id, s.hub.isSubscribed id receiver = false) ∧
        (∀ w ∈ s.writes, w.sender.sender = r → w.result.isSome = true) ∧
        ∀ clone ∈ s.clones, clone.isBoundTo receiver = false)) ∧
      (s.recvAt r = some .ended → ∀ later t, Run step s later t →
        t.recvAt r = some .ended ∧ ∃ chan', t.chans[r]? = some chan' ∧ chan'.sent = chan.sent) := by
  have keep : ∀ (t : Lent M ChannelId) a t', t.Known → t.step a = some t' → t'.Known :=
    fun _ _ _ known taken => known_step known taken
  have start : (Lent.new address : Lent M ChannelId).Known :=
    ⟨Config.wired_new, fun clone member => absurd member List.not_mem_nil⟩
  have known := run.invariant keep start
  have ends : s.recvAt r = some .ended ↔ recv chan (s.fed r) = .ended := by
    simp [recvAt, found]
  refine ⟨?_, fun ended later t onward => ?_⟩
  · rw [ends, recv_ended, unfed_iff known held]
  · have still : ∀ (t : Lent M ChannelId) a t' c, t.Known → t.step a = some t' →
        t.chans[r]? = some c → c.closed = true ∨ t.fed r = false →
          ∃ c', t'.chans[r]? = some c' ∧ Still c c' ∧ (t.fed r = false → t'.fed r = false) := by
      intro t a t' c inv taken present shut
      rcases chan_still taken present shut with ⟨c', present', still⟩
      refine ⟨c', present', still, fun gone => ?_⟩
      rw [← Bool.not_eq_true] at gone ⊢
      exact fun fed => gone (fed_step inv.wired taken present fed)
    rcases ended_for_good keep still onward known found (ends.mp ended)
      with ⟨chan', present, final, sent⟩
    refine ⟨?_, chan', present, sent⟩
    rw [recvAt, present]
    exact congrArg some final

/-- The receiver is unsubscribed before its message is written, and a clone of its sender dropped
    after it. -/
def unsubscribesEarly : List (LentAct Nat Nat) :=
  [.hub (.op (.subscribe 1)), .getSenders [1, 1, 2] 0, .hub (.op (.cloneSend 5 1)),
    .hub (.op (.unsubscribeAll 0 [1])), .hub (.event (.write 0)), .hub (.event (.receive 0)),
    .drop ⟨⟨0, 7⟩, 0⟩]

theorem stream_ends_unsubscribed : ∃ s, exec step (Lent.new 7) unsubscribesEarly = some s ∧
    s.recvAt 0 = some .ended ∧ ∀ later t, Run step s later t → t.recvAt 0 = some .ended := by
  obtain ⟨s, receiver, chan, done, held, found, ended⟩ :
      ∃ (s : Lent Nat Nat) (receiver : MessageReceiver) (chan : Chan Nat),
        exec step (Lent.new 7) unsubscribesEarly = some s ∧ s.receivers[0]? = some receiver ∧
          s.chans[0]? = some chan ∧ s.recvAt 0 = some .ended :=
    ⟨_, _, _, rfl, rfl, rfl, by decide⟩
  refine ⟨s, done, ended, fun later t onward => ?_⟩
  exact ((stream_ends (run_of_exec _ done) held found).2 ended later t onward).1

end Lent

end AsyncForge.NotifierHub
