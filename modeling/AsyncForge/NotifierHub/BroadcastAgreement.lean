import Mathlib.Algebra.GroupWithZero.Nat
import AsyncForge.NotifierHub.System

/-! A broadcast against one send for each channel, and the shared messages against the cloned
    ones. -/

namespace AsyncForge.NotifierHub

open AsyncForge.Channels AsyncForge.Runs AsyncForge.SmartChannel
open AsyncForge.NotifierHub.WritingHandler

variable {M ChannelId : Type} [DecidableEq ChannelId] {f f' f'' : NotifierHub M ChannelId}
  {ids ids' : List ChannelId} {keep : MessageSender → Bool}

theorem Retained.same_hub (one : Retained f f' ids keep) (two : Retained f f'' ids' keep)
    (same : ∀ id, id ∈ ids ↔ id ∈ ids') : f' = f'' := by
  have senders : f'.senders = f''.senders := by
    apply Finmap.ext_lookup
    intro id
    rw [one.lookup, two.lookup]
    simp only [same id]
  rcases f' with ⟨counter', senders', creations'⟩
  rcases f'' with ⟨counter'', senders'', creations''⟩
  have counter : counter' = counter'' := one.counter.trans two.counter.symm
  have creations : creations' = creations'' := one.creations.trans two.creations.symm
  subst counter senders creations
  rfl

/-- One `clone_send` for each of the channels, in their order. -/
def cloneSends (f : NotifierHub M ChannelId) (t : Tables M) (msg : M) (ids : List ChannelId) :
    NotifierHub M ChannelId × Tables M :=
  ids.foldl (fun r id => (r.1.cloneSend r.2 msg id).2) (f, t)

/-- The writes of the message to the open subscriptions of the channels. -/
def openWrites (f : NotifierHub M ChannelId) (chans : List (Chan M)) (msg : M)
    (ids : List ChannelId) : List (Writing M) :=
  ((ids.flatMap f.sendersOf).filter fun s => !s.isClosed chans).map fun sender =>
    getHandler sender msg

theorem openWrites_append (f : NotifierHub M ChannelId) (chans : List (Chan M)) (msg : M)
    (ids ids' : List ChannelId) :
    openWrites f chans msg (ids ++ ids') =
      openWrites f chans msg ids ++ openWrites f chans msg ids' := by
  simp [openWrites]

theorem openWrites_perm {chans : List (Chan M)} {msg : M} (perm : ids.Perm ids') :
    (openWrites f chans msg ids).Perm (openWrites f chans msg ids') :=
  ((perm.flatMap_right f.sendersOf).filter _).map _

theorem length_openWrites (f : NotifierHub M ChannelId) (chans : List (Chan M)) (msg : M)
    (ids : List ChannelId) : (openWrites f chans msg ids).length =
      (ids.map fun id => (f.sendersOf id).countP fun s => !s.isClosed chans).sum := by
  unfold openWrites
  rw [List.length_map, ← List.countP_eq_length_filter, List.countP_flatMap]
  rfl

theorem opened_of_mem_openWrites {chans : List (Chan M)} {msg : M} {w : Writing M}
    (member : w ∈ openWrites f chans msg ids) :
    w.msg = msg ∧ w.result = none ∧ w.sender.isClosed chans = false := by
  rcases List.mem_map.mp member with ⟨sender, kept, rfl⟩
  have opened := (List.mem_filter.mp kept).2
  exact ⟨rfl, rfl, by simpa [getHandler] using opened⟩

/-- Senders that are dropped already make no difference to the writes. -/
theorem openWrites_retained {chans : List (Chan M)} {msg : M}
    (retained : Retained f f' ids fun s => !s.isClosed chans) (ids' : List ChannelId) :
    openWrites f' chans msg ids' = openWrites f chans msg ids' := by
  unfold openWrites
  rw [List.filter_flatMap, List.filter_flatMap]
  congr 1
  apply List.flatMap_congr
  intro id _
  rw [retained.sendersOf id]
  split
  · simp [List.filter_filter]
  · rfl

theorem openWrites_cleaned (f : NotifierHub M ChannelId) (chans : List (Chan M)) (msg : M)
    (id : ChannelId) : openWrites f chans msg [id] =
      ((f.cleanChannel chans id).2.sendersOf id).map fun sender => getHandler sender msg := by
  rw [(cleanChannel_retained f chans id).sendersOf id, if_pos (List.mem_singleton_self id)]
  simp [openWrites]

theorem cloneSend_eq (f : NotifierHub M ChannelId) (t : Tables M) (msg : M) (id : ChannelId) :
    (f.cloneSend t msg id).2 = ((f.cleanChannel t.chans id).2,
      { t with writes := t.writes ++ openWrites f t.chans msg [id] }) := by
  rw [openWrites_cleaned]
  unfold cloneSend
  dsimp only
  split
  · rfl
  next none => simp [NotifierHub.sendersOf, channelState_over.mp none]
  next missing => simp [NotifierHub.sendersOf, channelState_uninitialised.mp missing]

theorem cloneSend_handler {t : Tables M} {msg : M} {id : ChannelId}
    (inhabited : openWrites f t.chans msg [id] ≠ []) : (f.cloneSend t msg id).1 =
      .ok ⟨List.range' t.writes.length (openWrites f t.chans msg [id]).length⟩ := by
  rw [openWrites_cleaned] at inhabited ⊢
  unfold cloneSend
  dsimp only
  split
  · simp [newCloningBroadcast]
  next none => simp [NotifierHub.sendersOf, channelState_over.mp none] at inhabited
  next missing => simp [NotifierHub.sendersOf, channelState_uninitialised.mp missing] at inhabited

theorem cloneSends_eq (f : NotifierHub M ChannelId) (t : Tables M) (msg : M)
    (ids : List ChannelId) : ∃ f', Retained f f' ids (fun s => !s.isClosed t.chans) ∧
      cloneSends f t msg ids =
        (f', { t with writes := t.writes ++ openWrites f t.chans msg ids }) := by
  induction ids generalizing f t with
  | nil =>
    refine ⟨f, Retained.nil f _, ?_⟩
    simp [cloneSends, openWrites]
  | cons id ids ih =>
    have first := cleanChannel_retained f t.chans id
    rcases ih (f.cleanChannel t.chans id).2
      { t with writes := t.writes ++ openWrites f t.chans msg [id] } with ⟨f', rest, sent⟩
    refine ⟨f', first.append rest, ?_⟩
    have split : openWrites f t.chans msg (id :: ids) =
        openWrites f t.chans msg [id] ++ openWrites f t.chans msg ids :=
      openWrites_append f t.chans msg [id] ids
    unfold cloneSends at sent ⊢
    rw [List.foldl_cons, cloneSend_eq, sent, openWrites_retained first, split, List.append_assoc]

theorem broadcastClone_eq (f : NotifierHub M ChannelId) (t : Tables M) (msg : M)
    (keys : List ChannelId) : ∃ f', Retained f f' keys (fun s => !s.isClosed t.chans) ∧
      f.broadcastClone t keys msg =
        (⟨List.range' t.writes.length (openWrites f t.chans msg keys).length⟩, f',
          { t with writes := t.writes ++ openWrites f t.chans msg keys }) := by
  have retained := cleanAll_retained f t.chans keys
  refine ⟨_, retained, ?_⟩
  have entries := retained.flatMap_sendersOf
  unfold broadcastClone openWrites newCloningBroadcast
  dsimp only
  rw [entries, List.length_map]

/-- A broadcast leaves the hub that one send for each channel leaves, in whatever order these are
    made, and spawns the same writes: one for each open subscription. The shared messages go the way
    of the cloned ones. -/
theorem broadcast_agrees_with_sends (f : NotifierHub M ChannelId) (t : Tables M) (msg : M)
    (keys keys' : List ChannelId) (lists : Lists f keys) (lists' : Lists f keys') :
    (∃ hub writes writes',
      f.broadcastClone t keys msg = (⟨List.range' t.writes.length writes.length⟩, hub,
        { t with writes := t.writes ++ writes }) ∧
      cloneSends f t msg keys' = (hub, { t with writes := t.writes ++ writes' }) ∧
      writes.Perm writes' ∧
      writes.length =
        (keys.map fun id => (f.sendersOf id).countP fun s => !s.isClosed t.chans).sum ∧
      ∀ w ∈ writes, w.msg = msg ∧ w.sender.isClosed t.chans = false) ∧
    (∀ id, f.arcSend t msg id = f.cloneSend t (Arc.new msg) id) ∧
    f.broadcastArc t keys msg = f.broadcastClone t keys (Arc.new msg) := by
  refine ⟨?_, fun id => rfl, rfl⟩
  rcases broadcastClone_eq f t msg keys with ⟨hub, retained, broadcast⟩
  rcases cloneSends_eq f t msg keys' with ⟨hub', retained', sent⟩
  have perm : keys.Perm keys' :=
    List.perm_of_nodup_nodup_toFinset_eq lists.1 lists'.1 (lists.2.trans lists'.2.symm)
  obtain rfl : hub = hub' := retained.same_hub retained' fun id => perm.mem_iff
  refine ⟨hub, _, _, broadcast, sent, openWrites_perm perm,
    length_openWrites f t.chans msg keys, ?_⟩
  intro w member
  rcases opened_of_mem_openWrites member with ⟨same, -, opened⟩
  exact ⟨same, opened⟩

/-- A receiver of two channels and the only receiver of a third one are closed. -/
def closesTwo : List (Act Nat Nat) :=
  [.op (.subscribeMultiple [1, 2]), .op (.subscribeMultiple [2, 1]), .op (.subscribe 3),
    .event (.close 0), .event (.close 2)]

theorem broadcast_agrees_with_sends_closed :
    ∃ s hub handler t t', exec Config.step (Config.new 7) closesTwo = some s ∧
      s.hub.broadcastClone s.toTables [1, 2, 3] 5 = (handler, hub, t) ∧
      cloneSends s.hub s.toTables 5 [3, 1, 2] = (hub, t') ∧ t.writes.Perm t'.writes ∧
      handler.len = 2 := by
  obtain ⟨s, done, lists, lists', sum, none⟩ : ∃ s : Config Nat Nat,
      exec Config.step (Config.new 7) closesTwo = some s ∧ Lists s.hub [1, 2, 3] ∧
      Lists s.hub [3, 1, 2] ∧ (([1, 2, 3].map fun id =>
        (s.hub.sendersOf id).countP fun s' => !s'.isClosed s.chans).sum = 2) ∧ s.writes = [] :=
    ⟨_, rfl, by decide, by decide, by decide, rfl⟩
  rcases (broadcast_agrees_with_sends s.hub s.toTables 5 _ _ lists lists').1 with
    ⟨hub, writes, writes', broadcast, sent, perm, length, -⟩
  refine ⟨s, hub, _, _, _, done, broadcast, sent, ?_, ?_⟩
  · simpa [none] using perm
  · rw [sum] at length
    simp [len, length]

end AsyncForge.NotifierHub
