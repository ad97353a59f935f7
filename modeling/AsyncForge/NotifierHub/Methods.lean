import AsyncForge.NotifierHub.State

/-! What each method does to the hub. All of them either insert one sender into some channels or
    retain, in some channels, the senders with some property. -/

namespace AsyncForge.NotifierHub

open AsyncForge.Channels AsyncForge.SmartChannel

variable {M ChannelId : Type} [DecidableEq ChannelId]

section Queries

variable {f : NotifierHub M ChannelId} {id : ChannelId}

theorem channelState_uninitialised :
    f.channelState id = .uninitialised ↔ f.senders.lookup id = none := by
  unfold channelState
  split
  · split <;> simp_all
  · simp_all

theorem channelState_running : f.channelState id = .running ↔ f.sendersOf id ≠ [] := by
  unfold channelState sendersOf
  split
  next s found => cases s <;> simp [found]
  next missing => simp [missing]

theorem channelState_over : f.channelState id = .over ↔ f.senders.lookup id = some [] := by
  unfold channelState
  split
  next s found => cases s <;> simp [found]
  next missing => simp [missing]

theorem isSubscribed_iff {receiver : MessageReceiver} :
    f.isSubscribed id receiver = true ↔ ∃ s ∈ f.sendersOf id, s.isBoundTo receiver = true := by
  unfold isSubscribed
  split
  · exact List.any_eq_true
  next other =>
    have empty : f.sendersOf id = [] := by
      by_contra inhabited
      exact other (channelState_running.mpr inhabited)
    simp [empty]

theorem getSender_eq {receiver : MessageReceiver} :
    f.getSender id receiver = (f.sendersOf id).find? fun s => s.isBoundTo receiver := by
  unfold getSender sendersOf
  cases f.senders.lookup id <;> rfl

end Queries

/-- `f'` is `f` with the senders without the property dropped from the channels `ids`. -/
structure Retained (f f' : NotifierHub M ChannelId) (ids : List ChannelId)
    (keep : MessageSender → Bool) : Prop where
  counter : f'.connectionId = f.connectionId
  creations : f'.creationSenders = f.creationSenders
  lookup : ∀ id, f'.senders.lookup id =
    if id ∈ ids then (f.senders.lookup id).map (List.filter keep) else f.senders.lookup id

/-- `f'` is `f` with the sender appended to the channels `ids`, once for each occurrence. -/
structure Inserted (f f' : NotifierHub M ChannelId) (ids : List ChannelId)
    (sender : MessageSender) : Prop where
  counter : f'.connectionId = f.connectionId
  creations : f'.creationSenders = f.creationSenders
  lookup : ∀ id, f'.senders.lookup id =
    if id ∈ ids then some (f.sendersOf id ++ List.replicate (ids.count id) sender)
    else f.senders.lookup id

section Retained

variable {f f' f'' : NotifierHub M ChannelId} {ids ids' : List ChannelId}
  {keep : MessageSender → Bool}

theorem Retained.nil (f : NotifierHub M ChannelId) (keep : MessageSender → Bool) :
    Retained f f [] keep := ⟨rfl, rfl, by simp⟩

theorem Retained.sendersOf (retained : Retained f f' ids keep) (id : ChannelId) :
    f'.sendersOf id = if id ∈ ids then (f.sendersOf id).filter keep else f.sendersOf id := by
  unfold NotifierHub.sendersOf
  rw [retained.lookup id]
  split
  · cases f.senders.lookup id <;> rfl
  · rfl

theorem Retained.flatMap_sendersOf (retained : Retained f f' ids keep) :
    ids.flatMap f'.sendersOf = (ids.flatMap f.sendersOf).filter keep := by
  rw [List.filter_flatMap]
  apply List.flatMap_congr
  intro id member
  rw [retained.sendersOf id, if_pos member]

theorem Retained.append (first : Retained f f' ids keep) (second : Retained f' f'' ids' keep) :
    Retained f f'' (ids ++ ids') keep := by
  refine ⟨second.counter.trans first.counter, second.creations.trans first.creations, ?_⟩
  intro id
  rw [second.lookup, first.lookup]
  by_cases one : id ∈ ids <;> by_cases two : id ∈ ids' <;> simp [one, two]
  cases f.senders.lookup id <;> simp

theorem Retained.refl_of_all {id : ChannelId} (all : ∀ s ∈ f.sendersOf id, keep s = true) :
    Retained f f [id] keep := by
  refine ⟨rfl, rfl, fun other => ?_⟩
  split
  next member =>
    obtain rfl := List.mem_singleton.mp member
    cases found : f.senders.lookup other with
    | none => rfl
    | some senders =>
      have kept : senders.filter keep = senders := by
        rw [List.filter_eq_self]
        simpa [NotifierHub.sendersOf, found] using all
      simp [kept]
  · rfl

theorem retained_insert {id : ChannelId} {senders : List MessageSender}
    (found : f.senders.lookup id = some senders) :
    Retained f { f with senders := f.senders.insert id (senders.filter keep) } [id] keep := by
  refine ⟨rfl, rfl, fun other => ?_⟩
  by_cases same : other = id
  · subst same
    simp [found]
  · simp [Finmap.lookup_insert_of_ne _ same, same]

end Retained

section Inserted

variable {f f' f'' : NotifierHub M ChannelId} {ids ids' : List ChannelId} {sender : MessageSender}

theorem Inserted.sendersOf (inserted : Inserted f f' ids sender) (id : ChannelId) :
    f'.sendersOf id = f.sendersOf id ++ List.replicate (ids.count id) sender := by
  unfold NotifierHub.sendersOf
  rw [inserted.lookup id]
  split
  · rfl
  next absent => simp [List.count_eq_zero_of_not_mem absent]

theorem Inserted.append (first : Inserted f f' ids sender)
    (second : Inserted f' f'' ids' sender) : Inserted f f'' (ids ++ ids') sender := by
  refine ⟨second.counter.trans first.counter, second.creations.trans first.creations, ?_⟩
  intro id
  rw [second.lookup, first.lookup, first.sendersOf]
  by_cases one : id ∈ ids <;> by_cases two : id ∈ ids' <;>
    simp [one, two, List.count_eq_zero_of_not_mem]

end Inserted

section Methods

variable (f : NotifierHub M ChannelId) (chans : List (Chan M))

theorem cleanChannel_retained (id : ChannelId) :
    Retained f (f.cleanChannel chans id).2 [id] fun s => !s.isClosed chans := by
  unfold cleanChannel
  split
  next senders found => exact retained_insert found
  next missing =>
    exact Retained.refl_of_all (by simp [NotifierHub.sendersOf, missing])

theorem cleanAll_retained (keys : List ChannelId) :
    Retained f (f.cleanAll chans keys).2 keys fun s => !s.isClosed chans := by
  unfold cleanAll
  generalize (∅ : Finmap fun _ : ChannelId => ChannelState) = states
  induction keys generalizing f states with
  | nil => exact Retained.nil f _
  | cons id keys ih =>
    exact (cleanChannel_retained f chans id).append (ih (f.cleanChannel chans id).2 _)

theorem unsubscribe_retained (id : ChannelId) (receiver : MessageReceiver) :
    Retained f (f.unsubscribe id receiver).2 [id] fun s => !s.isBoundTo receiver := by
  have unbound : f.isSubscribed id receiver ≠ true →
      ∀ s ∈ f.sendersOf id, (!s.isBoundTo receiver) = true := by
    intro absent s member
    by_contra bound
    exact absent (isSubscribed_iff.mpr ⟨s, member, by simpa using bound⟩)
  unfold unsubscribe
  split
  · split
    next absent => exact Retained.refl_of_all (unbound (by simpa using absent))
    · split
      next senders found => exact retained_insert found
      next missing => exact Retained.refl_of_all (by simp [NotifierHub.sendersOf, missing])
  next other =>
    refine Retained.refl_of_all (unbound fun subscribed => ?_)
    rcases isSubscribed_iff.mp subscribed with ⟨s, member, -⟩
    exact other (channelState_running.mpr (List.ne_nil_of_mem member))

theorem unsubscribeNext_snd (receiver : MessageReceiver)
    (r : List (NotifierError M ChannelId) × NotifierHub M ChannelId) (id : ChannelId) :
    (unsubscribeNext receiver r id).2 = (r.2.unsubscribe id receiver).2 := by
  unfold unsubscribeNext
  split <;> simp_all

theorem unsubscribeMultiple_retained (ids : List ChannelId) (receiver : MessageReceiver) :
    Retained f (f.unsubscribeMultiple ids receiver).2 ids fun s => !s.isBoundTo receiver := by
  have loop : ∀ r : List (NotifierError M ChannelId) × NotifierHub M ChannelId,
      Retained r.2 (ids.foldl (unsubscribeNext receiver) r).2 ids
        fun s => !s.isBoundTo receiver := by
    induction ids with
    | nil => exact fun r => Retained.nil r.2 _
    | cons id ids ih =>
      intro r
      have first := unsubscribe_retained r.2 id receiver
      rw [← unsubscribeNext_snd] at first
      exact first.append (ih _)
  exact loop ([], f)

theorem mem_subscribedList {keys : List ChannelId} {receiver : MessageReceiver} {id : ChannelId} :
    id ∈ f.subscribedList keys receiver ↔ id ∈ keys ∧ f.isSubscribed id receiver = true := by
  simp [subscribedList]

theorem unsubscribeAll_retained (keys : List ChannelId) (receiver : MessageReceiver) :
    Retained f (f.unsubscribeAll keys receiver).2 keys fun s => !s.isBoundTo receiver := by
  have left : Retained f (f.unsubscribeAll keys receiver).2 (f.subscribedList keys receiver)
      fun s => !s.isBoundTo receiver := by
    unfold unsubscribeAll
    dsimp only
    split
    next none => rw [List.isEmpty_iff.mp none]; exact Retained.nil f _
    · exact unsubscribeMultiple_retained f _ receiver
  refine ⟨left.counter, left.creations, fun id => ?_⟩
  rw [left.lookup]
  by_cases member : id ∈ keys
  · by_cases subscribed : f.isSubscribed id receiver = true
    · simp [mem_subscribedList, member, subscribed]
    · have all : ∀ s ∈ f.sendersOf id, (!s.isBoundTo receiver) = true := by
        intro s inside
        by_contra bound
        exact subscribed (isSubscribed_iff.mpr ⟨s, inside, by simpa using bound⟩)
      have kept := (Retained.refl_of_all all).lookup id
      simp only [List.mem_singleton, ↓reduceIte] at kept
      simp only [mem_subscribedList, member, subscribed, ↓reduceIte]
      exact kept
  · simp [mem_subscribedList, member]

theorem insertSender_inserted (t : Tables M) (sender : MessageSender) (id : ChannelId) :
    Inserted f (f.insertSender t sender id).1 [id] sender := by
  unfold insertSender
  split
  next senders found =>
    refine ⟨rfl, rfl, fun other => ?_⟩
    by_cases same : other = id
    · subst same
      simp [NotifierHub.sendersOf, found]
    · simp [Finmap.lookup_insert_of_ne _ same, same]
  next missing =>
    refine ⟨rfl, rfl, fun other => ?_⟩
    by_cases same : other = id
    · subst same
      simp [NotifierHub.sendersOf, missing]
    · simp [Finmap.lookup_insert_of_ne _ same, same]

theorem insertAll_inserted (t : Tables M) (sender : MessageSender) (ids : List ChannelId) :
    Inserted f (ids.foldl (fun r id => r.1.insertSender r.2 sender id) (f, t)).1 ids sender := by
  induction ids generalizing f t with
  | nil => exact ⟨rfl, rfl, by simp⟩
  | cons id ids ih =>
    exact (insertSender_inserted f t sender id).append (ih (f.insertSender t sender id).1 _)

end Methods

section Foreign

variable {f : NotifierHub M ChannelId} {receiver : MessageReceiver} {id : ChannelId}

theorem unsubscribe_foreign (absent : f.isSubscribed id receiver = false) :
    (f.unsubscribe id receiver).2 = f := by
  unfold unsubscribe
  split
  · simp [absent]
  · rfl

theorem unsubscribeAll_foreign {keys : List ChannelId}
    (absent : ∀ id, f.isSubscribed id receiver = false) :
    (f.unsubscribeAll keys receiver).2 = f := by
  have none : f.subscribedList keys receiver = [] := by simp [subscribedList, absent]
  simp [unsubscribeAll, none]

end Foreign

end AsyncForge.NotifierHub
