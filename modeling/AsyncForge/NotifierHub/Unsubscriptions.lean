import AsyncForge.NotifierHub.System

/-! What the methods that unsubscribe a receiver from many channels answer and leave, from any
    hub. -/

namespace AsyncForge.NotifierHub

open AsyncForge.Channels AsyncForge.Runs AsyncForge.SmartChannel

variable {M ChannelId : Type} [DecidableEq ChannelId]

section Loop

variable (f : NotifierHub M ChannelId) (receiver : MessageReceiver)

/-- The receiver is subscribed to the channel at the position, and no earlier position has it. -/
def Hit (ids : List ChannelId) (k : Nat) : Prop :=
  ∃ id ∈ ids[k]?, f.isSubscribed id receiver = true ∧ id ∉ ids.take k

instance (ids : List ChannelId) (k : Nat) : Decidable (Hit f receiver ids k) :=
  inferInstanceAs (Decidable (∃ id ∈ ids[k]?, _))

/-- The channels at the other positions, in the order of the list. -/
def misses (ids : List ChannelId) : List ChannelId :=
  (List.range ids.length).filterMap fun k => if Hit f receiver ids k then none else ids[k]?

variable {f receiver} {ids : List ChannelId} {id : ChannelId}

theorem hit_concat_of_lt {k : Nat} (below : k < ids.length) :
    Hit f receiver (ids ++ [id]) k ↔ Hit f receiver ids k := by
  unfold Hit
  rw [List.getElem?_append_left below, List.take_append_of_le_length (Nat.le_of_lt below)]

theorem hit_concat_last :
    Hit f receiver (ids ++ [id]) ids.length ↔
      f.isSubscribed id receiver = true ∧ id ∉ ids := by
  simp [Hit]

theorem misses_concat :
    misses f receiver (ids ++ [id]) = misses f receiver ids ++
      if f.isSubscribed id receiver = true ∧ id ∉ ids then [] else [id] := by
  have before : (List.range ids.length).filterMap (fun k =>
      if Hit f receiver (ids ++ [id]) k then none else (ids ++ [id])[k]?) =
        misses f receiver ids := by
    apply List.filterMap_congr
    intro k member
    have below := List.mem_range.mp member
    simp only [hit_concat_of_lt below, List.getElem?_append_left below]
  have last : [ids.length].filterMap (fun k =>
      if Hit f receiver (ids ++ [id]) k then none else (ids ++ [id])[k]?) =
        if f.isSubscribed id receiver = true ∧ id ∉ ids then [] else [id] := by
    by_cases hit : f.isSubscribed id receiver = true ∧ id ∉ ids <;> simp [hit_concat_last, hit]
  unfold misses
  rw [List.length_append, List.length_singleton, List.range_succ, List.filterMap_append, before,
    last]
  rfl

theorem misses_eq_nil : misses f receiver ids = [] ↔ ∀ k < ids.length, Hit f receiver ids k := by
  unfold misses
  rw [List.filterMap_eq_nil_iff]
  constructor
  · intro none k below
    have absent := none k (List.mem_range.mpr below)
    by_contra miss
    simp [miss, below] at absent
  · intro all k member
    simp [all k (List.mem_range.mp member)]

theorem unsubscribe_answer :
    (f.unsubscribe id receiver).1 =
      if f.isSubscribed id receiver = true
      then .ok ((f.unsubscribe id receiver).2.channelState id) else .error (.notSubscribed id) := by
  by_cases subscribed : f.isSubscribed id receiver = true
  · rcases isSubscribed_iff.mp subscribed with ⟨s, member, -⟩
    have running := channelState_running.mpr (List.ne_nil_of_mem member)
    cases found : f.senders.lookup id with
    | none => simp [NotifierHub.sendersOf, found] at member
    | some senders => simp [NotifierHub.unsubscribe, running, subscribed, found]
  · unfold NotifierHub.unsubscribe
    split <;> simp [subscribed]

end Loop

section Retained

variable {f f' : NotifierHub M ChannelId} {receiver other : MessageReceiver}
  {ids : List ChannelId}

theorem Retained.isSubscribed
    (retained : Retained f f' ids fun s => !s.isBoundTo receiver) (id : ChannelId) :
    f'.isSubscribed id receiver = true ↔ f.isSubscribed id receiver = true ∧ id ∉ ids := by
  rw [isSubscribed_iff, isSubscribed_iff, retained.sendersOf]
  by_cases member : id ∈ ids <;> simp [member]

theorem Retained.isSubscribed_other
    (retained : Retained f f' ids fun s => !s.isBoundTo receiver) (differs : other.id ≠ receiver.id)
    (id : ChannelId) : f'.isSubscribed id other = f.isSubscribed id other := by
  have kept : ∀ s : MessageSender, s.isBoundTo other = true → s.isBoundTo receiver = false := by
    intro s bound
    have same : s.id = other.id := by simpa [Sender.isBoundTo] using bound
    simpa [Sender.isBoundTo, same] using differs
  rw [Bool.eq_iff_iff, isSubscribed_iff, isSubscribed_iff, retained.sendersOf]
  by_cases member : id ∈ ids
  · simp only [member, ↓reduceIte, List.mem_filter, Bool.not_eq_eq_eq_not, Bool.not_true]
    constructor
    · intro found
      rcases found with ⟨s, ⟨inside, -⟩, bound⟩
      exact ⟨s, inside, bound⟩
    · intro found
      rcases found with ⟨s, inside, bound⟩
      exact ⟨s, ⟨inside, kept s bound⟩, bound⟩
  · simp [member]

end Retained

theorem unsubscribeNext_fst (receiver : MessageReceiver)
    (r : List (NotifierError M ChannelId) × NotifierHub M ChannelId) (id : ChannelId) :
    (unsubscribeNext receiver r id).1 =
      r.1 ++ if r.2.isSubscribed id receiver = true then [] else [.notSubscribed id] := by
  have answer : (r.2.unsubscribe id receiver).1 = _ := unsubscribe_answer
  unfold unsubscribeNext
  split
  next e f' left =>
    rw [left] at answer
    split at answer
    · cases answer
    · rw [if_neg ‹_›, Except.error.inj answer]
  next state f' left =>
    rw [left] at answer
    split at answer
    · rw [if_pos ‹_›, List.append_nil]
    · cases answer

/-- The errors of the loop: one for each position that is no hit. -/
theorem unsubscribe_errors (f : NotifierHub M ChannelId) (receiver : MessageReceiver)
    (ids : List ChannelId) :
    (ids.foldl (unsubscribeNext receiver) ([], f)).1 =
      (misses f receiver ids).map .notSubscribed := by
  -- The last turn finds the hub without the receiver in the channels of the earlier ones.
  induction ids using List.reverseRecOn with
  | nil => rfl
  | append_singleton ids id ih =>
    have left : Retained f (ids.foldl (unsubscribeNext receiver) ([], f)).2 ids
        fun s => !s.isBoundTo receiver := unsubscribeMultiple_retained f ids receiver
    rw [List.foldl_append, List.foldl_cons, List.foldl_nil, misses_concat, List.map_append, ← ih,
      unsubscribeNext_fst]
    by_cases hit : f.isSubscribed id receiver = true ∧ id ∉ ids
    · rw [if_pos hit, if_pos ((left.isSubscribed id).mpr hit)]
      rfl
    · rw [if_neg hit, if_neg (mt (left.isSubscribed id).mp hit)]
      rfl

theorem unsubscribeMultiple_answer (f : NotifierHub M ChannelId) (receiver : MessageReceiver)
    (ids : List ChannelId) :
    (f.unsubscribeMultiple ids receiver).1 =
      if ∀ k < ids.length, Hit f receiver ids k then .ok ()
      else .error (.notSubscribedMultiple ((misses f receiver ids).map .notSubscribed)) := by
  have errors := unsubscribe_errors f receiver ids
  unfold unsubscribeMultiple
  dsimp only
  rw [errors]
  by_cases all : ∀ k < ids.length, Hit f receiver ids k
  · rw [if_pos all, misses_eq_nil.mpr all]
    rfl
  · have some := mt misses_eq_nil.mp all
    rw [if_neg all, if_neg]
    simpa using some

/-- `unsubscribe_multiple` succeeds at the first position of each channel of the receiver, reports
    every other position, and takes the receiver out of all the channels of the list. -/
theorem unsubscribeMultiple_exact (f : NotifierHub M ChannelId) (ids : List ChannelId)
    (receiver : MessageReceiver) :
    let result := (f.unsubscribeMultiple ids receiver).1
    let f' := (f.unsubscribeMultiple ids receiver).2
    (result = .ok () ↔ ∀ k < ids.length, Hit f receiver ids k) ∧
      (result ≠ .ok () →
        result = .error (.notSubscribedMultiple ((misses f receiver ids).map .notSubscribed))) ∧
      (∀ kind, result ≠ .error (.unexpectedError kind)) ∧
      (∀ id ∈ ids, f'.isSubscribed id receiver = false) ∧
      (∀ id ∈ ids, f'.senders.lookup id =
        (f.senders.lookup id).map (List.filter fun s => !s.isBoundTo receiver)) ∧
      (∀ id, id ∉ ids → f'.senders.lookup id = f.senders.lookup id) ∧
      f'.creationSenders = f.creationSenders ∧ f'.connectionId = f.connectionId := by
  intro result f'
  have answer : result = _ := unsubscribeMultiple_answer f receiver ids
  have left : Retained f f' ids _ := unsubscribeMultiple_retained f ids receiver
  have outcome : (result = .ok () ↔ ∀ k < ids.length, Hit f receiver ids k) ∧
      (result ≠ .ok () →
        result = .error (.notSubscribedMultiple ((misses f receiver ids).map .notSubscribed))) ∧
      ∀ kind, result ≠ .error (.unexpectedError kind) := by
    rw [answer]
    split
    next all => exact ⟨by simpa using all, by simp, by simp⟩
    next some => exact ⟨by simpa using some, by simp, by simp⟩
  refine ⟨outcome.1, outcome.2.1, outcome.2.2, ?_, ?_, ?_, left.creations, left.counter⟩
  · intro id member
    by_contra subscribed
    exact ((left.isSubscribed id).mp (by simpa using subscribed)).2 member
  · intro id member
    rw [left.lookup, if_pos member]
  · intro id absent
    rw [left.lookup, if_neg absent]

section All

variable {f : NotifierHub M ChannelId} {receiver : MessageReceiver} {keys : List ChannelId}

theorem mem_subscribedList_of_lists (lists : Lists f keys) {id : ChannelId} :
    id ∈ f.subscribedList keys receiver ↔ f.isSubscribed id receiver = true := by
  rw [mem_subscribedList]
  constructor
  · intro given
    exact given.2
  · intro subscribed
    rcases isSubscribed_iff.mp subscribed with ⟨s, member, -⟩
    exact ⟨lists.mem (List.ne_nil_of_mem member), subscribed⟩

theorem hit_of_nodup {ids : List ChannelId} (once : ids.Nodup)
    (subscribed : ∀ id ∈ ids, f.isSubscribed id receiver = true) :
    ∀ k < ids.length, Hit f receiver ids k := by
  intro k below
  refine ⟨ids[k], List.getElem?_eq_getElem below, subscribed _ (List.getElem_mem below), ?_⟩
  intro earlier
  rcases List.mem_take_iff_getElem.mp earlier with ⟨j, before, same⟩
  have places := once.getElem_inj_iff.mp same
  omega

theorem subscribedList_hits (lists : Lists f keys) :
    (f.unsubscribeMultiple (f.subscribedList keys receiver) receiver).1 = .ok () := by
  rw [unsubscribeMultiple_answer, if_pos]
  apply hit_of_nodup (lists.1.filter _)
  intro id member
  exact (mem_subscribedList_of_lists lists).mp member

theorem unsubscribeAll_snd (f : NotifierHub M ChannelId) (receiver : MessageReceiver)
    (keys : List ChannelId) :
    (f.unsubscribeAll keys receiver).2 =
      (f.unsubscribeMultiple (f.subscribedList keys receiver) receiver).2 := by
  unfold unsubscribeAll
  dsimp only
  split
  next none =>
    rw [List.isEmpty_iff.mp none]
    rfl
  · rfl

/-- `unsubscribe_all` takes the receiver out of each of its channels, which it returns, and the call
    whose result it drops succeeds. -/
theorem unsubscribeAll_complete (f : NotifierHub M ChannelId) (receiver : MessageReceiver)
    (lists : Lists f keys) :
    let inner := f.unsubscribeMultiple (f.subscribedList keys receiver) receiver
    let returned := (f.unsubscribeAll keys receiver).1
    let f' := (f.unsubscribeAll keys receiver).2
    (inner.1 = .ok () ∧ inner.2 = f') ∧
      (returned.Nodup ∧ ∀ id, id ∈ returned ↔ f.isSubscribed id receiver = true) ∧
      (∀ keys', Lists f' keys' → f'.subscribedList keys' receiver = [] ∧
        f'.unsubscribeAll keys' receiver = ([], f')) ∧
      (∀ other : MessageReceiver, other.id ≠ receiver.id →
        ∀ id, f'.isSubscribed id other = f.isSubscribed id other) ∧
      (∀ id, f'.senders.lookup id =
        (f.senders.lookup id).map (List.filter fun s => !s.isBoundTo receiver)) ∧
      f'.creationSenders = f.creationSenders ∧ f'.connectionId = f.connectionId := by
  intro inner returned f'
  have left : Retained f f' (f.subscribedList keys receiver) _ :=
    (unsubscribeAll_snd f receiver keys) ▸ unsubscribeMultiple_retained f _ receiver
  have absent : ∀ id, f'.isSubscribed id receiver = false := by
    intro id
    by_contra subscribed
    rcases (left.isSubscribed id).mp (by simpa using subscribed) with ⟨before, unlisted⟩
    exact unlisted ((mem_subscribedList_of_lists lists).mpr before)
  have again : ∀ keys', f'.subscribedList keys' receiver = [] := by simp [subscribedList, absent]
  refine ⟨⟨subscribedList_hits lists, (unsubscribeAll_snd f receiver keys).symm⟩,
    ⟨lists.1.filter _, fun id => mem_subscribedList_of_lists lists⟩, ?_, ?_, ?_, left.creations,
    left.counter⟩
  · intro keys' _
    exact ⟨again keys', Prod.ext (again keys') (unsubscribeAll_foreign absent)⟩
  · intro other differs id
    exact left.isSubscribed_other differs id
  · intro id
    rw [(unsubscribeAll_retained f keys receiver).lookup]
    split
    · rfl
    next unlisted =>
      rw [Finmap.lookup_eq_none.mpr (mt lists.mem_iff.mpr unlisted)]
      rfl

end All

/-- A receiver of two channels, entered twice in one of them, and another receiver of both. -/
def entersTwice : List (Act Nat Nat) :=
  [.op (.subscribeMultiple [1, 2, 1]), .op (.subscribeMultiple [2, 1]), .op (.subscribe 3)]

theorem unsubscribeAll_complete_entered_twice :
    ∃ s receiver other f, exec Config.step (Config.new 7) entersTwice = some s ∧
      s.receivers[0]? = some receiver ∧ s.receivers[1]? = some other ∧
      s.hub.unsubscribeAll [3, 2, 1] receiver = ([2, 1], f) ∧
      f.subscribedList [3, 2, 1] receiver = [] ∧ f.isSubscribed 1 other = true := by
  obtain ⟨s, receiver, other, done, first, second, lists, list, lists', differs, subscribed⟩ :
      ∃ s : Config Nat Nat, ∃ receiver other : MessageReceiver,
        exec Config.step (Config.new 7) entersTwice = some s ∧
        s.receivers[0]? = some receiver ∧ s.receivers[1]? = some other ∧
        Lists s.hub [3, 2, 1] ∧ s.hub.subscribedList [3, 2, 1] receiver = [2, 1] ∧
        Lists (s.hub.unsubscribeAll [3, 2, 1] receiver).2 [3, 2, 1] ∧ other.id ≠ receiver.id ∧
        s.hub.isSubscribed 1 other = true :=
    ⟨_, ⟨⟨0, 7⟩, 0⟩, ⟨⟨1, 7⟩, 1⟩, rfl, rfl, rfl, by decide, by decide, by decide, by decide,
      by decide⟩
  have left := unsubscribeAll_complete s.hub receiver lists
  rcases left with ⟨-, -, again, kept, -⟩
  refine ⟨s, receiver, other, _, done, first, second, Prod.ext list rfl, (again _ lists').1, ?_⟩
  rw [kept other differs 1]
  exact subscribed

end AsyncForge.NotifierHub
