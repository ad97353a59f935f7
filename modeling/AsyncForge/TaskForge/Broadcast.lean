import AsyncForge.TaskForge.Delivery

/-! The redirections as a total-order broadcast of the outputs the listener accepts. -/

namespace AsyncForge.TaskForge

open AsyncForge.Channels AsyncForge.Removal AsyncForge.Runs

variable {Message Output : Type}

namespace Config

variable {s s' : Config Message Output} {a : Act Message Output}

/-- The value an iteration broadcasts, at the step in which `handle_ending_task` returns `Ok`. -/
def announced (s : Config Message Output) : Act Message Output → List (ForgeTaskEnded Output)
  | .clearIfDue =>
    match s.writer with
    | some (.closing ended) =>
      if s.losesCleaner .clearIfDue then []
      else [⟨ended.output, ended.id, s.forge.shouldClear⟩]
    | _ => []
  | _ => []

def announcements (trace : List (Config Message Output × Act Message Output)) :
    List (ForgeTaskEnded Output) := trace.flatMap fun e => e.1.announced e.2

/-- The guard is granted to the call that makes the redirection number `receiver`. -/
def Redirects (receiver : Nat) (s : Config Message Output) (a : Act Message Output) : Prop :=
  s.results.length = receiver ∧
    ∃ i : Nat, a = .enter i ∧ s.calls[i]? = some ⟨.newResultRedirection, .locking⟩

/-- What the iteration under way has still to send to the redirection. -/
def owed (s : Config Message Output) (receiver : Nat) : List (ForgeTaskEnded Output) :=
  match s.writer with
  | some (.broadcasting ended hasCleared i _) =>
    if receiver ∈ s.forge.outputResultSenders.drop i then [⟨ended.output, ended.id, hasCleared⟩]
    else []
  | _ => []

def got (s : Config Message Output) (receiver : Nat) : Option (List (ForgeTaskEnded Output)) :=
  match s.results[receiver]? with
  | some chan => if chan.closed then none else some (chan.sent ++ s.owed receiver)
  | none => none

theorem got_eq_some {receiver : Nat} {l : List (ForgeTaskEnded Output)} :
    s.got receiver = some l ↔ ∃ chan, s.results[receiver]? = some chan ∧ chan.closed = false ∧
      chan.sent ++ s.owed receiver = l := by
  unfold got
  rcases s.results[receiver]? with _ | chan
  · simp
  · cases shut : chan.closed <;> simp [shut]

theorem owed_of_writer {receiver : Nat}
    (idle : ∀ ended hasCleared i sendersToRemove,
      s.writer ≠ some (.broadcasting ended hasCleared i sendersToRemove)) :
    s.owed receiver = [] := by
  unfold owed
  split
  next ended hasCleared i sendersToRemove inside => exact absurd inside (idle _ _ _ _)
  · rfl

theorem got_same {receiver : Nat} {l : List (ForgeTaskEnded Output)}
    (holds : s'.got receiver = some l) (silent : s.announced a = [])
    (results : s'.results = s.results) (owed : s'.owed receiver = s.owed receiver) :
    ∃ before, s.got receiver = some before ∧ l = before ++ s.announced a := by
  refine ⟨l, ?_, by simp [silent]⟩
  simpa only [got, results, owed] using holds

theorem got_modify {receiver changed : Nat} {l : List (ForgeTaskEnded Output)}
    {f : Chan (ForgeTaskEnded Output) → Chan (ForgeTaskEnded Output)}
    (silent : s.announced a = []) (sent : ∀ chan, (f chan).sent = chan.sent)
    (opened : ∀ chan, (f chan).closed = false → chan.closed = false)
    (holds : got { s with results := s.results.modify changed f } receiver = some l) :
    ∃ before, s.got receiver = some before ∧ l = before ++ s.announced a := by
  refine ⟨l, ?_, by simp [silent]⟩
  rcases got_eq_some.mp holds with ⟨chan, found, kept, rfl⟩
  rw [List.getElem?_modify] at found
  rcases Option.map_eq_some_iff.mp found with ⟨old, place, rfl⟩
  refine got_eq_some.mpr ⟨old, place, ?_, ?_⟩
  · by_cases same : changed = receiver
    · exact opened old (by simpa [same] using kept)
    · simpa [same] using kept
  · by_cases same : changed = receiver
    · simp only [same, ↓reduceIte, sent]
      rfl
    · simp only [same, ↓reduceIte]
      rfl

theorem got_redirected {i receiver : Nat} {l : List (ForgeTaskEnded Output)}
    (free : s.writer = none)
    (called : s.calls[i]? = some ⟨.newResultRedirection, .locking⟩)
    (holds : (s.newResultRedirection i).got receiver = some l) :
    (s.Redirects receiver (.enter i) ∧ l = []) ∨
      ∃ before, s.got receiver = some before ∧ l = before ++ s.announced (.enter i) := by
  have idle : (s.newResultRedirection i).owed receiver = [] :=
    owed_of_writer fun _ _ _ _ => by simp [newResultRedirection, free]
  rcases got_eq_some.mp holds with ⟨chan, found, kept, rfl⟩
  rw [idle]
  simp only [newResultRedirection, getElem?_concat] at found
  split at found
  next same =>
    obtain rfl := Option.some.inj found
    exact .inl ⟨⟨same.symm, i, rfl, called⟩, rfl⟩
  next other =>
    have before : s.owed receiver = [] := owed_of_writer fun _ _ _ _ => by simp [free]
    exact .inr ⟨chan.sent, got_eq_some.mpr ⟨chan, found, kept, by simp [before]⟩,
      by simp [announced]⟩

theorem got_announced {receiver : Nat} {l : List (ForgeTaskEnded Output)}
    {ended : TaskOutput Output} {hasCleared : Bool} (wired : s.Wired)
    (holds : s'.got receiver = some l)
    (inside : s.writer = some (.closing ended))
    (tells : s.announced a = [⟨ended.output, ended.id, hasCleared⟩])
    (results : s'.results = s.results)
    (senders : s'.forge.outputResultSenders = s.forge.outputResultSenders)
    (writer : s'.writer = some (.broadcasting ended hasCleared 0 [])) :
    ∃ before, s.got receiver = some before ∧ l = before ++ s.announced a := by
  rcases got_eq_some.mp holds with ⟨chan, found, opened, rfl⟩
  rw [results] at found
  have idle : s.owed receiver = [] := owed_of_writer fun _ _ _ _ => by simp [inside]
  have member := wired.registered receiver chan found opened
  refine ⟨chan.sent, got_eq_some.mpr ⟨chan, found, opened, by simp [idle]⟩, ?_⟩
  simp [owed, writer, senders, member, tells]

theorem got_refused {receiver : Nat} {l : List (ForgeTaskEnded Output)}
    {ended : TaskOutput Output} {hasCleared : Bool} {i : Nat} {sendersToRemove : List Nat}
    {sender : OutputSender} {chan : Chan (ForgeTaskEnded Output)}
    (inside : s.writer = some (.broadcasting ended hasCleared i sendersToRemove))
    (current : s.forge.outputResultSenders[i]? = some sender)
    (present : s.results[sender]? = some chan) (closed : chan.closed = true)
    (holds : got { s with
      writer := some (.broadcasting ended hasCleared (i + 1) (sendersToRemove ++ [i])) }
        receiver = some l) :
    ∃ before, s.got receiver = some before ∧ l = before ++ s.announced .broadcast := by
  rcases got_eq_some.mp holds with ⟨now, found, opened, rfl⟩
  have other : receiver ≠ sender := by
    intro same
    subst same
    obtain rfl := Option.some.inj (present.symm.trans found)
    exact absurd (closed.symm.trans opened) (by decide)
  have rest : s.forge.outputResultSenders.drop i =
      sender :: s.forge.outputResultSenders.drop (i + 1) := by
    rw [← List.getElem_cons_drop (getElem?_lt current),
      (List.getElem?_eq_some_iff.mp current).2]
  refine ⟨_, got_eq_some.mpr ⟨now, found, opened, rfl⟩, ?_⟩
  simp [owed, inside, rest, other, announced]

theorem Wired.sends_once (wired : s.Wired) {i : Nat} {sender : OutputSender}
    (current : s.forge.outputResultSenders[i]? = some sender) :
    sender ∉ s.forge.outputResultSenders.drop (i + 1) := by
  have distinct := wired.distinct.sublist (List.drop_sublist i _)
  rw [← List.getElem_cons_drop (getElem?_lt current),
    (List.getElem?_eq_some_iff.mp current).2] at distinct
  exact (List.nodup_cons.mp distinct).1

theorem got_sent {receiver : Nat} {l : List (ForgeTaskEnded Output)}
    {ended : TaskOutput Output} {hasCleared : Bool} {i : Nat} {sendersToRemove : List Nat}
    {sender : OutputSender} (wired : s.Wired)
    (inside : s.writer = some (.broadcasting ended hasCleared i sendersToRemove))
    (current : s.forge.outputResultSenders[i]? = some sender)
    (holds : got { s with
      results := s.results.modify sender (·.push ⟨ended.output, ended.id, hasCleared⟩)
      writer := some (.broadcasting ended hasCleared (i + 1) sendersToRemove) }
        receiver = some l) :
    ∃ before, s.got receiver = some before ∧ l = before ++ s.announced .broadcast := by
  rcases got_eq_some.mp holds with ⟨now, found, opened, rfl⟩
  have rest : s.forge.outputResultSenders.drop i =
      sender :: s.forge.outputResultSenders.drop (i + 1) := by
    rw [← List.getElem_cons_drop (getElem?_lt current),
      (List.getElem?_eq_some_iff.mp current).2]
  have once := wired.sends_once current
  rw [List.getElem?_modify] at found
  rcases Option.map_eq_some_iff.mp found with ⟨old, place, rfl⟩
  by_cases same : sender = receiver
  · subst same
    refine ⟨_, got_eq_some.mpr ⟨old, place, by simpa using opened, rfl⟩, ?_⟩
    simp [owed, inside, rest, once, announced]
  · refine ⟨_, got_eq_some.mpr ⟨old, place, by simpa [same] using opened, rfl⟩, ?_⟩
    simp [owed, inside, rest, same, Ne.symm same, announced]

theorem got_step (wired : s.Wired) (taken : s.step a = some s') {receiver : Nat}
    {l : List (ForgeTaskEnded Output)} (holds : s'.got receiver = some l) :
    (s.Redirects receiver a ∧ l = []) ∨
      ∃ before, s.got receiver = some before ∧ l = before ++ s.announced a := by
  cases step_moves taken with
  | redirect free unread called => exact got_redirected free called holds
  | waitRegisters free unread called waits state =>
    refine .inr (got_same holds rfl rfl ?_)
    simp [owed, free]
  | waitRunning | wakeCreated =>
    rw [created_eq] at holds
    exact .inr (got_same holds rfl rfl rfl)
  | @notDue ended inside due =>
    have tells : s.announced .clearIfDue = [⟨ended.output, ended.id, false⟩] := by
      simp [announced, inside, losesCleaner, due]
    exact .inr (got_announced wired holds inside tells rfl rfl rfl)
  | @clearNotified ended notifier awaited chan inside due pending present opened room =>
    have tells : s.announced .clearIfDue = [⟨ended.output, ended.id, true⟩] := by
      simp [announced, inside, losesCleaner, due, pending, present, opened]
    exact .inr (got_announced wired holds inside tells rfl rfl rfl)
  | clearLost inside due pending present closed =>
    refine .inr (got_same holds ?_ rfl ?_)
    · simp [announced, inside, losesCleaner, due, pending, present, closed]
    · simp [owed, inside]
  | broadcastClosed inside current present closed =>
    exact .inr (got_refused inside current present closed holds)
  | broadcastOpen inside current present opened room =>
    exact .inr (got_sent wired inside current holds)
  | prune inside ends removed =>
    refine .inr (got_same holds rfl rfl ?_)
    simp [owed, inside, ends]
  | receiveResult changed =>
    exact .inr (got_modify rfl Chan.sent_pop (fun chan opened => opened) holds)
  | closeResult changed =>
    exact .inr (got_modify rfl Chan.sent_close (fun chan opened => by cases opened) holds)
  | newTaskStart free unread called running =>
    refine .inr (got_same holds rfl rfl ?_)
    simp [owed, free]
  | notifyClosed inside | notifyOpen inside | begin capacity inside | reportLogged inside
  | reportSent inside =>
    refine .inr (got_same holds rfl rfl ?_)
    simp [owed, inside]
  | handleClosed pulled free unread closed =>
    refine .inr (got_same holds rfl rfl ?_)
    simp [owed, free]
  | handleRunning pulled free unread running =>
    refine .inr (got_same holds rfl rfl ?_)
    simp [owed, free]
  | _ => exact .inr (got_same holds rfl rfl rfl)

variable {trace : List (Config Message Output × Act Message Output)}

theorem got_run (run : Run step Config.new trace s) {receiver : Nat}
    {l : List (ForgeTaskEnded Output)} (holds : s.got receiver = some l) :
    ∃ past t a later, trace = past ++ (t, a) :: later ∧ t.Redirects receiver a ∧
      l = announcements later := by
  have change : ∀ (t : Config Message Output) b t' m, t.Wired → t.step b = some t' →
      t'.got receiver = some m → (t.Redirects receiver b ∧ m = []) ∨
        ∃ before, t.got receiver = some before ∧ m = before ++ t.announced b :=
    fun _ _ _ _ wired taken holds => got_step wired taken holds
  exact run.since_birth (fun _ _ _ wired taken => wired.step taken) change wired_new
    (by simp [got, Config.new]) holds

theorem results_grow (taken : s.step a = some s') : s.results.length ≤ s'.results.length := by
  cases step_moves taken with
  | redirect free unread called => simp [newResultRedirection]
  | waitRunning | wakeCreated => rw [created_eq]
  | broadcastOpen inside current present opened room => simp
  | receiveResult changed => simp
  | closeResult changed => simp [closeAt]
  | _ => exact Nat.le_refl _

theorem results_grow_run {t : Config Message Output} (run : Run step s trace t) :
    s.results.length ≤ t.results.length := by
  induction run with
  | nil => exact Nat.le_refl _
  | snoc _ last ih => exact Nat.le_trans ih (results_grow last)

theorem Redirects.registered {receiver : Nat} (redirects : s.Redirects receiver a)
    (taken : s.step a = some s') : receiver < s'.results.length := by
  rcases redirects with ⟨rfl, i, rfl, called⟩
  cases step_moves taken with
  | redirect free unread _ => simp [newResultRedirection]
  | _ => simp_all

/-- Of two redirections the one made first was made before the other. -/
theorem later_suffix (run : Run step Config.new trace s) {receiver receiver' : Nat}
    (earlier : receiver < receiver')
    {past past' later later' : List (Config Message Output × Act Message Output)}
    {t t' : Config Message Output} {b b' : Act Message Output}
    (cut : trace = past ++ (t, b) :: later) (redirects : t.Redirects receiver b)
    (cut' : trace = past' ++ (t', b') :: later') (redirects' : t'.Redirects receiver' b') :
    later' <:+ later := by
  have apart : (t, b) ≠ (t', b') := by
    intro same
    cases same
    exact Nat.ne_of_lt earlier (redirects.1.symm.trans redirects'.1)
  rcases List.append_eq_append_iff.mp (cut.symm.trans cut') with
    ⟨middle, rfl, rest⟩ | ⟨middle, rfl, rest⟩
  · cases middle with
    | nil => exact absurd (List.cons.inj rest).1 apart
    | cons e middle =>
      rw [(List.cons.inj rest).2]
      exact ⟨middle ++ [(t', b')], by simp⟩
  · cases middle with
    | nil => exact absurd (List.cons.inj rest).1.symm apart
    | cons e middle =>
      obtain rfl := (List.cons.inj rest).1
      rw [cut] at run
      rcases run.split with ⟨_, before, -, -⟩
      rcases before.split with ⟨u, -, taken, between⟩
      have above := redirects'.registered taken
      have grown := results_grow_run between
      have number := redirects.1
      omega

theorem announcements_suffix
    {later later' : List (Config Message Output × Act Message Output)}
    (suffix : later' <:+ later) : announcements later' <:+ announcements later := by
  rcases suffix with ⟨front, rfl⟩
  exact ⟨announcements front, by simp [announcements]⟩

theorem owed_of_listener_out (between : s.writer.any Section.ofListener = false) (receiver : Nat) :
    s.owed receiver = [] := by
  apply owed_of_writer
  intro ended hasCleared i sendersToRemove inside
  simp [inside, Section.ofListener] at between

/-- A send of the broadcast loop and whether it succeeds. -/
def sends (s : Config Message Output) : Act Message Output → List (OutputSender × Bool)
  | .broadcast =>
    match s.writer with
    | some (.broadcasting _ _ i _) =>
      match s.forge.outputResultSenders[i]? with
      | some sender => [(sender, (s.results[sender]?).any fun chan => !chan.closed)]
      | none => []
    | _ => []
  | _ => []

def sendsOf (pass : List (Config Message Output × Act Message Output)) :
    List (OutputSender × Bool) := pass.flatMap fun e => e.1.sends e.2

def succeeded (sent : List (OutputSender × Bool)) : List OutputSender :=
  (sent.filter Prod.snd).map Prod.fst

/-- The broadcast loop after these sends. -/
structure Passing (ended : TaskOutput Output) (hasCleared : Bool) (i : Nat)
    (sendersToRemove : List Nat) (sent : List (OutputSender × Bool))
    (s : Config Message Output) : Prop where
  inside : s.writer = some (.broadcasting ended hasCleared i sendersToRemove)
  tried : sent.map Prod.fst = s.forge.outputResultSenders.take i
  kept : dropAt sendersToRemove 0 (s.forge.outputResultSenders.take i) = succeeded sent

variable {ended : TaskOutput Output} {hasCleared : Bool} {i : Nat} {sendersToRemove : List Nat}
  {sent : List (OutputSender × Bool)}

theorem Passing.of_same (inv : Passing ended hasCleared i sendersToRemove sent s)
    (silent : s.sends a = []) (writer : s'.writer = s.writer)
    (senders : s'.forge.outputResultSenders = s.forge.outputResultSenders) :
    Passing ended hasCleared i sendersToRemove (sent ++ s.sends a) s' := by
  rw [silent, List.append_nil]
  exact ⟨writer.trans inv.inside, by rw [senders]; exact inv.tried,
    by rw [senders]; exact inv.kept⟩

theorem take_succ_of {T : Type} {rows : List T} {row : T} {i : Nat}
    (current : rows[i]? = some row) : rows.take (i + 1) = rows.take i ++ [row] := by
  rw [List.take_add_one, current]
  rfl

theorem Passing.step (inv : Passing ended hasCleared i sendersToRemove sent s) (wired : s.Wired)
    (stays : a ≠ .prune) (taken : s.step a = some s') :
    ∃ i' sendersToRemove',
      Passing ended hasCleared i' sendersToRemove' (sent ++ s.sends a) s' := by
  have inside := inv.inside
  cases step_moves taken with
  | @broadcastClosed ended' hasCleared' i' sendersToRemove' sender chan within current present
      closed =>
    rw [inside] at within
    cases within
    have sending : s.sends .broadcast = [(sender, false)] := by
      simp [sends, inside, current, present, closed]
    have below := wired.collected _ _ _ _ inside
    have front : (s.forge.outputResultSenders.take i).length = i :=
      List.length_take_of_le (Nat.le_of_lt (getElem?_lt current))
    refine ⟨i + 1, sendersToRemove ++ [i], rfl, ?_, ?_⟩
    · simp [sending, inv.tried, take_succ_of current]
    · have same : dropAt (sendersToRemove ++ [i]) 0 (s.forge.outputResultSenders.take i) =
          dropAt sendersToRemove 0 (s.forge.outputResultSenders.take i) := by
        apply dropAt_congr
        intro j _ high
        have other : j ≠ i := by omega
        simp [other]
      rw [take_succ_of current, dropAt_append, same, inv.kept, front, Nat.zero_add, sending]
      simp [dropAt, succeeded]
  | @broadcastOpen ended' hasCleared' i' sendersToRemove' sender chan within current present
      opened room =>
    rw [inside] at within
    cases within
    have sending : s.sends .broadcast = [(sender, true)] := by
      simp [sends, inside, current, present, opened]
    have below : i ∉ sendersToRemove := fun member =>
      Nat.lt_irrefl _ (wired.collected _ _ _ _ inside i member).1
    have front : (s.forge.outputResultSenders.take i).length = i :=
      List.length_take_of_le (Nat.le_of_lt (getElem?_lt current))
    refine ⟨i + 1, sendersToRemove, rfl, ?_, ?_⟩
    · simp [sending, inv.tried, take_succ_of current]
    · rw [take_succ_of current, dropAt_append, inv.kept, front, Nat.zero_add, sending]
      simp [dropAt, succeeded, below]
  | prune => exact absurd rfl stays
  | newTaskStart free | waitRegisters free | redirect free | cleanCleared free
  | cleanRequests free => cases free.symm.trans inside
  | waitRunning free => cases free.symm.trans inside
  | handleClosed pulled free => cases free.symm.trans inside
  | handleRunning pulled free => cases free.symm.trans inside
  | notifyClosed within | notifyOpen within | begin capacity within | notDue within
  | clearLost within | clearNotified within | reportLogged within | reportSent within =>
    rw [inside] at within
    cases within
  | @wakeCreated j id op waiter task chan rest called present buffered =>
    exact ⟨i, sendersToRemove, inv.of_same rfl (created_writer _ _ _) (by rw [created_forge])⟩
  | _ => exact ⟨i, sendersToRemove, inv.of_same rfl rfl rfl⟩

variable {pass : List (Config Message Output × Act Message Output)} {t : Config Message Output}

theorem passing_run (wired : s.Wired)
    (inside : s.writer = some (.broadcasting ended hasCleared 0 [])) (run : Run step s pass t)
    (stays : Along (fun _ b => b ≠ .prune) pass) :
    ∃ i sendersToRemove, Passing ended hasCleared i sendersToRemove (sendsOf pass) t := by
  induction run with
  | nil => exact ⟨0, [], inside, rfl, rfl⟩
  | snoc before last ih =>
    rcases along_snoc.mp stays with ⟨past, now⟩
    rcases ih past with ⟨i, sendersToRemove, inv⟩
    have known := before.invariant (fun _ _ _ known taken => Wired.step known taken) wired
    have next := inv.step known now last
    simpa [sendsOf] using next

theorem Passing.removal (inv : Passing ended hasCleared i sendersToRemove sent s)
    (wired : s.Wired) :
    sendersToRemove.reverse.foldlM remove? s.forge.outputResultSenders =
      some (succeeded sent ++ s.forge.outputResultSenders.drop i) := by
  have below : ∀ j ∈ sendersToRemove, j < i := fun j member =>
    (wired.collected _ _ _ _ inv.inside j member).1
  have reached := wired.reached _ _ _ _ inv.inside
  rw [remove_reverse (wired.sorted _ _ _ _ inv.inside)
    fun j member => Nat.lt_of_lt_of_le (below j member) reached]
  have front : (s.forge.outputResultSenders.take i).length = i := List.length_take_of_le reached
  have cut : dropAt sendersToRemove 0
      (s.forge.outputResultSenders.take i ++ s.forge.outputResultSenders.drop i) =
      succeeded sent ++ s.forge.outputResultSenders.drop i := by
    rw [dropAt_append, inv.kept, front, Nat.zero_add, dropAt_of_below below]
  rw [List.take_append_drop] at cut
  rw [cut]

theorem Passing.refused_dropped (inv : Passing ended hasCleared i sendersToRemove sent s)
    (wired : s.Wired) (receiver : OutputSender) (refused : (receiver, false) ∈ sent) :
    receiver ∉ succeeded sent := by
  intro member
  rcases List.mem_map.mp member with ⟨⟨_, _⟩, kept, rfl⟩
  rcases List.mem_filter.mp kept with ⟨listed, rfl⟩
  have distinct : (sent.map Prod.fst).Nodup := by
    rw [inv.tried]
    exact wired.distinct.sublist (List.take_sublist _ _)
  cases List.inj_on_of_nodup_map distinct refused listed rfl

/-- Between the iterations of the listener, what every open redirection has received and holds in
    its buffer is exactly what the iterations since its registration announced, so the later of two
    redirections has a suffix of the earlier one's. A pass of the broadcast loop tries every sender
    once, in order; its removal loop never leaves the bounds and keeps exactly the senders whose
    send succeeded, among them every open one. -/
theorem redirections_broadcast_in_order (run : Run step Config.new trace s) :
    (s.writer.any Section.ofListener = false →
      (∀ (receiver : Nat) chan, s.results[receiver]? = some chan → chan.closed = false →
        ∃ past t a later, trace = past ++ (t, a) :: later ∧ t.Redirects receiver a ∧
          chan.received ++ chan.buffer = announcements later) ∧
      ∀ (receiver receiver' : Nat) chan chan', receiver < receiver' →
        s.results[receiver]? = some chan → chan.closed = false →
        s.results[receiver']? = some chan' → chan'.closed = false →
          chan'.received ++ chan'.buffer <:+ chan.received ++ chan.buffer) ∧
    ∀ s₁ pass t ended hasCleared, s.step .clearIfDue = some s₁ →
      s₁.writer = some (.broadcasting ended hasCleared 0 []) → Run step s₁ pass t →
      Along (fun _ b => b ≠ .prune) pass →
        ∃ i sendersToRemove, t.writer = some (.broadcasting ended hasCleared i sendersToRemove) ∧
          (sendsOf pass).map Prod.fst = t.forge.outputResultSenders.take i ∧
          sendersToRemove.reverse.foldlM remove? t.forge.outputResultSenders =
            some (succeeded (sendsOf pass) ++ t.forge.outputResultSenders.drop i) ∧
          (i = t.forge.outputResultSenders.length →
            ∃ t', t.step .prune = some t' ∧
              t'.forge.outputResultSenders = succeeded (sendsOf pass) ∧
              (∀ (receiver : Nat) chan, t'.results[receiver]? = some chan →
                chan.closed = false → receiver ∈ t'.forge.outputResultSenders) ∧
              ∀ receiver, (receiver, false) ∈ sendsOf pass →
                receiver ∉ t'.forge.outputResultSenders) := by
  have wired := wired_reachable run.reachable
  have heard : s.writer.any Section.ofListener = false → ∀ (receiver : Nat) chan,
      s.results[receiver]? = some chan → chan.closed = false →
        ∃ past t a later, trace = past ++ (t, a) :: later ∧ t.Redirects receiver a ∧
          chan.received ++ chan.buffer = announcements later := by
    intro between receiver chan found opened
    have holds : s.got receiver = some (chan.sent ++ []) :=
      got_eq_some.mpr ⟨chan, found, opened, by rw [owed_of_listener_out between]⟩
    rcases got_run run holds with ⟨past, t, a, later, cut, redirects, same⟩
    exact ⟨past, t, a, later, cut, redirects, by simpa [Chan.sent] using same⟩
  refine ⟨fun between => ⟨heard between, ?_⟩, ?_⟩
  · intro receiver receiver' chan chan' earlier found opened found' opened'
    rcases heard between receiver chan found opened with ⟨past, t, a, later, cut, redirects, same⟩
    rcases heard between receiver' chan' found' opened' with
      ⟨past', t', a', later', cut', redirects', same'⟩
    rw [same, same']
    exact announcements_suffix (later_suffix run earlier cut redirects cut' redirects')
  · intro s₁ pass t ended hasCleared due inside passes stays
    have started := wired.step due
    rcases passing_run started inside passes stays with ⟨i, sendersToRemove, passing⟩
    have known := passes.invariant (fun _ _ _ known taken => Wired.step known taken) started
    have removed := passing.removal known
    refine ⟨i, sendersToRemove, passing.inside, passing.tried, removed, fun ends => ?_⟩
    rw [List.drop_eq_nil_of_le (Nat.le_of_eq ends.symm), List.append_nil] at removed
    have pruned : t.step .prune = some { t with
        forge := { t.forge with outputResultSenders := succeeded (sendsOf pass) }
        writer := none } := by
      simp [Config.step, Config.prune, passing.inside, ends, removed]
    exact ⟨_, pruned, rfl, (known.step pruned).registered, passing.refused_dropped known⟩

def registersTwice : List (Act Nat Nat) :=
  [.call .newResultRedirection, .enter 0, .call .newResultRedirection, .enter 1] ++
    creates 2 1 ++ echoes 3 1 0 10 ++ [.closeResult 1, .take, .handle]

theorem redirections_broadcast_to_two :
    ∃ s s₁ t t', exec step Config.new registersTwice = some s ∧ s.step .clearIfDue = some s₁ ∧
      exec step s₁ [.broadcast, .broadcast] = some t ∧ t.step .prune = some t' ∧
      t'.forge.outputResultSenders = [0] := by
  rcases (redirections_broadcast_in_order (run_of_exec registersTwice rfl)).2 _ _ _ _ _ rfl rfl
    (run_of_exec [.broadcast, .broadcast] rfl) (by decide) with ⟨i, _, inside, -, -, prunes⟩
  cases inside
  rcases prunes rfl with ⟨t', pruned, kept, -⟩
  exact ⟨_, _, _, t', rfl, rfl, rfl, pruned, kept.trans (by decide)⟩

end Config

end AsyncForge.TaskForge
