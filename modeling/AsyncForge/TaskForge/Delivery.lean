import AsyncForge.TaskForge.CleaningRequests

namespace AsyncForge.TaskForge

open AsyncForge.Channels AsyncForge.Removal AsyncForge.Runs

variable {Message Output : Type}

namespace Config

variable {s s' : Config Message Output} {a : Act Message Output}

/-- Every open redirection is registered once, and the places the broadcast loop has collected are
    those of closed ones. -/
structure Wired (s : Config Message Output) : Prop where
  distinct : s.forge.outputResultSenders.Nodup
  present : ∀ sender ∈ s.forge.outputResultSenders, sender < s.results.length
  registered : ∀ (receiver : Nat) chan, s.results[receiver]? = some chan → chan.closed = false →
    receiver ∈ s.forge.outputResultSenders
  reached : ∀ ended hasCleared i sendersToRemove,
    s.writer = some (.broadcasting ended hasCleared i sendersToRemove) →
      i ≤ s.forge.outputResultSenders.length
  sorted : ∀ ended hasCleared i sendersToRemove,
    s.writer = some (.broadcasting ended hasCleared i sendersToRemove) →
      sendersToRemove.Pairwise (· < ·)
  collected : ∀ ended hasCleared i sendersToRemove,
    s.writer = some (.broadcasting ended hasCleared i sendersToRemove) →
      ∀ j ∈ sendersToRemove, j < i ∧ ∃ (sender : Nat) (chan : Chan (ForgeTaskEnded Output)),
        s.forge.outputResultSenders[j]? = some sender ∧ s.results[sender]? = some chan ∧
          chan.closed = true

theorem wired_new : (Config.new : Config Message Output).Wired := by
  constructor <;> simp [Config.new, WrappedTaskForge.new]

theorem Wired.of_same (inv : s.Wired)
    (senders : s'.forge.outputResultSenders = s.forge.outputResultSenders)
    (results : s'.results = s.results)
    (writer : s'.writer = s.writer ∨
      ∀ ended hasCleared i sendersToRemove,
        s'.writer = some (.broadcasting ended hasCleared i sendersToRemove) →
          i = 0 ∧ sendersToRemove = []) : s'.Wired := by
  constructor
  · rw [senders]; exact inv.distinct
  · rw [senders, results]; exact inv.present
  · rw [senders, results]; exact inv.registered
  all_goals
    intro ended hasCleared i sendersToRemove inside
    rcases writer with same | starts
  · rw [senders]; exact inv.reached _ _ _ _ (same ▸ inside)
  · rcases starts _ _ _ _ inside with ⟨rfl, -⟩
    exact Nat.zero_le _
  · exact inv.sorted _ _ _ _ (same ▸ inside)
  · rcases starts _ _ _ _ inside with ⟨-, rfl⟩
    exact .nil
  · rw [senders, results]; exact inv.collected _ _ _ _ (same ▸ inside)
  · rcases starts _ _ _ _ inside with ⟨-, rfl⟩
    simp

theorem Wired.modify (inv : s.Wired) {receiver : Nat}
    {f : Chan (ForgeTaskEnded Output) → Chan (ForgeTaskEnded Output)}
    (closed : ∀ chan, chan.closed = true → (f chan).closed = true) :
    Wired { s with results := s.results.modify receiver f } := by
  have kept : ∀ (i : Nat) chan, (s.results.modify receiver f)[i]? = some chan →
      ∃ old, s.results[i]? = some old ∧ (old.closed = true → chan.closed = true) := by
    intro i chan found
    rw [List.getElem?_modify] at found
    rcases Option.map_eq_some_iff.mp found with ⟨old, before, rfl⟩
    refine ⟨old, before, fun was => ?_⟩
    split
    · exact closed old was
    · exact was
  constructor
  · exact inv.distinct
  · intro sender member
    simpa using inv.present sender member
  · intro i chan found opened
    rcases kept i chan found with ⟨old, before, was⟩
    apply inv.registered i old before
    by_contra shut
    rw [was (by simpa using shut)] at opened
    cases opened
  · exact inv.reached
  · exact inv.sorted
  · intro ended hasCleared i sendersToRemove inside j member
    obtain ⟨below, sender, chan, place, found, shut⟩ :=
      inv.collected ended hasCleared i sendersToRemove inside j member
    refine ⟨below, sender, if receiver = sender then f chan else chan, place, ?_, ?_⟩
    · rw [List.getElem?_modify, found]
      rfl
    · split
      · exact closed chan shut
      · exact shut

theorem Wired.redirect (inv : s.Wired) (free : s.writer = none) (i : Nat) :
    (s.newResultRedirection i).Wired := by
  constructor
  · refine List.nodup_append.mpr ⟨inv.distinct, by simp, ?_⟩
    intro sender member fresh last same
    subst same
    have bound := inv.present sender member
    exact absurd (List.mem_singleton.mp last) (Nat.ne_of_lt bound)
  · intro sender member
    rcases List.mem_append.mp member with member | member
    · exact Nat.lt_of_lt_of_le (inv.present sender member) (by simp [newResultRedirection])
    · simp [newResultRedirection, List.mem_singleton.mp member]
  · intro receiver chan found opened
    simp only [newResultRedirection, getElem?_concat] at found
    split at found
    next same => exact List.mem_append_right _ (List.mem_singleton.mpr same)
    next other => exact List.mem_append_left _ (inv.registered receiver chan found opened)
  all_goals
    intro ended hasCleared j sendersToRemove inside
    exact absurd (free.symm.trans inside) (by simp)

theorem Wired.broadcastClosed (inv : s.Wired) {ended : TaskOutput Output} {hasCleared : Bool}
    {i : Nat} {sendersToRemove : List Nat} {sender : OutputSender}
    {chan : Chan (ForgeTaskEnded Output)}
    (inside : s.writer = some (.broadcasting ended hasCleared i sendersToRemove))
    (current : s.forge.outputResultSenders[i]? = some sender)
    (found : s.results[sender]? = some chan) (closed : chan.closed = true) :
    Wired { s with
      writer := some (.broadcasting ended hasCleared (i + 1) (sendersToRemove ++ [i])) } := by
  have before := inv.collected _ _ _ _ inside
  constructor
  · exact inv.distinct
  · exact inv.present
  · exact inv.registered
  · intro _ _ _ _ same
    cases same
    exact getElem?_lt current
  · intro _ _ _ _ same
    cases same
    refine List.pairwise_append.mpr ⟨inv.sorted _ _ _ _ inside, by simp, ?_⟩
    intro j member k last
    obtain rfl := List.mem_singleton.mp last
    exact (before j member).1
  · intro _ _ _ _ same j member
    cases same
    rcases List.mem_append.mp member with member | member
    · exact ⟨Nat.lt_succ_of_lt (before j member).1, (before j member).2⟩
    · obtain rfl := List.mem_singleton.mp member
      exact ⟨Nat.lt_succ_self j, sender, chan, current, found, closed⟩

theorem Wired.broadcastOpen (inv : s.Wired) {ended : TaskOutput Output} {hasCleared : Bool}
    {i : Nat} {sendersToRemove : List Nat} {sender : OutputSender}
    (inside : s.writer = some (.broadcasting ended hasCleared i sendersToRemove))
    (current : s.forge.outputResultSenders[i]? = some sender) (m : ForgeTaskEnded Output) :
    Wired { s with
      results := s.results.modify sender (·.push m)
      writer := some (.broadcasting ended hasCleared (i + 1) sendersToRemove) } := by
  have pushed : Wired { s with results := s.results.modify sender (·.push m) } :=
    inv.modify fun _ shut => shut
  constructor
  · exact pushed.distinct
  · exact pushed.present
  · exact pushed.registered
  · intro _ _ _ _ same
    cases same
    exact getElem?_lt current
  · intro _ _ _ _ same
    cases same
    exact inv.sorted _ _ _ _ inside
  · intro _ _ _ _ same j member
    cases same
    rcases pushed.collected _ _ _ _ inside j member with ⟨below, rest⟩
    exact ⟨Nat.lt_succ_of_lt below, rest⟩

theorem Wired.kept (inv : s.Wired) {ended : TaskOutput Output} {hasCleared : Bool} {i : Nat}
    {sendersToRemove : List Nat} {kept : List OutputSender}
    (inside : s.writer = some (.broadcasting ended hasCleared i sendersToRemove))
    (removed : sendersToRemove.reverse.foldlM remove? s.forge.outputResultSenders = some kept) :
    kept = dropAt sendersToRemove 0 s.forge.outputResultSenders := by
  have inside' : ∀ j ∈ sendersToRemove, j < s.forge.outputResultSenders.length := by
    intro j member
    rcases inv.collected _ _ _ _ inside j member with ⟨-, sender, chan, place, -⟩
    exact getElem?_lt place
  rw [remove_reverse (inv.sorted _ _ _ _ inside) inside'] at removed
  exact (Option.some.inj removed).symm

theorem Wired.prune (inv : s.Wired) {ended : TaskOutput Output} {hasCleared : Bool} {i : Nat}
    {sendersToRemove : List Nat} {kept : List OutputSender}
    (inside : s.writer = some (.broadcasting ended hasCleared i sendersToRemove))
    (removed : sendersToRemove.reverse.foldlM remove? s.forge.outputResultSenders = some kept) :
    Wired { s with
      forge := { s.forge with outputResultSenders := kept }, writer := none } := by
  obtain rfl := inv.kept inside removed
  have sub := dropAt_sublist sendersToRemove 0 s.forge.outputResultSenders
  constructor
  · exact inv.distinct.sublist sub
  · exact fun sender member => inv.present sender (sub.subset member)
  · intro receiver chan found opened
    rcases List.mem_iff_getElem?.mp (inv.registered receiver chan found opened) with ⟨j, place⟩
    refine mem_dropAt.mpr ⟨j, place, fun listed => ?_⟩
    have collected := inv.collected _ _ _ _ inside j (by simpa using listed)
    rcases collected with ⟨-, sender, shut, there, here, closed⟩
    obtain rfl := Option.some.inj (place.symm.trans there)
    obtain rfl := Option.some.inj (found.symm.trans here)
    rw [closed] at opened
    cases opened
  all_goals
    intro ended hasCleared j sendersToRemove inside
    cases inside

theorem Wired.step (inv : s.Wired) (taken : s.step a = some s') : s'.Wired := by
  cases step_moves taken with
  | waitRegisters free unread called waits state =>
    exact inv.of_same (by rw [WrappedTaskForge.newTaskNotifReceiver_eq]) rfl (.inl rfl)
  | waitRunning | wakeCreated =>
    rw [created_eq]
    exact inv.of_same rfl rfl (.inl rfl)
  | redirect free unread called => exact inv.redirect free _
  | broadcastClosed inside current present closed =>
    exact inv.broadcastClosed inside current present closed
  | broadcastOpen inside current present opened room => exact inv.broadcastOpen inside current _
  | prune inside ends removed => exact inv.prune inside removed
  | receiveResult receiver => exact inv.modify fun chan shut => shut
  | closeResult receiver => exact inv.modify fun chan _ => rfl
  | newTaskStart | notifyClosed | notifyOpen | begin | handleClosed | handleRunning | notDue
  | clearLost | clearNotified | reportLogged | reportSent =>
    refine inv.of_same rfl rfl (.inr fun ended hasCleared i sendersToRemove inside => ?_)
    simp_all
  | _ => exact inv.of_same rfl rfl (.inl rfl)

theorem wired_reachable (reached : Reachable step Config.new s) : s.Wired :=
  reached.invariant (fun _ _ _ inv taken => inv.step taken) wired_new

variable {t : Config Message Output} {ended : TaskOutput Output} {hasCleared : Bool} {i : Nat}

/-- What the redirections have got when the broadcast loop of an iteration that began at `s` stands
    at the sender number `i`. -/
structure Progress (s : Config Message Output) (ended : TaskOutput Output) (hasCleared : Bool)
    (i : Nat) (t : Config Message Output) : Prop where
  senders : t.forge.outputResultSenders = s.forge.outputResultSenders
  got : ∀ (j : Nat) (sender : OutputSender) chan, s.forge.outputResultSenders[j]? = some sender →
    s.results[sender]? = some chan → ∃ now, t.results[sender]? = some now ∧
      if j < i then
        now.closed = false → now.sent = chan.sent ++ [⟨ended.output, ended.id, hasCleared⟩]
      else now.sent = chan.sent

theorem Progress.of_same (inv : Progress s ended hasCleared i t)
    (senders : s'.forge.outputResultSenders = t.forge.outputResultSenders)
    (results : s'.results = t.results) : Progress s ended hasCleared i s' :=
  ⟨senders.trans inv.senders, by rw [results]; exact inv.got⟩

theorem Progress.modify (inv : Progress s ended hasCleared i t) {receiver : Nat}
    {f : Chan (ForgeTaskEnded Output) → Chan (ForgeTaskEnded Output)}
    (sent : ∀ chan, (f chan).sent = chan.sent)
    (opened : ∀ chan, (f chan).closed = false → chan.closed = false) :
    Progress s ended hasCleared i { t with results := t.results.modify receiver f } := by
  refine ⟨inv.senders, fun j sender chan place found => ?_⟩
  rcases inv.got j sender chan place found with ⟨now, here, told⟩
  refine ⟨if receiver = sender then f now else now, ?_, ?_⟩
  · rw [List.getElem?_modify, here]
    rfl
  · by_cases same : receiver = sender <;> by_cases passed : j < i <;>
      simp only [same, passed, ↓reduceIte, sent] at told ⊢
    · exact fun kept => told (opened now kept)
    · exact told
    · exact told
    · exact told

theorem Progress.turn (inv : Progress s ended hasCleared i t)
    (distinct : s.forge.outputResultSenders.Nodup) {sender : OutputSender}
    (current : s.forge.outputResultSenders[i]? = some sender)
    {f : Chan (ForgeTaskEnded Output) → Chan (ForgeTaskEnded Output)}
    (sends : ∀ now, t.results[sender]? = some now → (f now).closed = false →
      (f now).sent = now.sent ++ [⟨ended.output, ended.id, hasCleared⟩])
    (w : Option (Section Output)) :
    Progress s ended hasCleared (i + 1)
      { t with results := t.results.modify sender f, writer := w } := by
  refine ⟨inv.senders, fun j other chan place found => ?_⟩
  rcases inv.got j other chan place found with ⟨now, here, told⟩
  refine ⟨if sender = other then f now else now, ?_, ?_⟩
  · rw [List.getElem?_modify, here]
    rfl
  by_cases same : j = i
  · subst same
    obtain rfl := Option.some.inj (current.symm.trans place)
    simp only [Nat.lt_irrefl, ↓reduceIte] at told
    simp only [Nat.lt_succ_self, ↓reduceIte]
    intro kept
    rw [sends now here kept, told]
  · have apart : sender ≠ other := by
      intro same
      subst same
      exact same (distinct.getElem_inj_iff.mp (by
        rw [(List.getElem?_eq_some_iff.mp place).2, (List.getElem?_eq_some_iff.mp current).2]))
    have before : j < i + 1 ↔ j < i := by omega
    simpa only [apart, ↓reduceIte, before] using told

/-- Every redirection that is still open got exactly the one message. -/
def Delivered (s : Config Message Output) (ended : TaskOutput Output)
    (s' : Config Message Output) : Prop :=
  ∀ (receiver : Nat) chan chan', s.results[receiver]? = some chan →
    s'.results[receiver]? = some chan' → chan'.closed = false →
      ∃ hasCleared, chan'.sent = chan.sent ++ [⟨ended.output, ended.id, hasCleared⟩]

/-- The listener is about to notify a cleaner whose receiver was dropped. -/
def losesCleaner (s : Config Message Output) : Act Message Output → Bool
  | .clearIfDue =>
    s.forge.shouldClear && match s.forge.cleaningNotifier with
      | some (notifier, _) => (s.cleanings[notifier]?).any Chan.closed
      | none => false
  | _ => false

/-- How far an iteration that began at `s` and loses no cleaner has come. -/
def Delivering (s : Config Message Output) (ended : TaskOutput Output)
    (t : Config Message Output) : Prop :=
  match t.writer with
  | some (.closing e) => e = ended ∧ ∀ hasCleared, Progress s ended hasCleared 0 t
  | some (.broadcasting e hasCleared i _) => e = ended ∧ Progress s ended hasCleared i t
  | none => Delivered s ended t
  | _ => False

theorem Delivering.of_same (inv : Delivering s ended t) (inside : t.writer ≠ none)
    (senders : s'.forge.outputResultSenders = t.forge.outputResultSenders)
    (results : s'.results = t.results) (writer : s'.writer = t.writer) :
    Delivering s ended s' := by
  unfold Delivering at inv ⊢
  rw [writer]
  split at inv
  · exact ⟨inv.1, fun hasCleared => (inv.2 hasCleared).of_same senders results⟩
  · exact ⟨inv.1, inv.2.of_same senders results⟩
  next free => exact absurd free inside
  · exact inv

theorem Delivering.modify (inv : Delivering s ended t) (inside : t.writer ≠ none) {receiver : Nat}
    {f : Chan (ForgeTaskEnded Output) → Chan (ForgeTaskEnded Output)}
    (sent : ∀ chan, (f chan).sent = chan.sent)
    (opened : ∀ chan, (f chan).closed = false → chan.closed = false) :
    Delivering s ended { t with results := t.results.modify receiver f } := by
  unfold Delivering at inv ⊢
  dsimp only
  split at inv
  · exact ⟨inv.1, fun hasCleared => (inv.2 hasCleared).modify sent opened⟩
  · exact ⟨inv.1, inv.2.modify sent opened⟩
  next free => exact absurd free inside
  · exact inv

theorem Progress.finish (inv : Progress s ended hasCleared i t) (wired : t.Wired)
    (ends : i = t.forge.outputResultSenders.length) (f : WrappedTaskForge) :
    Delivered s ended { t with forge := f, writer := none } := by
  intro receiver chan chan' before after opened
  have member := wired.registered receiver chan' after opened
  rw [inv.senders] at member ends
  rcases List.mem_iff_getElem?.mp member with ⟨j, place⟩
  rcases inv.got j receiver chan place before with ⟨now, here, told⟩
  obtain rfl := Option.some.inj (here.symm.trans after)
  have passed : j < i := ends ▸ getElem?_lt place
  simp only [passed, ↓reduceIte] at told
  exact ⟨hasCleared, told opened⟩

theorem Delivering.step (inv : Delivering s ended t) (inside : t.writer ≠ none)
    (wired : t.Wired) (distinct : s.forge.outputResultSenders.Nodup)
    (keeps : t.losesCleaner a = false) (taken : t.step a = some s') : Delivering s ended s' := by
  cases step_moves taken with
  | @wakeCreated i id op waiter task chan rest called present buffered =>
    cases op <;> exact inv.of_same inside rfl rfl rfl
  | notifyClosed within => simp [Delivering, within] at inv
  | notifyOpen within => simp [Delivering, within] at inv
  | begin capacity within => simp [Delivering, within] at inv
  | reportLogged within => simp [Delivering, within] at inv
  | reportSent within => simp [Delivering, within] at inv
  | notDue within due =>
    simp only [Delivering, within] at inv
    rcases inv with ⟨rfl, progress⟩
    exact ⟨rfl, (progress false).of_same rfl rfl⟩
  | clearLost within due pending present closed =>
    simp [losesCleaner, due, pending, present, closed] at keeps
  | clearNotified within due pending present opened room =>
    simp only [Delivering, within] at inv
    rcases inv with ⟨rfl, progress⟩
    exact ⟨rfl, (progress true).of_same rfl rfl⟩
  | broadcastClosed within current present closed =>
    simp only [Delivering, within] at inv
    rcases inv with ⟨rfl, progress⟩
    have turned := progress.turn distinct (progress.senders ▸ current) (f := id)
      (fun now here kept => ?_) none
    · rw [List.modify_id] at turned
      exact ⟨rfl, turned.of_same rfl rfl⟩
    · obtain rfl := Option.some.inj (present.symm.trans here)
      exact absurd (closed.symm.trans kept) (by decide)
  | broadcastOpen within current present opened room =>
    simp only [Delivering, within] at inv
    rcases inv with ⟨rfl, progress⟩
    exact ⟨rfl, progress.turn distinct (progress.senders ▸ current)
      (fun now _ _ => Chan.sent_push now _) _⟩
  | prune within ends removed =>
    simp only [Delivering, within] at inv
    exact inv.2.finish wired ends _
  | receiveResult receiver => exact inv.modify inside Chan.sent_pop fun chan opened => opened
  | closeResult receiver =>
    exact inv.modify inside Chan.sent_close fun chan opened => by cases opened
  | newTaskExists free | newTaskStart free | waitRegisters free | waitRunning free
  | waitClosed free | redirect free | asksEmpty free | cleanCleared free | cleanRequests free
  | sendStart free | sendMissing free => exact absurd free inside
  | handleClosed pulled free => exact absurd free inside
  | handleRunning pulled free => exact absurd free inside
  | _ => exact inv.of_same inside rfl rfl rfl

variable {s₁ : Config Message Output} {trace : List (Config Message Output × Act Message Output)}

theorem delivering_handled (pulled : s.pulled = some ended) (running : s.forge.Running ended.id)
    (handled : s.step .handle = some s₁) : Delivering s ended s₁ := by
  cases step_moves handled with
  | handleClosed pulled' free unread closed =>
    obtain rfl := Option.some.inj (pulled.symm.trans pulled')
    exact absurd running closed
  | handleRunning pulled' free unread ran =>
    obtain rfl := Option.some.inj (pulled.symm.trans pulled')
    exact ⟨rfl, fun hasCleared => ⟨rfl, fun j sender chan place found => ⟨chan, found, by simp⟩⟩⟩

theorem reporting_of_lost (loses : s.losesCleaner a = true) (taken : s.step a = some s') :
    s'.writer = some (.reporting .cleaningNotifierError) := by
  cases step_moves taken with
  | notDue inside due => simp [losesCleaner, due] at loses
  | clearLost inside due pending present closed => rfl
  | clearNotified inside due pending present opened room =>
    simp [losesCleaner, pending, present, opened] at loses
  | _ => cases loses

/-- The iteration for an output of a running id broadcasts it, once to every open redirection and
    never as an error, in exactly the cases in which it fires no cleaning request whose receiver
    was dropped. -/
theorem running_output_delivered_iff (reached : Reachable step Config.new s)
    (pulled : s.pulled = some ended) (running : s.forge.Running ended.id)
    (handled : s.step .handle = some s₁) (run : Run step s₁ trace s')
    (inside : Along (fun t _ => t.writer ≠ none) trace) (freed : s'.writer = none) :
    (Along (fun t _ => ∀ e, t.writer ≠ some (.reporting e)) trace ∧ Delivered s ended s') ↔
      Along (fun t b => t.losesCleaner b = false) trace := by
  constructor
  · intro given also member
    rcases given with ⟨quiet, -⟩
    rcases also with ⟨t, b⟩
    by_contra loses
    rcases List.append_of_mem member with ⟨past, later, rfl⟩
    rcases run.split with ⟨t', -, taken, rest⟩
    have reports := reporting_of_lost (by simpa using loses) taken
    cases later with
    | nil =>
      rw [rest.nil_eq, reports] at freed
      cases freed
    | cons next later =>
      rcases next with ⟨u, c⟩
      obtain rfl := rest.head_eq
      exact quiet (u, c) (by simp) _ reports
  · intro keeps
    have wired := wired_reachable reached
    have both : Along (fun t b => t.writer ≠ none ∧ t.losesCleaner b = false) trace :=
      fun e member => ⟨inside e member, keeps e member⟩
    have advance : ∀ t b t', (Delivering s ended t ∧ t.Wired) →
        (t.writer ≠ none ∧ t.losesCleaner b = false) → t.step b = some t' →
        Delivering s ended t' ∧ t'.Wired := by
      intro t b t' given also taken
      rcases given with ⟨inv, known⟩
      rcases also with ⟨held, kept⟩
      exact ⟨inv.step held known wired.distinct kept taken, known.step taken⟩
    have first : Delivering s ended s₁ ∧ s₁.Wired :=
      ⟨delivering_handled pulled running handled, wired.step handled⟩
    refine ⟨run.along_of_invariant _ advance ?_ both first, ?_⟩
    · intro t b t' given _ _ e reports
      rcases given with ⟨inv, -⟩
      simp [Delivering, reports] at inv
    · have last := (run.invariant_along advance both first).1
      simpa only [Delivering, freed] using last

/-- A redirection, a task and a cleaning request whose receiver is dropped or not; the listener has
    received the output of the task. -/
def cleaning (drops : Bool) : List (Act Nat Nat) :=
  [.call .newResultRedirection, .enter 0] ++ creates 1 1 ++ asksClean 2 none ++
    (if drops then [.closeCleaning 0] else []) ++ echoes 3 1 0 10 ++ [.take]

theorem running_output_delivered_at_cleaning :
    ∃ s s₁ s', exec step Config.new (cleaning false) = some s ∧ s.step .handle = some s₁ ∧
      exec step s₁ [.clearIfDue, .broadcast, .prune] = some s' ∧ Delivered s ⟨1, 10, 0⟩ s' :=
  ⟨_, _, _, rfl, rfl, rfl, ((running_output_delivered_iff
    (reachable_of_exec (cleaning false) rfl) rfl rfl rfl
    (run_of_exec [.clearIfDue, .broadcast, .prune] rfl) (by decide) rfl).mpr (by decide)).2⟩

/-- With the receiver of the cleaning request dropped, the last output goes to no redirection. -/
theorem last_output_lost :
    ¬ ∀ (s s₁ s' : Config Nat Nat) (ended : TaskOutput Nat)
        (trace : List (Config Nat Nat × Act Nat Nat)),
      Reachable step Config.new s → s.pulled = some ended → s.forge.Running ended.id →
        s.step .handle = some s₁ → Run step s₁ trace s' →
        Along (fun t _ => t.writer ≠ none) trace → s'.writer = none →
        Along (fun t _ => ∀ e, t.writer ≠ some (.reporting e)) trace ∧ Delivered s ended s' := by
  intro all
  have delivered := (all _ _ _ _ _ (reachable_of_exec (cleaning true) rfl) rfl rfl rfl
    (run_of_exec [.clearIfDue, .report] rfl) (by decide) rfl).2
  rcases delivered 0 _ _ rfl rfl rfl with ⟨hasCleared, sent⟩
  cases sent

end Config

end AsyncForge.TaskForge
