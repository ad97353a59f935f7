import AsyncForge.TaskForge.Incarnations

namespace AsyncForge.TaskForge

open AsyncForge.Channels AsyncForge.Runs

variable {Message Output : Type}

namespace Config

variable {s s' : Config Message Output} {a : Act Message Output}

def Pending (s : Config Message Output) (request : CleaningSender) : Prop :=
  ∃ awaited, s.forge.cleaningNotifier = some (request, awaited)

/-- Every cleaning receiver that was handed out and is kept open is pending and unsent, or was sent
    its one message. -/
def Heard (s : Config Message Output) : Prop :=
  ∀ request chan, s.cleanings[request]? = some chan → chan.closed = false →
    (s.Pending request ∧ chan.sent = []) ∨ (¬ s.Pending request ∧ chan.sent = [()])

/-- A step that clears the forge leaves no cleaning request pending. -/
def Settles (s : Config Message Output) (a : Act Message Output) : Prop :=
  s.Clears a → ∀ s', s.step a = some s' → s'.forge.cleaningNotifier = none

/-- `clean` is called while no request is pending, or to replace a request whose receiver was
    dropped. -/
def cleansAlone (s : Config Message Output) : Act Message Output → Bool
  | .enter i =>
    match s.calls[i]? with
    | some ⟨.clean _, .locking⟩ =>
      match s.forge.cleaningNotifier with
      | some (request, _) => !s.forge.isEmpty && (s.cleanings[request]?).any Chan.closed
      | none => true
    | _ => true
  | _ => true

def Present (s : Config Message Output) : Prop :=
  ∀ request, s.Pending request → request < s.cleanings.length

theorem Present.of_same (inv : s.Present)
    (notifier : s'.forge.cleaningNotifier = s.forge.cleaningNotifier)
    (cleanings : s.cleanings.length ≤ s'.cleanings.length) : s'.Present := by
  intro request given
  rcases given with ⟨awaited, pending⟩
  exact Nat.lt_of_lt_of_le (inv request ⟨awaited, notifier ▸ pending⟩) cleanings

theorem not_pending_of_none (unset : s.forge.cleaningNotifier = none)
    (request : CleaningSender) : ¬ s.Pending request := by
  intro given
  rcases given with ⟨awaited, pending⟩
  rw [unset] at pending
  cases pending

theorem Present.step (inv : s.Present) (taken : s.step a = some s') : s'.Present := by
  cases step_moves taken with
  | waitRegisters free unread called waits state =>
    exact inv.of_same (by rw [WrappedTaskForge.newTaskNotifReceiver_eq]) (Nat.le_refl _)
  | waitRunning | wakeCreated =>
    rw [created_eq]
    exact inv.of_same rfl (Nat.le_refl _)
  | cleanCleared free unread called empty => exact inv.of_same rfl (by simp)
  | cleanRequests free unread called inhabited =>
    intro request given
    rcases given with ⟨awaited, pending⟩
    cases pending
    simp
  | clearLost inside due pending present closed =>
    exact fun request held => absurd held (not_pending_of_none rfl request)
  | clearNotified inside due pending present opened room =>
    exact fun request held => absurd held (not_pending_of_none rfl request)
  | receiveCleaning receiver => exact inv.of_same rfl (by simp)
  | closeCleaning receiver => exact inv.of_same rfl (by simp [closeAt])
  | _ => exact inv.of_same rfl (Nat.le_refl _)

theorem Heard.of_same (inv : s.Heard)
    (notifier : s'.forge.cleaningNotifier = s.forge.cleaningNotifier)
    (cleanings : s'.cleanings = s.cleanings) : s'.Heard := by
  intro request chan found opened
  rw [cleanings] at found
  simpa only [Pending, notifier] using inv request chan found opened

theorem Heard.modify (inv : s.Heard) {receiver : Nat} {f : Chan Unit → Chan Unit}
    (sent : ∀ chan, (f chan).sent = chan.sent)
    (opened : ∀ chan, (f chan).closed = false → chan.closed = false) :
    Heard { s with cleanings := s.cleanings.modify receiver f } := by
  intro request chan found kept
  rw [List.getElem?_modify] at found
  rcases Option.map_eq_some_iff.mp found with ⟨before, old, rfl⟩
  by_cases same : receiver = request
  · simp only [same, ↓reduceIte] at kept ⊢
    rw [sent]
    exact inv request before old (opened before kept)
  · simp only [same, ↓reduceIte] at kept ⊢
    exact inv request before old kept

theorem Heard.cleared (inv : s.Heard) {notifier : CleaningSender} {awaited : Option Nat}
    {chan : Chan Unit} {f : WrappedTaskForge} {w : Option (Section Output)}
    (pending : s.forge.cleaningNotifier = some (notifier, awaited))
    (present : s.cleanings[notifier]? = some chan) (taken : f.cleaningNotifier = none)
    (answer : Chan Unit → Chan Unit)
    (answers : chan.closed = false → answer chan = chan.push ())
    (closed : (answer chan).closed = chan.closed) :
    Heard { s with forge := f, writer := w, cleanings := s.cleanings.modify notifier answer } := by
  intro request now found opened
  refine .inr ⟨not_pending_of_none taken request, ?_⟩
  rw [List.getElem?_modify] at found
  rcases Option.map_eq_some_iff.mp found with ⟨before, old, rfl⟩
  split at opened
  next same =>
    subst same
    obtain rfl := Option.some.inj (present.symm.trans old)
    have kept := closed.symm.trans opened
    rcases inv notifier chan present kept with ⟨-, unsent⟩ | ⟨idle, -⟩
    · simp [answers kept, unsent]
    · exact absurd ⟨awaited, pending⟩ idle
  next other =>
    rcases inv request before old opened with ⟨⟨awaited', held⟩, -⟩ | ⟨-, sent⟩
    · rw [pending] at held
      cases held
      exact absurd rfl other
    · simpa [other] using sent

theorem Heard.requested (inv : s.Heard) {awaited : Option Nat}
    (replaced : ∀ request chan, s.Pending request → s.cleanings[request]? = some chan →
      chan.closed = true) (calls : List (Call Message)) :
    Heard { s with
      cleanings := s.cleanings ++ [{ capacity := channelSize }]
      forge := { s.forge with cleaningNotifier := some (s.cleanings.length, awaited) }
      calls } := by
  intro request chan found opened
  rw [getElem?_concat] at found
  split at found
  next same =>
    obtain rfl := Option.some.inj found
    exact .inl ⟨⟨awaited, by rw [same]⟩, rfl⟩
  next other =>
    refine .inr ⟨?_, ?_⟩
    · intro given
      rcases given with ⟨_, held⟩
      cases held
      exact other rfl
    · rcases inv request chan found opened with ⟨held, -⟩ | ⟨-, sent⟩
      · rw [replaced request chan held found] at opened
        cases opened
      · exact sent

theorem Heard.step (inv : s.Heard) (alone : s.cleansAlone a = true)
    (taken : s.step a = some s') : s'.Heard := by
  cases step_moves taken with
  | waitRegisters free unread called waits state =>
    exact inv.of_same (by rw [WrappedTaskForge.newTaskNotifReceiver_eq]) rfl
  | waitRunning | wakeCreated =>
    rw [created_eq]
    exact inv.of_same rfl rfl
  | cleanCleared free unread called empty =>
    intro request chan found opened
    rw [getElem?_concat] at found
    split at found
    · cases found
      cases opened
    · exact inv request chan found opened
  | cleanRequests free unread called inhabited =>
    refine inv.requested ?_ _
    intro request chan given found
    rcases given with ⟨awaited, pending⟩
    simpa [cleansAlone, called, pending, inhabited, found] using alone
  | clearLost inside due pending present closed =>
    have cleared := inv.cleared (f := s.forge.clearEnded)
      (w := some (.reporting .cleaningNotifierError)) pending present rfl id
      (fun opened => absurd (closed.symm.trans opened) (by decide)) rfl
    rwa [List.modify_id] at cleared
  | clearNotified inside due pending present opened room =>
    exact inv.cleared pending present rfl _ (fun _ => rfl) rfl
  | receiveCleaning receiver => exact inv.modify Chan.sent_pop fun chan opened => opened
  | closeCleaning receiver =>
    exact inv.modify Chan.sent_close fun chan opened => by cases opened
  | _ => exact inv.of_same rfl rfl

theorem settles_of_alone (alone : s.cleansAlone a = true) : s.Settles a := by
  intro clears s' taken
  rcases (clears.effect taken).2 with ⟨same, i, awaited, rfl, called⟩ | ⟨same, rfl⟩
  · rw [same]
    cases pending : s.forge.cleaningNotifier with
    | none => exact pending
    | some request => simp [cleansAlone, called, pending, clears.empty] at alone
  · rw [same]
    rfl

theorem heard_new : (Config.new : Config Message Output).Heard := by
  intro request chan found
  simp [Config.new] at found

theorem present_new : (Config.new : Config Message Output).Present := by
  intro request given
  rcases given with ⟨awaited, pending⟩
  cases pending

theorem lost_if_replaced {request : CleaningSender} {chan : Chan Unit} {awaited : Option Nat}
    {calls : List (Call Message)} (before : s.Heard) (pending : s.Pending request)
    (found : s.cleanings[request]? = some chan) (opened : chan.closed = false) :
    ¬ Heard { s with
      cleanings := s.cleanings ++ [{ capacity := channelSize }]
      forge := { s.forge with cleaningNotifier := some (s.cleanings.length, awaited) }
      calls } := by
  intro after
  have earlier : request ≠ s.cleanings.length := Nat.ne_of_lt (getElem?_lt found)
  have kept : (s.cleanings ++ [{ capacity := channelSize }])[request]? = some chan := by
    rw [getElem?_concat, if_neg earlier, found]
  have unsent : chan.sent = [] := by
    rcases before request chan found opened with ⟨-, unsent⟩ | ⟨idle, -⟩
    · exact unsent
    · exact absurd pending idle
  rcases after request chan kept opened with ⟨⟨_, held⟩, -⟩ | ⟨-, sent⟩
  · cases held
    exact earlier rfl
  · rw [unsent] at sent
    cases sent

theorem alone_of_heard (present : s.Present) (before : s.Heard) (settles : s.Settles a)
    (taken : s.step a = some s') (after : s'.Heard) : s.cleansAlone a = true := by
  cases step_moves taken with
  | cleanCleared free unread called empty =>
    have unset := settles ⟨⟨_, called⟩, empty⟩ _ taken
    change s.forge.cleaningNotifier = none at unset
    simp [cleansAlone, called, unset]
  | cleanRequests free unread called inhabited =>
    cases pending : s.forge.cleaningNotifier with
    | none => simp [cleansAlone, called, pending]
    | some held =>
      rcases held with ⟨request, awaited⟩
      have found := List.getElem?_eq_getElem (present request ⟨awaited, pending⟩)
      simp only [cleansAlone, called, pending, inhabited, found, Option.any_some, Bool.not_false,
        Bool.true_and]
      by_contra opened
      exact lost_if_replaced before ⟨awaited, pending⟩ found (by simpa using opened) after
  | sendStart free called sends found =>
    rcases sends with rfl | ⟨k, rfl⟩ <;> simp [cleansAlone, called]
  | sendMissing free called sends missing =>
    rcases sends with rfl | ⟨k, rfl⟩ <;> simp [cleansAlone, called]
  | waitRegisters free unread called waits state =>
    rcases waits with rfl | ⟨msg, rfl⟩ <;> simp [cleansAlone, called]
  | waitRunning free unread called waits state =>
    rcases waits with rfl | ⟨msg, rfl⟩ <;> simp [cleansAlone, called]
  | waitClosed free unread called waits state =>
    rcases waits with rfl | ⟨msg, rfl⟩ <;> simp [cleansAlone, called]
  | newTaskExists free unread called running => simp [cleansAlone, called]
  | newTaskStart free unread called stopped => simp [cleansAlone, called]
  | redirect free unread called => simp [cleansAlone, called]
  | asksEmpty free called => simp [cleansAlone, called]
  | _ => rfl

variable {trace : List (Config Message Output × Act Message Output)}

/-- No cleaning request is lost, and no clearing leaves one pending, in exactly the runs whose
    `clean` calls find no request of an open receiver, and none at all when the forge is empty. -/
theorem requests_heard_iff_clean_alone (run : Run step Config.new trace s) :
    (Along (fun t b => t.Heard ∧ t.Settles b) trace ∧ s.Heard) ↔
      Along (fun t b => t.cleansAlone b) trace := by
  induction run with
  | nil => exact ⟨fun _ => .nil _, fun _ => ⟨.nil _, heard_new⟩⟩
  | @snoc trace t t' b before last ih =>
    rw [along_snoc, along_snoc]
    have present := before.invariant (fun _ _ _ inv taken => Present.step inv taken) present_new
    constructor
    · intro given
      rcases given with ⟨⟨past, heard, settles⟩, after⟩
      exact ⟨ih.mp ⟨past, heard⟩, alone_of_heard present heard settles last after⟩
    · intro given
      rcases given with ⟨past, alone⟩
      rcases ih.mpr past with ⟨kept, heard⟩
      exact ⟨⟨kept, heard, settles_of_alone alone⟩, heard.step alone last⟩

def asksClean (i : Nat) (awaited : Option Nat) : List (Act Nat Nat) :=
  [.call (.clean awaited), .enter i]

def cleanedOnce : List (Act Nat Nat) :=
  creates 0 1 ++ asksClean 1 none ++ echoes 2 1 0 10 ++ ends

theorem requests_heard_of_one_clean :
    ∃ s, exec step Config.new cleanedOnce = some s ∧ s.Heard ∧
      s.cleanings = [{ capacity := channelSize, buffer := [()] }] := by
  refine ⟨_, rfl, ?_, rfl⟩
  exact ((requests_heard_iff_clean_alone (run_of_exec cleanedOnce rfl)).mpr (by decide)).2

def cleanedTwice : List (Act Nat Nat) := creates 0 1 ++ asksClean 1 none ++ asksClean 2 none

/-- The second of two overlapping requests drops the sender of the first. -/
theorem overlapping_request_lost :
    ¬ ∀ (trace : List (Config Nat Nat × Act Nat Nat)) (s : Config Nat Nat),
      Run step Config.new trace s →
        Along (fun t b => t.Heard ∧ t.Settles b) trace ∧ s.Heard := by
  intro all
  have heard := (all _ _ (run_of_exec cleanedTwice rfl)).2
  rcases heard 0 _ rfl rfl with ⟨⟨awaited, pending⟩, -⟩ | ⟨-, sent⟩
  · cases pending
  · cases sent

end Config

end AsyncForge.TaskForge
