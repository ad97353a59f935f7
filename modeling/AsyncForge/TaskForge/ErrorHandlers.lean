import AsyncForge.TaskForge.Outputs

/-! The error handlers that come with the forge. A handler owns the error receiver and runs in a
    task of its own. -/

namespace AsyncForge.TaskForge

open AsyncForge.Accounts AsyncForge.Channels AsyncForge.Runs

namespace ForgeError

/-- The text of the error. -/
def message : ForgeError → String
  | sendError id => s!"Failed to send message to task {id}"
  | receiveError => "Failed to receive message"
  | taskClosed id => s!"Task {id} is already closed"
  | taskCreationError id => s!"Task {id} creation failed"
  | cleaningNotifierError => "Cleaning notifier error"
  | taskAlreadyExists id => s!"Task {id} already exists and is running"
  | taskCreationSendingError id => s!"Task {id} creation sending failed"
  | failedToWaitCreation id => s!"Failed to wait creation of task {id}"
  | taskNotExist id => s!"Task {id} doesn't exist"
  | failedToOutput id => s!"Task {id} failed to give its output to the forge"

def debug : ForgeError → String
  | sendError id => s!"SendError({id})"
  | receiveError => "ReceiveError"
  | taskClosed id => s!"TaskClosed({id})"
  | taskCreationError id => s!"TaskCreationError({id})"
  | cleaningNotifierError => "CleaningNotifierError"
  | taskAlreadyExists id => s!"TaskAlreadyExists({id})"
  | taskCreationSendingError id => s!"TaskCreationSendingError({id})"
  | failedToWaitCreation id => s!"FailedToWaitCreation({id})"
  | taskNotExist id => s!"TaskNotExist({id})"
  | failedToOutput id => s!"FailedToOutput({id})"

/-- The line that `log_error_handler` logs. -/
def logLine (e : ForgeError) : String := s!"Task forge error: {e.debug}"

end ForgeError

/-- The error receiver is moved into the handler: nobody else receives from it or closes it. -/
def Act.ofErrors {Message Output : Type} : Act Message Output → Bool
  | .receiveError | .closeErrors => true
  | _ => false

namespace Config

variable {Message Output : Type} {s s' : Config Message Output} {a : Act Message Output}

/-- The forge does nothing else to its error channel than to send the error it reports. -/
theorem errors_frame (other : a.ofErrors = false) (taken : s.step a = some s') :
    s'.errors = s.errors ∨ s.errors.full = false ∧ ∃ e, s'.errors = s.errors.push e := by
  cases step_moves taken with
  | reportSent inside live room => exact .inr ⟨room, _, rfl⟩
  | receiveError | closeErrors => cases other
  | waitRunning | wakeCreated =>
    rw [created_eq]
    exact .inl rfl
  | _ => exact .inl rfl

end Config

/-- What the task of a handler does with the next error. -/
inductive ErrorHandler
  | panics
  | logs
  | ignores
  deriving DecidableEq, Repr

def panicErrorHandler : ErrorHandler := .panics

def logErrorHandler : ErrorHandler := .logs

def ignoreErrorHandler : ErrorHandler := .ignores

/-- A forge whose error receiver was given to a handler. `receiving` says that the handler's task
    has not ended. -/
structure Attended (Message Output : Type) extends Config Message Output where
  handler : ErrorHandler
  receiving : Bool := true
  panicked : Option String := none
  logged : List String := []

inductive AttendedAct (Message Output : Type)
  | forge (a : Act Message Output)
  -- The handler's task receives an error.
  | attend
  deriving DecidableEq

namespace Attended

variable {Message Output : Type}

/-- `TaskForge::new` with the error receiver given to the handler. -/
def new (handler : ErrorHandler) : Attended Message Output := { Config.new with handler }

def default : Attended Message Output := new panicErrorHandler

/-- The body of the handler's task on one error; a panic drops the receiver. -/
def attend (s : Attended Message Output) (e : ForgeError) : Attended Message Output :=
  match s.handler with
  | .panics =>
    { s with errors := s.errors.pop.close, receiving := false, panicked := some e.message }
  | .logs => { s with errors := s.errors.pop, logged := s.logged ++ [e.logLine] }
  | .ignores => { s with errors := s.errors.pop }

/-- The error channel has no end while the forge is there: it holds a sender. -/
def step (s : Attended Message Output) : AttendedAct Message Output →
    Option (Attended Message Output)
  | .forge a =>
    if a.ofErrors then none
    else (s.toConfig.step a).map fun config => { s with toConfig := config }
  | .attend =>
    match s.receiving, s.errors.buffer with
    | true, e :: _ => some (s.attend e)
    | _, _ => none

/-- The error with which an iteration of the listener fails by the step. -/
def fails (s : Attended Message Output) : AttendedAct Message Output → List ForgeError
  | .forge a => s.toConfig.fails a
  | .attend => []

variable {s s' : Attended Message Output} {a : AttendedAct Message Output}
  {trace : List (Attended Message Output × AttendedAct Message Output)}

/-- A step is one of the forge that leaves the error receiver alone, or a turn of the handler. -/
inductive Stepped (s : Attended Message Output) :
    AttendedAct Message Output → Attended Message Output → Prop
  | forge {a : Act Message Output} {config : Config Message Output} (other : a.ofErrors = false)
      (taken : s.toConfig.step a = some config) :
      Stepped s (.forge a) { s with toConfig := config }
  | attend {e : ForgeError} {rest : List ForgeError} (live : s.receiving = true)
      (buffered : s.errors.buffer = e :: rest) : Stepped s .attend (s.attend e)

theorem step_cases (taken : s.step a = some s') : Stepped s a s' := by
  cases a with
  | forge a =>
    simp only [step, Option.ite_none_left_eq_some] at taken
    rcases taken with ⟨other, taken⟩
    rcases Option.map_eq_some_iff.mp taken with ⟨config, moved, rfl⟩
    exact .forge (by simpa using other) moved
  | attend =>
    simp only [step] at taken
    split at taken
    next live buffered =>
      cases taken
      exact .attend live buffered
    · cases taken

/-- What has become of the errors with which the iterations failed. -/
structure Attends (s : Attended Message Output) (failed : List ForgeError) : Prop where
  reported : s.toConfig.Reported failed
  live : s.errors.closed = !s.receiving
  capacity : s.errors.capacity = channelSize
  bounded : s.errors.buffer.length ≤ channelSize
  logged : s.logged = if s.handler = .logs then s.errors.received.map ForgeError.logLine else []
  panicked : s.panicked =
    if s.handler = .panics then s.errors.received.head?.map ForgeError.message else none
  first : s.handler = .panics → s.receiving = true → s.errors.received = []
  ended : s.receiving = false → s.handler = .panics ∧ s.errors.received ≠ []

theorem Attends.forge {failed : List ForgeError} {a : Act Message Output}
    {config : Config Message Output} (attends : s.Attends failed) (other : a.ofErrors = false)
    (taken : s.toConfig.step a = some config) :
    ({ s with toConfig := config } : Attended Message Output).Attends
      (failed ++ s.toConfig.fails a) := by
  have reported := attends.reported.step taken
  have frame : config.errors.closed = s.errors.closed ∧
      config.errors.received = s.errors.received ∧ config.errors.capacity = channelSize ∧
      config.errors.buffer.length ≤ channelSize := by
    rcases Config.errors_frame other taken with same | ⟨room, e, same⟩
    · rw [same]
      exact ⟨rfl, rfl, attends.capacity, attends.bounded⟩
    · rw [same]
      have below : s.errors.buffer.length < channelSize := by
        rw [← attends.capacity]
        simpa [Chan.full] using room
      exact ⟨rfl, rfl, attends.capacity, by simpa [Chan.push] using Nat.succ_le_of_lt below⟩
  rcases frame with ⟨closed, received, capacity, bounded⟩
  refine ⟨reported, ?_, capacity, bounded, ?_, ?_, ?_, ?_⟩
  · rw [closed]
    exact attends.live
  · rw [received]
    exact attends.logged
  · rw [received]
    exact attends.panicked
  · rw [received]
    exact attends.first
  · rw [received]
    exact attends.ended

theorem Attends.attend {failed rest : List ForgeError} {e : ForgeError} (attends : s.Attends failed)
    (live : s.receiving = true) (buffered : s.errors.buffer = e :: rest) :
    (s.attend e).Attends failed := by
  have sent : s.errors.pop.sent <+: failed := by
    rw [Chan.sent_pop]
    exact attends.reported.sent
  have whole : s.errors.closed = false → s.errors.pop.sent ++ s.pendingError = failed := by
    rw [Chan.sent_pop]
    exact attends.reported.whole
  have popped : s.errors.pop.received = s.errors.received ++ [e] := by simp [Chan.pop, buffered]
  have bounded : s.errors.pop.buffer.length ≤ channelSize := by
    have before := attends.bounded
    simp only [Chan.pop, List.length_drop]
    omega
  have logged := attends.logged
  have panicked := attends.panicked
  unfold Attended.attend
  split
  next panics =>
    have received : s.errors.pop.close.received = [e] := by
      rw [attends.first panics live] at popped
      exact popped
    exact ⟨⟨sent, by simp⟩, rfl, attends.capacity, bounded, by simpa [panics] using logged,
      by simp [panics, received], by simp, by simp [panics, received]⟩
  next logs =>
    exact ⟨⟨sent, whole⟩, attends.live, attends.capacity, bounded, by simp [logs, popped, logged],
      by simpa [logs] using panicked, by simp [logs], by simp [live]⟩
  next ignores =>
    exact ⟨⟨sent, whole⟩, attends.live, attends.capacity, bounded, by simpa [ignores] using logged,
      by simpa [ignores] using panicked, by simp [ignores], by simp [live]⟩

theorem attends_step {failed : List ForgeError} (attends : s.Attends failed)
    (taken : s.step a = some s') : s'.Attends (failed ++ s.fails a) := by
  cases step_cases taken with
  | forge other moved => exact attends.forge other moved
  | attend live buffered => simpa [fails] using attends.attend live buffered

theorem attends_run {handler : ErrorHandler} (run : Run step (new handler) trace s) :
    s.Attends (told fails trace) := by
  have keep : ∀ (s : Attended Message Output) a s', True → s.step a = some s' → True :=
    fun _ _ _ _ _ => True.intro
  refine gathers keep (fun s a s' failed _ before taken => attends_step before taken) run
    True.intro ?_
  refine ⟨⟨?_, ?_⟩, ?_, ?_, ?_, ?_, ?_, ?_, ?_⟩ <;>
    simp [new, Config.new, Chan.sent, Config.pendingError]
  cases handler <;> rfl

theorem handler_step (taken : s.step a = some s') : s'.handler = s.handler := by
  cases step_cases taken with
  | forge other moved => rfl
  | attend live buffered =>
    unfold Attended.attend
    split <;> rfl

theorem handler_run {handler : ErrorHandler} (run : Run step (new handler) trace s) :
    s.handler = handler := by
  induction run with
  | nil => rfl
  | snoc before last ih => exact (handler_step last).trans ih

/-- The default handler panics with the text of the first error, and from then on nobody hears of
    any other. -/
theorem panics_at_first_error (run : Run step (default : Attended Message Output) trace s) :
    (s.panicked = none ∧ s.errors.closed = false ∧
        s.errors.buffer ++ s.pendingError = told fails trace) ∨
      ∃ e, (told fails trace).head? = some e ∧ s.panicked = some e.message ∧
        s.errors.closed = true := by
  have attends := attends_run run
  have panics : s.handler = .panics := handler_run run
  have panicked := attends.panicked
  rw [if_pos panics] at panicked
  cases live : s.receiving with
  | true =>
    have opened : s.errors.closed = false := by simp [attends.live, live]
    have received := attends.first panics live
    have whole := attends.reported.whole opened
    rw [Chan.sent, received, List.nil_append] at whole
    exact .inl ⟨by rw [panicked, received]; rfl, opened, whole⟩
  | false =>
    rcases List.exists_cons_of_ne_nil (attends.ended live).2 with ⟨e, rest, received⟩
    rcases attends.reported.sent with ⟨later, same⟩
    refine .inr ⟨e, ?_, by rw [panicked, received]; rfl, by simp [attends.live, live]⟩
    rw [← same, Chan.sent, received]
    rfl

/-- A task ends twice: the second ending is an error, which the handler receives. -/
def attendsOnce : List (AttendedAct Nat Nat) := Config.endsTwice.map .forge ++ [.attend]

theorem panics_at_first_error_closed : ∃ s, exec step default attendsOnce = some s ∧
    s.errors.closed = true ∧ ∃ e, s.panicked = some (ForgeError.message e) ∧
      (told fails (traceOf step default attendsOnce)).head? = some e := by
  obtain ⟨s, done, closed⟩ : ∃ s : Attended Nat Nat,
      exec step default attendsOnce = some s ∧ s.errors.closed = true := ⟨_, rfl, rfl⟩
  rcases panics_at_first_error (run_of_exec _ done) with ⟨-, opened, -⟩ | ⟨e, first, panicked, -⟩
  · cases opened.symm.trans closed
  · exact ⟨s, done, closed, e, panicked, first⟩

/-- The log is the list of all errors, in their order, but for those on their way. -/
theorem logs_every_error (run : Run step (new logErrorHandler : Attended Message Output) trace s) :
    s.panicked = none ∧ s.errors.closed = false ∧
      s.logged ++ (s.errors.buffer ++ s.pendingError).map ForgeError.logLine =
        (told fails trace).map ForgeError.logLine := by
  have attends := attends_run run
  have logs : s.handler = .logs := handler_run run
  have live : s.receiving = true := by
    by_contra ended
    have other := (attends.ended (by simpa using ended)).1
    rw [logs] at other
    cases other
  have opened : s.errors.closed = false := by simp [attends.live, live]
  refine ⟨by simp [attends.panicked, logs], opened, ?_⟩
  rw [attends.logged, if_pos logs, ← attends.reported.whole opened, Chan.sent, List.append_assoc,
    ← List.map_append]

theorem logs_every_error_once : ∃ s, exec step (new logErrorHandler) attendsOnce = some s ∧
    s.errors.buffer ++ s.pendingError = [] ∧
      s.logged ++ (s.errors.buffer ++ s.pendingError).map ForgeError.logLine =
        (told fails (traceOf step (new logErrorHandler) attendsOnce)).map ForgeError.logLine := by
  obtain ⟨s, done, drained⟩ : ∃ s : Attended Nat Nat,
      exec step (new logErrorHandler) attendsOnce = some s ∧
        s.errors.buffer ++ s.pendingError = [] := ⟨_, rfl, rfl⟩
  exact ⟨s, done, drained, (logs_every_error (run_of_exec _ done)).2.2⟩

theorem report_isSome {s : Config Message Output} {e : ForgeError}
    (inside : s.writer = some (.reporting e)) :
    (s.step .report).isSome = true ↔ s.errors.closed = true ∨ s.errors.full = false := by
  simp only [Config.step, Config.report, inside]
  cases s.errors.closed <;> cases s.errors.full <;> simp

/-- A listener that has an error to report is held up only until the handler's next turn. -/
theorem report_goes_on {handler : ErrorHandler} {e : ForgeError}
    (run : Run step (new handler : Attended Message Output) trace s)
    (inside : s.writer = some (.reporting e)) :
    (s.step (.forge .report)).isSome = true ∨
      ∃ s', s.step .attend = some s' ∧ (s'.step (.forge .report)).isSome = true := by
  have attends := attends_run run
  have reports : ∀ t : Attended Message Output, (t.step (.forge .report)).isSome =
      (t.toConfig.step .report).isSome := by
    intro t
    simp [step, Act.ofErrors]
  by_cases waits : s.errors.closed = true ∨ s.errors.full = false
  · exact .inl ((reports s).trans ((report_isSome inside).mpr waits))
  · simp only [not_or, Bool.not_eq_true, Bool.not_eq_false] at waits
    rcases waits with ⟨opened, full⟩
    have live : s.receiving = true := by simpa [attends.live] using opened
    have slot : 0 < s.errors.capacity := by
      rw [attends.capacity]
      decide
    rcases List.exists_cons_of_ne_nil (Chan.buffered_of_full _ slot full)
      with ⟨first, rest, buffered⟩
    have attended : s.step .attend = some (s.attend first) := by simp [step, live, buffered]
    have room : s.errors.pop.full = false := by
      have bounded := attends.bounded
      have popped := Chan.pop_length s.errors (by simp [buffered])
      simp only [Chan.full, Chan.capacity_pop, attends.capacity, decide_eq_false_iff_not]
      omega
    refine .inr ⟨_, attended, (reports _).trans ?_⟩
    unfold Attended.attend
    split
    · refine (report_isSome (e := e) ?_).mpr (.inl ?_)
      · exact inside
      · rfl
    · refine (report_isSome (e := e) ?_).mpr (.inr ?_)
      · exact inside
      · exact room
    · refine (report_isSome (e := e) ?_).mpr (.inr ?_)
      · exact inside
      · exact room

/-- A task that has ended outputs again and again, and nobody receives the errors. -/
def fillsErrors : Nat → List (Act Nat Nat)
  | 0 => Config.creates 0 1 ++ [.output 0 7, .enqueue 0] ++ Config.ends
  | n + 1 => fillsErrors n ++ [.output 0 7, .enqueue 0, .take, .handle, .report]

/-- The listener has one error more than the channel has slots. -/
def reportsToFull : List (AttendedAct Nat Nat) :=
  (fillsErrors (channelSize + 1)).dropLast.map .forge

theorem report_goes_on_after_turn : ∃ s, exec step (new logErrorHandler) reportsToFull = some s ∧
    (s.step (.forge .report)).isSome = false ∧
      ∃ s', s.step .attend = some s' ∧ (s'.step (.forge .report)).isSome = true := by
  have held : ((exec step (new logErrorHandler) reportsToFull).any fun s =>
      s.writer == some (.reporting (.taskClosed 1)) &&
        !(s.step (.forge .report)).isSome) = true := by decide +kernel
  rcases (Option.any_eq_true _ _).mp held with ⟨s, done, held⟩
  simp only [Bool.and_eq_true, beq_iff_eq, Bool.not_eq_true'] at held
  rcases held with ⟨inside, waits⟩
  rcases report_goes_on (run_of_exec _ done) inside with goes | turn
  · cases waits.symm.trans goes
  · exact ⟨s, done, waits, turn⟩

end Attended

end AsyncForge.TaskForge
