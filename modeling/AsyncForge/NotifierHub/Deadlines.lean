import Mathlib.Logic.Relation
import AsyncForge.Lib.Timeouts
import AsyncForge.NotifierHub.Reports

/-! How long a `wait` with a duration takes, with the times at which the tasks are complete. -/

namespace AsyncForge.NotifierHub

open AsyncForge.Timeouts AsyncForge.NotifierHub.WritingHandler

/-- A task of a handler: when it is complete, counted from the call of `wait`, and with what. -/
structure TimedWriting (M : Type) where
  completion : Option Nat
  outcome : Except JoinError (Except (SendError M) Unit)
  deriving DecidableEq

namespace TimedWriting

variable {M : Type}

/-- `timeout`, with the time at which it is called and the time at which it returns. -/
def timeout (d : Duration) (now : Nat) (handler : TimedWriting M) :
    Except Elapsed (Except JoinError (Except (SendError M) Unit)) × Nat :=
  match handler.completion with
  | some c => if c ≤ now + d then (.ok handler.outcome, max now c) else (.error ⟨⟩, now + d)
  | none => (.error ⟨⟩, now + d)

/-- What the loop of `wait` awaits; without a duration a task that is never complete has no end. -/
def await (duration : Option Duration) (now : Nat) (handler : TimedWriting M) :
    Option (Except Elapsed (Except JoinError (Except (SendError M) Unit)) × Nat) :=
  match duration with
  | some d => some (timeout d now handler)
  | none => handler.completion.map fun c => (.ok handler.outcome, max now c)

def waitLoop (duration : Option Duration) :
    List (TimedWriting M) → List (NotifierError M Unit) → Nat →
      Option (Except (NotifierError M Unit) (List (NotifierError M Unit)) × Nat)
  | [], errors, now => some (.ok errors, now)
  | handler :: handlers, errors, now =>
    (await duration now handler).bind fun r =>
      match waitNext duration errors r.1 with
      | .ok errors => waitLoop duration handlers errors r.2
      | .error e => some (.error e, r.2)

/-- `wait`, with the time it takes. -/
def wait (duration : Option Duration) (handlers : List (TimedWriting M)) :
    Option (Except (NotifierError M Unit) Nat × Nat) :=
  (waitLoop duration handlers [] 0).map fun r => (r.1.bind (waitEnd handlers.length), r.2)

/-- The entry of a task in the report, by what awaiting it gave. -/
def entry (d : Duration) :
    Except Elapsed (Except JoinError (Except (SendError M) Unit)) → Option (NotifierError M Unit)
  | .ok (.ok (.ok ())) => none
  | .ok (.ok (.error e)) => some (.sendingError e)
  | .ok (.error e) => some (.joiningError e)
  | .error _ => some (.writingTimeout d)

/-- The report for the time after the call: what is not complete then timed out. -/
def report (d : Duration) (handlers : List (TimedWriting M)) : List (NotifierError M Unit) :=
  handlers.filterMap fun handler =>
    entry d (if CompleteBy d handler.completion then .ok handler.outcome else .error ⟨⟩)

/-- The report of the loop, which starts the time of each task after the task before it. -/
def turns (d : Duration) : Nat → List (TimedWriting M) → List (NotifierError M Unit)
  | _, [] => []
  | now, handler :: handlers =>
    (entry d (timeout d now handler).1).toList ++ turns d (timeout d now handler).2 handlers

variable {d : Duration} {now : Nat} {handler : TimedWriting M} {handlers : List (TimedWriting M)}
  {errors : List (NotifierError M Unit)}

theorem waitNext_entry (result : Except Elapsed (Except JoinError (Except (SendError M) Unit))) :
    waitNext (some d) errors result = .ok (errors ++ (entry d result).toList) := by
  rcases result with e | e | e | ⟨⟩ <;> simp [waitNext, entry]

theorem timeout_snd : (timeout d now handler).2 = endOf d now handler.completion := by
  unfold timeout endOf
  cases handler.completion with
  | none => rfl
  | some c =>
    dsimp only
    split <;> rfl

theorem timeout_fst : (timeout d now handler).1 =
    if CompleteBy (now + d) handler.completion then .ok handler.outcome else .error ⟨⟩ := by
  unfold timeout
  cases handler.completion with
  | none => simp
  | some c =>
    simp only [completeBy_some]
    split <;> rfl

theorem waitLoop_eq : waitLoop (some d) handlers errors now =
    some (.ok (errors ++ turns d now handlers),
      endOfAll d now (handlers.map TimedWriting.completion)) := by
  induction handlers generalizing errors now with
  | nil => simp [waitLoop, turns, endOfAll]
  | cons handler handlers ih =>
    simp only [waitLoop, await, Option.bind_some, waitNext_entry, ih, turns, List.append_assoc,
      timeout_snd, List.map_cons, endOfAll, List.foldl_cons]

theorem wait_eq : wait (some d) handlers = some (waitEnd handlers.length (turns d 0 handlers),
    endOfAll d 0 (handlers.map TimedWriting.completion)) := by
  simp [wait, waitLoop_eq, Except.bind]

/-- The calls of `timeout` take no longer than one duration for each task. -/
theorem wait_returns_within {result : Except (NotifierError M Unit) Nat} {time : Nat}
    (waited : wait (some d) handlers = some (result, time)) : time ≤ handlers.length * d := by
  rw [wait_eq] at waited
  rcases Prod.mk.inj (Option.some.inj waited) with ⟨-, rfl⟩
  have bound : endOfAll d 0 (handlers.map TimedWriting.completion) ≤ _ := endOfAll_le
  simpa using bound

/-- A loop that ends in the time of one task gives each of them just that time. -/
theorem turns_eq_report
    (intime : endOfAll d now (handlers.map TimedWriting.completion) ≤ d) :
    turns d now handlers = report d handlers := by
  induction handlers generalizing now with
  | nil => rfl
  | cons handler handlers ih =>
    have rest : endOfAll d (endOf d now handler.completion)
        (handlers.map TimedWriting.completion) ≤ d := intime
    have ends : endOf d now handler.completion ≤ d := Nat.le_trans le_endOfAll rest
    have same : CompleteBy (now + d) handler.completion ↔ CompleteBy d handler.completion := by
      cases done : handler.completion with
      | none => simp
      | some c =>
        simp only [done, endOf] at ends
        simp only [completeBy_some]
        split at ends <;> omega
    rw [turns, timeout_snd, timeout_fst, ih rest]
    simp only [report, List.filterMap_cons, same]
    cases entry d (if CompleteBy d handler.completion then .ok handler.outcome else .error ⟨⟩) <;>
      rfl

/-- `wait` returns within the duration, with a timeout for exactly the tasks that are not complete
    at its end, if and only if each of these comes after nothing but tasks that were complete at
    the call: the time of a task starts after the task before it. -/
theorem wait_keeps_deadline_iff (d : Duration) (handlers : List (TimedWriting M)) :
    (∃ result time, wait (some d) handlers = some (result, time) ∧ time ≤ d ∧
        result = waitEnd handlers.length (report d handlers)) ↔
      d = 0 ∨ handlers.Pairwise fun before handler =>
        CompleteBy d handler.completion ∨ before.completion = some 0 := by
  have condition : endOfAll d 0 (handlers.map TimedWriting.completion) ≤ d ↔ _ := endOfAll_le_iff
  rw [List.pairwise_map] at condition
  rw [← condition, wait_eq]
  constructor
  · intro given
    rcases given with ⟨result, time, waited, intime, -⟩
    rcases Prod.mk.inj (Option.some.inj waited) with ⟨-, rfl⟩
    exact intime
  · intro intime
    exact ⟨_, _, rfl, intime, by rw [turns_eq_report intime]⟩

/-- Two tasks that are complete 400 and 800 units after the call. -/
def oneAfterTheOther : List (TimedWriting Nat) :=
  [⟨some 400, .ok (.ok ())⟩, ⟨some 800, .ok (.ok ())⟩]

theorem wait_exceeds_duration :
    wait (some 500) oneAfterTheOther = some (.ok 2, 800) ∧
      ¬ ∃ result time, wait (some 500) oneAfterTheOther = some (result, time) ∧ time ≤ 500 ∧
        result = waitEnd oneAfterTheOther.length (report 500 oneAfterTheOther) := by
  have waited : wait (some 500) oneAfterTheOther = some (.ok 2, 800) := rfl
  refine ⟨waited, fun given => ?_⟩
  rcases given with ⟨result, time, same, intime, -⟩
  rw [waited] at same
  rcases Prod.mk.inj (Option.some.inj same) with ⟨-, rfl⟩
  exact absurd intime (by decide)

section Refinement

variable {clock : Nat → List (Writing M)} {left : List Nat} {n : Nat}

/-- The table of the tasks as time passes: each is over from its completion on. -/
def Clocked (clock : Nat → List (Writing M)) : List Nat → List (TimedWriting M) → Prop :=
  List.Forall₂ fun i handler => ∃ sender msg result, handler.outcome = .ok result ∧
    ∀ now, (clock now)[i]? =
      some ⟨sender, msg, if CompleteBy now handler.completion then some result else none⟩

/-- A turn of a call of `wait` at its time, by the tasks that are over then. -/
inductive Turned (clock : Nat → List (Writing M)) : Handling M × Nat → Handling M × Nat → Prop
  | poll {h h' : Handling M} {now time : Nat} (later : now ≤ time)
      (polled : h.poll (clock time) = some h') : Turned clock (h, now) (h', time)
  | timeout {h h' : Handling M} {now time : Nat} (later : now ≤ time)
      (timed : h.timeout (clock time) = some h') : Turned clock (h, now) (h', time)

theorem turned_timeout {i : Nat} {sender : SmartChannel.Sender SmartChannelId} {msg : M}
    {result : Except (SendError M) Unit} (outcome : handler.outcome = .ok result)
    (table : ∀ now, (clock now)[i]? =
      some ⟨sender, msg, if CompleteBy now handler.completion then some result else none⟩) :
    Turned clock (.waiting n (some d) (i :: left) errors, now)
      (.waiting n (some d) left (errors ++ (entry d (timeout d now handler).1).toList),
        (timeout d now handler).2) := by
  have later : now ≤ endOf d now handler.completion := le_endOf
  have place := table (endOf d now handler.completion)
  rw [timeout_snd, timeout_fst]
  simp only [completeBy_endOf] at place
  by_cases done : CompleteBy (now + d) handler.completion
  · rw [if_pos done] at place ⊢
    apply Turned.poll later
    simp only [Handling.poll, place, outcome, waitNext_entry, Handling.resume]
  · rw [if_neg done] at place ⊢
    apply Turned.timeout later
    simp only [Handling.timeout, place, waitNext_entry, Handling.resume]

theorem turned_loop (clocked : Clocked clock left handlers) :
    Relation.ReflTransGen (Turned clock) (.waiting n (some d) left errors, now)
      (.returned (waitEnd n (errors ++ turns d now handlers)),
        endOfAll d now (handlers.map TimedWriting.completion)) := by
  induction clocked generalizing errors now with
  | nil =>
    apply Relation.ReflTransGen.single
    rw [turns, List.append_nil]
    exact .poll (Nat.le_refl now) rfl
  | cons first rest ih =>
    rcases first with ⟨sender, msg, result, outcome, table⟩
    apply Relation.ReflTransGen.head (turned_timeout outcome table)
    rw [turns, ← List.append_assoc, timeout_snd]
    exact ih

/-- What `wait` returns, and when, is what its turns come to when the tasks are over at their
    times. -/
theorem wait_refines {result : Except (NotifierError M Unit) Nat} {time : Nat}
    (clocked : Clocked clock left handlers)
    (waited : wait (some d) handlers = some (result, time)) :
    ∃ h, Handling.wait (some d) (.held ⟨left⟩) = some h ∧
      Relation.ReflTransGen (Turned clock) (h, 0) (.returned result, time) := by
  rw [wait_eq, ← clocked.length_eq] at waited
  rcases Prod.mk.inj (Option.some.inj waited) with ⟨rfl, rfl⟩
  exact ⟨_, rfl, turned_loop clocked⟩

end Refinement

end TimedWriting

end AsyncForge.NotifierHub
