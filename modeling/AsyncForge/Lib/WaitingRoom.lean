import Mathlib.Logic.Function.Basic
import AsyncForge.Lib.Channels

/-! Waiters registered under keys. Each has a channel of its own, gets one message when its key is
    served, and none when the room is cleared first. -/

namespace AsyncForge.WaitingRoom

open AsyncForge.Channels

/-- `serving` are the waiters of the key that is served, as far as they still have to be
    answered. -/
structure Room (K T : Type*) where
  registered : K → List Nat
  serving : List Nat
  chans : List (Chan T)

inductive Event (K T : Type*)
  | idle
  | register (key : K)
  | serve (key : K)
  -- The first waiter to serve has left.
  | skip
  | answer (m : T)
  | receive (waiter : Nat)
  | leave (waiter : Nat)
  | clear
  deriving DecidableEq

namespace Room

variable {K T : Type*}

def new : Room K T := ⟨fun _ => [], [], []⟩

def Held (r : Room K T) (waiter : Nat) : Prop :=
  (∃ key, waiter ∈ r.registered key) ∨ waiter ∈ r.serving

/-- No waiter is held twice, and no held waiter has been sent anything. -/
structure Valid (capacity : Nat) (r : Room K T) : Prop where
  sizes : ∀ chan ∈ r.chans, chan.capacity = capacity
  unsent : ∀ waiter, r.Held waiter → ∃ chan, r.chans[waiter]? = some chan ∧ chan.sent = []
  once : ∀ key, (r.registered key).Nodup
  apart : ∀ key key' waiter, waiter ∈ r.registered key → waiter ∈ r.registered key' → key = key'
  servingOnce : r.serving.Nodup
  servingApart : ∀ key, ∀ waiter ∈ r.serving, waiter ∉ r.registered key

variable {capacity : Nat} {r r' : Room K T} {key : K} {waiter : Nat}

theorem valid_new : (new : Room K T).Valid capacity := by
  constructor <;> simp [new, Held]

theorem Valid.lt (valid : r.Valid capacity) (held : r.Held waiter) :
    waiter < r.chans.length := by
  rcases valid.unsent waiter held with ⟨chan, found, -⟩
  exact getElem?_lt found

theorem Valid.next {rest : List Nat} {f : Chan T → Chan T} (valid : r.Valid capacity)
    (serves : r.serving = waiter :: rest) (size : ∀ chan, (f chan).capacity = chan.capacity) :
    Valid capacity { r with serving := rest, chans := r.chans.modify waiter f } := by
  have once := valid.servingOnce
  rw [serves, List.nodup_cons] at once
  constructor
  · exact forall_mem_modify valid.sizes fun chan _ same => (size chan).trans same
  · intro other held
    have ne : waiter ≠ other := by
      intro same
      subst same
      rcases held with ⟨key, member⟩ | member
      · exact valid.servingApart key waiter (by simp [serves]) member
      · exact once.1 member
    obtain ⟨chan, found, unsent⟩ := valid.unsent other
      (held.imp_right fun member => serves ▸ List.mem_cons_of_mem _ member)
    exact ⟨chan, (List.getElem?_modify_ne f _ ne).trans found, unsent⟩
  · exact valid.once
  · exact valid.apart
  · exact once.2
  · intro key other member
    exact valid.servingApart key other (serves ▸ List.mem_cons_of_mem _ member)

theorem Valid.modify {f : Chan T → Chan T} (valid : r.Valid capacity)
    (size : ∀ chan, (f chan).capacity = chan.capacity)
    (sent : ∀ chan, (f chan).sent = chan.sent) :
    Valid capacity { r with chans := r.chans.modify waiter f } := by
  constructor
  · exact forall_mem_modify valid.sizes fun chan _ same => (size chan).trans same
  · intro other held
    rcases valid.unsent other held with ⟨chan, found, unsent⟩
    refine ⟨if waiter = other then f chan else chan, ?_, ?_⟩
    · rw [List.getElem?_modify, found]
      split <;> simp_all
    · split <;> simp [sent, unsent]
  · exact valid.once
  · exact valid.apart
  · exact valid.servingOnce
  · exact valid.servingApart

variable [DecidableEq K]

def apply (capacity : Nat) (r : Room K T) : Event K T → Option (Room K T)
  | .idle => some r
  | .register key =>
    some { r with
      registered := Function.update r.registered key (r.registered key ++ [r.chans.length])
      chans := r.chans ++ [{ capacity }] }
  | .serve key =>
    if r.serving.isEmpty then
      some { r with
        registered := Function.update r.registered key []
        serving := r.registered key }
    else none
  | .skip =>
    match r.serving with
    | waiter :: rest =>
      if (r.chans[waiter]?).any Chan.closed then some { r with serving := rest } else none
    | [] => none
  | .answer m =>
    match r.serving with
    | waiter :: rest =>
      if (r.chans[waiter]?).any fun chan => !chan.closed && !chan.full then
        some { r with serving := rest, chans := r.chans.modify waiter (·.push m) }
      else none
    | [] => none
  | .receive waiter =>
    if (r.chans[waiter]?).any fun chan => !chan.buffer.isEmpty then
      some { r with chans := r.chans.modify waiter Chan.pop }
    else none
  | .leave waiter => some { r with chans := r.chans.modify waiter Chan.close }
  | .clear => some { r with registered := fun _ => [] }

theorem mem_update {rows : List Nat} {other : K} :
    waiter ∈ Function.update r.registered key rows other ↔
      (other = key ∧ waiter ∈ rows) ∨ (other ≠ key ∧ waiter ∈ r.registered other) := by
  by_cases same : other = key
  · subst same
    simp
  · simp [same]

theorem Valid.register (valid : r.Valid capacity) :
    Valid capacity { r with
      registered := Function.update r.registered key (r.registered key ++ [r.chans.length])
      chans := r.chans ++ [{ capacity }] } := by
  have fresh : ∀ other, r.chans.length ∉ r.registered other := fun other member =>
    Nat.lt_irrefl _ (valid.lt (.inl ⟨other, member⟩))
  have old : ∀ other waiter, waiter ∈ Function.update r.registered key
      (r.registered key ++ [r.chans.length]) other →
      waiter ∈ r.registered other ∨ (other = key ∧ waiter = r.chans.length) := by
    intro other waiter member
    rcases mem_update.mp member with ⟨rfl, inside⟩ | ⟨-, inside⟩
    · simpa using inside
    · exact .inl inside
  constructor
  · intro chan member
    rcases List.mem_append.mp member with member | member
    · exact valid.sizes chan member
    · rw [List.mem_singleton.mp member]
  · intro waiter held
    have before : r.Held waiter ∨ waiter = r.chans.length := by
      rcases held with ⟨other, member⟩ | member
      · exact (old other waiter member).imp (fun h => .inl ⟨other, h⟩) And.right
      · exact .inl (.inr member)
    rcases before with before | rfl
    · rcases valid.unsent waiter before with ⟨chan, found, unsent⟩
      exact ⟨chan, (List.getElem?_append_left (getElem?_lt found)).trans found, unsent⟩
    · exact ⟨{ capacity }, by simp, rfl⟩
  · intro other
    by_cases same : other = key
    · subst same
      have last : ∀ w ∈ r.registered other, w ≠ r.chans.length := fun w member same =>
        fresh other (same ▸ member)
      simpa [List.nodup_append, valid.once other] using last
    · simpa [Function.update_of_ne same] using valid.once other
  · intro one two waiter first second
    rcases old one waiter first with before | ⟨rfl, rfl⟩
    · rcases old two waiter second with before' | ⟨-, rfl⟩
      · exact valid.apart one two waiter before before'
      · exact absurd before (fresh one)
    · rcases old two _ second with before' | ⟨rfl, -⟩
      · exact absurd before' (fresh two)
      · rfl
  · exact valid.servingOnce
  · intro other waiter member inside
    rcases old other waiter inside with before | ⟨-, rfl⟩
    · exact valid.servingApart other waiter member before
    · exact Nat.lt_irrefl _ (valid.lt (.inr member))

theorem Valid.serve (valid : r.Valid capacity) :
    Valid capacity { r with
      registered := Function.update r.registered key [], serving := r.registered key } := by
  have old : ∀ other waiter, waiter ∈ Function.update r.registered key [] other →
      other ≠ key ∧ waiter ∈ r.registered other := by
    intro other waiter member
    simpa using mem_update.mp member
  constructor
  · exact valid.sizes
  · intro waiter either
    rcases either with ⟨other, member⟩ | member
    · exact valid.unsent waiter (.inl ⟨other, (old other waiter member).2⟩)
    · exact valid.unsent waiter (.inl ⟨key, member⟩)
  · intro other
    by_cases same : other = key
    · subst same
      simp
    · simpa [Function.update_of_ne same] using valid.once other
  · intro one two waiter first second
    exact valid.apart one two waiter (old one waiter first).2 (old two waiter second).2
  · exact valid.once key
  · intro other waiter member inside
    rcases old other waiter inside with ⟨ne, before⟩
    exact ne (valid.apart other key waiter before member)

inductive Moves (capacity : Nat) (r : Room K T) : Event K T → Room K T → Prop
  | idle : Moves capacity r .idle r
  | register (key : K) : Moves capacity r (.register key) { r with
      registered := Function.update r.registered key (r.registered key ++ [r.chans.length])
      chans := r.chans ++ [{ capacity }] }
  | serve (key : K) (free : r.serving = []) : Moves capacity r (.serve key) { r with
      registered := Function.update r.registered key [], serving := r.registered key }
  | skip {waiter : Nat} {rest : List Nat} {chan : Chan T} (serves : r.serving = waiter :: rest)
      (found : r.chans[waiter]? = some chan) (closed : chan.closed = true) :
      Moves capacity r .skip { r with serving := rest }
  | answer {waiter : Nat} {rest : List Nat} (m : T) (serves : r.serving = waiter :: rest) :
      Moves capacity r (.answer m) { r with
        serving := rest, chans := r.chans.modify waiter (·.push m) }
  | receive {waiter : Nat} {chan : Chan T} (found : r.chans[waiter]? = some chan)
      (buffered : chan.buffer ≠ []) :
      Moves capacity r (.receive waiter) { r with chans := r.chans.modify waiter Chan.pop }
  | leave (waiter : Nat) :
      Moves capacity r (.leave waiter) { r with chans := r.chans.modify waiter Chan.close }
  | clear : Moves capacity r .clear { r with registered := fun _ => [] }

variable {e : Event K T}

theorem apply_moves (taken : r.apply capacity e = some r') : Moves capacity r e r' := by
  cases e with
  | idle =>
    cases taken
    exact .idle
  | register key =>
    cases taken
    exact .register key
  | serve key =>
    obtain ⟨free, rfl⟩ := by simpa [apply] using taken
    exact .serve key free
  | skip =>
    simp only [apply] at taken
    split at taken
    next waiter rest serves =>
      obtain ⟨closed, rfl⟩ := by simpa using taken
      rcases (Option.any_eq_true _ _).mp closed with ⟨chan, found, closed⟩
      exact .skip serves found closed
    · cases taken
  | answer m =>
    simp only [apply] at taken
    split at taken
    next waiter rest serves =>
      obtain ⟨-, rfl⟩ := by simpa using taken
      exact .answer m serves
    · cases taken
  | receive waiter =>
    obtain ⟨ready, rfl⟩ := by simpa [apply] using taken
    rcases (Option.any_eq_true _ _).mp ready with ⟨chan, found, buffered⟩
    exact .receive found (by simpa using buffered)
  | leave waiter =>
    cases taken
    exact .leave waiter
  | clear =>
    cases taken
    exact .clear

theorem Valid.step (valid : r.Valid capacity) (taken : r.apply capacity e = some r') :
    r'.Valid capacity := by
  cases apply_moves taken with
  | idle => exact valid
  | register key => exact valid.register
  | serve key free => exact valid.serve
  | skip serves found closed => simpa using valid.next serves (f := id) fun _ => rfl
  | answer m serves => exact valid.next serves fun chan => Chan.capacity_push chan m
  | receive found buffered => exact valid.modify Chan.capacity_pop Chan.sent_pop
  | leave waiter => exact valid.modify Chan.capacity_close Chan.sent_close
  | clear =>
    exact ⟨valid.sizes, fun other held => valid.unsent other (held.imp (fun h => by simp at h) id),
      by simp, by simp, valid.servingOnce, by simp⟩

theorem Valid.advance {rest : List Nat} (valid : r.Valid capacity) (size : 0 < capacity)
    (serves : r.serving = waiter :: rest) (m : T) :
    (∃ r', r.apply capacity .skip = some r') ∨ ∃ r', r.apply capacity (.answer m) = some r' := by
  rcases valid.unsent waiter (.inr (by simp [serves])) with ⟨chan, found, unsent⟩
  have buffered : chan.buffer = [] := (List.append_eq_nil_iff.mp unsent).2
  have sized := valid.sizes chan (List.mem_of_getElem? found)
  cases closed : chan.closed with
  | true => exact .inl ⟨{ r with serving := rest }, by simp [apply, serves, found, closed]⟩
  | false =>
    refine .inr ⟨{ r with serving := rest, chans := r.chans.modify waiter (·.push m) }, ?_⟩
    simp [apply, serves, found, closed, Chan.full, buffered, sized, Nat.pos_iff_ne_zero.mp size]

/-- The channel of the waiter is open, with these messages received and buffered. -/
def Has (r : Room K T) (waiter : Nat) (received buffer : List T) : Prop :=
  ∃ chan, r.chans[waiter]? = some chan ∧ chan.closed = false ∧ chan.received = received ∧
    chan.buffer = buffer

/-- Where a waiter stands whose channel stays open. -/
def Waits (r : Room K T) (key : K) (waiter : Nat) : Prop :=
  waiter ∈ r.registered key ∧ r.Has waiter [] []

def Called (r : Room K T) (waiter : Nat) : Prop := waiter ∈ r.serving ∧ r.Has waiter [] []

def Answered (r : Room K T) (m : T) (waiter : Nat) : Prop :=
  ¬ r.Held waiter ∧ r.Has waiter [] [m]

def Collected (r : Room K T) (m : T) (waiter : Nat) : Prop :=
  ¬ r.Held waiter ∧ r.Has waiter [m] []

def Dismissed (r : Room K T) (waiter : Nat) : Prop := ¬ r.Held waiter ∧ r.Has waiter [] []

variable {received buffer : List T} {m : T}

omit [DecidableEq K] in
theorem Has.modify_ne {f : Chan T → Chan T} {other : Nat} (has : r.Has waiter received buffer)
    (ne : other ≠ waiter) (serving : List Nat) :
    Has { r with serving, chans := r.chans.modify other f } waiter received buffer := by
  rcases has with ⟨chan, found, stands⟩
  exact ⟨chan, (List.getElem?_modify_ne f _ ne).trans found, stands⟩

theorem has_step (has : r.Has waiter received buffer) (stays : e ≠ .leave waiter)
    (taken : r.apply capacity e = some r') :
    (r'.Has waiter received buffer ∧ e ≠ .receive waiter ∧
        ∀ m, e = .answer m → r.serving.head? ≠ some waiter) ∨
      (∃ m rest, e = .answer m ∧ r.serving = waiter :: rest ∧ r'.serving = rest ∧
        r'.registered = r.registered ∧ r'.Has waiter received (buffer ++ [m])) ∨
      (e = .receive waiter ∧
        ∃ m rest, buffer = m :: rest ∧ r'.Has waiter (received ++ [m]) rest) := by
  cases apply_moves taken with
  | idle => exact .inl ⟨has, by simp, by simp⟩
  | register key =>
    rcases has with ⟨chan, found, stands⟩
    refine .inl ⟨⟨chan, ?_, stands⟩, by simp, by simp⟩
    exact (List.getElem?_append_left (getElem?_lt found)).trans found
  | serve key free => exact .inl ⟨has, by simp, by simp⟩
  | skip serves found closed => exact .inl ⟨has, by simp, by simp⟩
  | @answer first rest m serves =>
    by_cases same : first = waiter
    · subst same
      rcases has with ⟨chan, found, opened, rfl, rfl⟩
      exact .inr (.inl ⟨m, rest, rfl, serves, rfl, rfl, chan.push m, by simp [found], opened,
        rfl, rfl⟩)
    · exact .inl ⟨has.modify_ne same _, by simp, fun _ _ => by simpa [serves] using same⟩
  | @receive other chan' found' buffered =>
    by_cases same : other = waiter
    · subst same
      rcases has with ⟨chan, found, opened, rfl, rfl⟩
      obtain rfl := Option.some.inj (found.symm.trans found')
      rcases List.exists_cons_of_ne_nil buffered with ⟨m, rest, split⟩
      refine .inr (.inr ⟨rfl, m, rest, split, chan.pop, by simp [found], opened, ?_, ?_⟩)
      · simp [Chan.pop, split]
      · simp [Chan.pop, split]
    · exact .inl ⟨has.modify_ne same _, by simpa using same, by simp⟩
  | leave other =>
    have ne : other ≠ waiter := by simpa using stays
    exact .inl ⟨has.modify_ne ne _, by simp, by simp⟩
  | clear => exact .inl ⟨has, by simp, by simp⟩

theorem length_step (taken : r.apply capacity e = some r') : r.chans.length ≤ r'.chans.length := by
  cases apply_moves taken with
  | register key => simp
  | answer m serves => simp
  | receive found buffered => simp
  | leave waiter => simp
  | _ => exact Nat.le_refl _

theorem registered_old (member : waiter ∈ r'.registered key)
    (taken : r.apply capacity e = some r') :
    waiter ∈ r.registered key ∨ (e = .register key ∧ waiter = r.chans.length) := by
  cases apply_moves taken with
  | register other =>
    rcases mem_update.mp member with ⟨rfl, inside⟩ | ⟨-, inside⟩
    · exact (List.mem_append.mp inside).imp_right fun h => ⟨rfl, List.mem_singleton.mp h⟩
    · exact .inl inside
  | serve other free =>
    rcases mem_update.mp member with ⟨-, inside⟩ | ⟨-, inside⟩
    · cases inside
    · exact .inl inside
  | clear => cases member
  | _ => exact .inl member

theorem held_step (held : r'.Held waiter) (taken : r.apply capacity e = some r') :
    r.Held waiter ∨ waiter = r.chans.length := by
  rcases held with ⟨key, member⟩ | member
  · rcases registered_old member taken with before | ⟨-, fresh⟩
    · exact .inl (.inl ⟨key, before⟩)
    · exact .inr fresh
  left
  cases apply_moves taken with
  | serve key free => exact .inl ⟨key, member⟩
  | skip serves found closed => exact .inr (serves ▸ List.mem_cons_of_mem _ member)
  | answer m serves => exact .inr (serves ▸ List.mem_cons_of_mem _ member)
  | _ => exact .inr member

theorem not_held_step (free : ¬ r.Held waiter) (has : r.Has waiter received buffer)
    (taken : r.apply capacity e = some r') : ¬ r'.Held waiter := by
  intro held
  rcases has with ⟨chan, found, -⟩
  rcases held_step held taken with before | rfl
  · exact free before
  · exact Nat.lt_irrefl _ (getElem?_lt found)

theorem registered_step (member : waiter ∈ r.registered key)
    (taken : r.apply capacity e = some r') :
    (e = .serve key ∧ waiter ∈ r'.serving) ∨ (e = .clear ∧ r'.serving = r.serving ∧
      ∀ other, waiter ∉ r'.registered other) ∨
      (e ≠ .serve key ∧ e ≠ .clear ∧ waiter ∈ r'.registered key) := by
  cases apply_moves taken with
  | register other =>
    refine .inr (.inr ⟨nofun, nofun, mem_update.mpr ?_⟩)
    by_cases same : key = other
    · subst same
      exact .inl ⟨rfl, List.mem_append_left _ member⟩
    · exact .inr ⟨same, member⟩
  | serve other free =>
    by_cases same : key = other
    · subst same
      exact .inl ⟨rfl, member⟩
    · exact .inr (.inr ⟨by simpa using Ne.symm same, nofun, mem_update.mpr (.inr ⟨same, member⟩)⟩)
  | clear => exact .inr (.inl ⟨rfl, rfl, nofun⟩)
  | _ => exact .inr (.inr ⟨nofun, nofun, member⟩)

/-- A registered waiter is resolved by nothing but the serving of its key and a clearing. -/
theorem Waits.step (waits : r.Waits key waiter) (valid : r.Valid capacity)
    (stays : e ≠ .leave waiter) (taken : r.apply capacity e = some r') :
    (e = .serve key ∧ r'.Called waiter) ∨ (e = .clear ∧ r'.Dismissed waiter) ∨
      (e ≠ .serve key ∧ e ≠ .clear ∧ r'.Waits key waiter) := by
  rcases waits with ⟨member, has⟩
  have unserved : waiter ∉ r.serving := fun inside =>
    valid.servingApart key waiter inside member
  have kept : r'.Has waiter [] [] := by
    rcases has_step has stays taken with
      ⟨kept, -⟩ | ⟨m, rest, -, serves, -⟩ | ⟨-, m, rest, empty, -⟩
    · exact kept
    · exact absurd (by simp [serves]) unserved
    · cases empty
  rcases registered_step member taken with
    ⟨rfl, serves⟩ | ⟨rfl, same, gone⟩ | ⟨other, uncleared, stands⟩
  · exact .inl ⟨rfl, serves, kept⟩
  · refine .inr (.inl ⟨rfl, ?_, kept⟩)
    intro either
    rcases either with ⟨other, inside⟩ | inside
    · exact gone other inside
    · exact unserved (same ▸ inside)
  · exact .inr (.inr ⟨other, uncleared, stands, kept⟩)

theorem Called.step (called : r.Called waiter) (valid : r.Valid capacity)
    (stays : e ≠ .leave waiter) (taken : r.apply capacity e = some r') :
    (r'.Called waiter ∧ e ≠ .receive waiter) ∨ ∃ m, e = .answer m ∧ r'.Answered m waiter := by
  rcases called with ⟨member, has⟩
  rcases has_step has stays taken with
    ⟨kept, ne, unanswered⟩ | ⟨m, rest, rfl, serves, rests, same, kept⟩ | ⟨rfl, m, rest, empty, -⟩
  · refine .inl ⟨⟨?_, kept⟩, ne⟩
    cases apply_moves taken with
    | serve key free => rw [free] at member; cases member
    | skip serves found closed =>
      rw [serves] at member
      apply (List.mem_cons.mp member).resolve_left
      intro same
      subst same
      rcases has with ⟨chan, found', opened, -⟩
      obtain rfl := Option.some.inj (found.symm.trans found')
      exact absurd (closed.symm.trans opened) (by decide)
    | answer m serves =>
      rw [serves] at member
      apply (List.mem_cons.mp member).resolve_left
      intro same
      subst same
      exact unanswered m rfl (by simp [serves])
    | _ => exact member
  · refine .inr ⟨m, rfl, ?_, kept⟩
    have once := valid.servingOnce
    rw [serves, List.nodup_cons] at once
    intro either
    rcases either with ⟨other, inside⟩ | inside
    · exact valid.servingApart other waiter member (same ▸ inside)
    · exact once.1 (rests ▸ inside)
  · cases empty

theorem Answered.step (answered : r.Answered m waiter) (stays : e ≠ .leave waiter)
    (taken : r.apply capacity e = some r') :
    (r'.Answered m waiter ∧ e ≠ .receive waiter) ∨
      (e = .receive waiter ∧ r'.Collected m waiter) := by
  rcases answered with ⟨free, has⟩
  have free' := not_held_step free has taken
  rcases has_step has stays taken with
    ⟨kept, ne, -⟩ | ⟨n, rest, rfl, serves, -⟩ | ⟨rfl, n, rest, split, kept⟩
  · exact .inl ⟨⟨free', kept⟩, ne⟩
  · exact absurd (.inr (by simp [serves])) free
  · cases split
    exact .inr ⟨rfl, free', kept⟩

/-- A channel that nobody holds and that is drained gets no message any more. -/
theorem drained_step (free : ¬ r.Held waiter) (has : r.Has waiter received [])
    (stays : e ≠ .leave waiter) (taken : r.apply capacity e = some r') :
    ¬ r'.Held waiter ∧ r'.Has waiter received [] ∧ e ≠ .receive waiter := by
  rcases has_step has stays taken with
    ⟨kept, ne, -⟩ | ⟨n, rest, rfl, serves, -⟩ | ⟨rfl, n, rest, split, -⟩
  · exact ⟨not_held_step free has taken, kept, ne⟩
  · exact absurd (.inr (by simp [serves])) free
  · cases split

end Room

end AsyncForge.WaitingRoom
