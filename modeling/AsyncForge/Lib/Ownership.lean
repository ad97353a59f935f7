import Mathlib.Data.Set.Insert
import Mathlib.Logic.Relation
import AsyncForge.Lib.Channels
import AsyncForge.Lib.Runs

/-! What is kept alive by whom. Parties hold objects, objects hold objects, and an object is dropped
    with the last of its holders. -/

namespace AsyncForge.Ownership

open AsyncForge.Channels AsyncForge.Runs Relation

section Live

variable {α : Type*} {parties : Set α} {holds : α → α → Prop} {x y : α}

/-- Some party holds the object, itself or through others. -/
def Live (parties : Set α) (holds : α → α → Prop) (x : α) : Prop :=
  ∃ party ∈ parties, ReflTransGen holds party x

theorem Live.of_party (member : x ∈ parties) : Live parties holds x :=
  ⟨x, member, .refl⟩

theorem Live.of_holder (holder : Live parties holds x) (held : holds x y) :
    Live parties holds y := by
  rcases holder with ⟨party, member, path⟩
  exact ⟨party, member, path.tail held⟩

theorem live_iff : Live parties holds x ↔ x ∈ parties ∨ ∃ y, Live parties holds y ∧ holds y x := by
  constructor
  · intro live
    rcases live with ⟨party, member, path⟩
    rcases path.cases_tail with rfl | ⟨y, before, held⟩
    · exact .inl member
    · exact .inr ⟨y, ⟨party, member, before⟩, held⟩
  · intro either
    rcases either with member | ⟨y, live, held⟩
    · exact .of_party member
    · exact live.of_holder held

/-- An object that nothing holds is live only as a party. -/
theorem live_iff_of_unheld (unheld : ∀ y, ¬ holds y x) : Live parties holds x ↔ x ∈ parties := by
  rw [live_iff]
  constructor
  · intro either
    rcases either with member | ⟨y, -, held⟩
    · exact member
    · exact absurd held (unheld y)
  · exact .inl

end Live

/-- A party that leaves only when an object is dead stays for ever if it holds the object. -/
theorem stays {σ ι α : Type*} {step : σ → ι → Option σ} {parties : σ → Set α}
    {holds : σ → α → α → Prop} {party x : α} {start s : σ} {trace : List (σ × ι)}
    (leaves : ∀ s a s', Reachable step start s → step s a = some s' → party ∈ parties s →
      party ∉ parties s' → ¬ Live (parties s) (holds s) x)
    (path : ∀ s, ReflTransGen (holds s) party x) (run : Run step start trace s)
    (initial : party ∈ parties start) : party ∈ parties s := by
  induction run with
  | nil => exact initial
  | @snoc trace s s' a before last ih =>
    by_contra left
    exact leaves s a s' before.reachable last ih left ⟨party, ih, path s⟩

section Streams

variable {T : Type*}

inductive Received (T : Type*)
  | item (m : T)
  -- Nothing to receive yet.
  | pending
  -- The end of the stream.
  | ended
  deriving DecidableEq

/-- What the receiver of the channel sees; `live` says that a sender of the channel is live. -/
def recv (chan : Chan T) (live : Bool) : Received T :=
  match chan.buffer with
  | m :: _ => .item m
  | [] => if chan.closed || !live then .ended else .pending

theorem recv_ended {chan : Chan T} {live : Bool} :
    recv chan live = .ended ↔ chan.buffer = [] ∧ (chan.closed = true ∨ live = false) := by
  unfold recv
  split
  next filled => simp [filled]
  next drained => cases shut : chan.closed <;> simp [drained]

theorem recv_live (chan : Chan T) (opened : chan.closed = false) : recv chan true ≠ .ended := by
  simp [recv_ended, opened]

theorem recv_pending {chan : Chan T} (opened : chan.closed = false) (drained : chan.buffer = []) :
    recv chan true = .pending := by
  simp [recv, opened, drained]

end Streams

end AsyncForge.Ownership
