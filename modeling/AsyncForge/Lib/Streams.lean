import AsyncForge.Lib.Ownership

/-! The end of a stream: its receiver has received everything, and nothing can follow. -/

namespace AsyncForge.Streams

open AsyncForge.Channels AsyncForge.Ownership AsyncForge.Runs

variable {σ α T : Type*} {step : σ → α → Option σ} {start s : σ} {trace : List (σ × α)}

/-- Nothing was put into the channel; its receiver may have gone on, or closed it. -/
structure Still (c c' : Chan T) : Prop where
  sent : c'.sent = c.sent
  received : c.received <+: c'.received
  closed : c.closed = true → c'.closed = true

theorem Still.refl (c : Chan T) : Still c c := ⟨rfl, List.prefix_rfl, id⟩

theorem Still.pop (c : Chan T) : Still c c.pop := ⟨c.sent_pop, List.prefix_append _ _, id⟩

theorem Still.close (c : Chan T) : Still c c.close := ⟨rfl, List.prefix_rfl, fun _ => rfl⟩

theorem still_modify {rows : List (Chan T)} {r : Nat} {c : Chan T} (i : Nat) (f : Chan T → Chan T)
    (present : rows[r]? = some c) (still : i = r → Still c (f c)) :
    ∃ c', (rows.modify i f)[r]? = some c' ∧ Still c c' := by
  rw [List.getElem?_modify, present]
  by_cases same : i = r
  · exact ⟨f c, by simp [same], still same⟩
  · exact ⟨c, by simp [same], Still.refl c⟩

theorem Still.drained {c c' : Chan T} (still : Still c c') (drained : c.buffer = []) :
    c'.buffer = [] := by
  have sent := still.sent
  rcases still.received with ⟨more, received⟩
  rw [Chan.sent, Chan.sent, ← received, drained, List.append_assoc] at sent
  exact (List.append_eq_nil_iff.mp (List.append_cancel_left sent)).2

/-- Where a channel that is closed or has no live sender is left alone, the end of its stream is
    final. -/
theorem ended_for_good {Inv : σ → Prop} {chan : σ → Option (Chan T)} {live : σ → Bool}
    (keep : ∀ s a s', Inv s → step s a = some s' → Inv s')
    (still : ∀ s a s' c, Inv s → step s a = some s' → chan s = some c →
      c.closed = true ∨ live s = false →
        ∃ c', chan s' = some c' ∧ Still c c' ∧ (live s = false → live s' = false))
    (run : Run step start trace s) (initial : Inv start) {c : Chan T} (found : chan start = some c)
    (ended : recv c (live start) = .ended) :
    ∃ c', chan s = some c' ∧ recv c' (live s) = .ended ∧ c'.sent = c.sent := by
  induction run with
  | nil => exact ⟨c, found, ended, rfl⟩
  | @snoc trace t t' a before last ih =>
    rcases ih with ⟨c', found', ended', sent⟩
    rcases recv_ended.mp ended' with ⟨drained, shut'⟩
    rcases still t a t' c' (before.invariant keep initial) last found' shut'
      with ⟨c'', found'', continues, gone⟩
    have final := recv_ended.mpr ⟨continues.drained drained, shut'.imp continues.closed gone⟩
    exact ⟨c'', found'', final, continues.sent.trans sent⟩

end AsyncForge.Streams
