import Mathlib.Data.List.Induction

/-!
Contract: what has come about in a history and has not been undone since.

Owns: the notion, over any kind of event, and how one more event bears on it.

Does not own: what counts as coming about, and what undoes it.
-/

namespace BlockCustody

/-- At some point of the history something came about, and no later event undid it. What
an event brings about may depend on the events before it. -/
def Lasts {event : Type} (starts : List event → event → Prop) (stops : event → Prop)
    (history : List event) : Prop :=
  ∃ before start later, history = before ++ start :: later ∧ starts before start ∧
    ∀ since ∈ later, ¬ stops since

variable {event : Type} {starts : List event → event → Prop} {stops : event → Prop}

theorem not_lasts_nil : ¬ Lasts starts stops [] := by
  rintro ⟨before, start, later, isHistory, _⟩
  exact List.append_ne_nil_of_right_ne_nil before (List.cons_ne_nil start later) isHistory.symm

theorem lasts_append_singleton {history : List event} {last : event} :
    Lasts starts stops (history ++ [last]) ↔
      starts history last ∨ Lasts starts stops history ∧ ¬ stops last := by
  constructor
  · rintro ⟨before, start, later, isHistory, started, kept⟩
    rcases later.eq_nil_or_concat with rfl | ⟨others, final, rfl⟩
    · obtain ⟨rfl, same⟩ := List.append_inj' isHistory rfl
      cases same
      exact Or.inl started
    · rw [List.concat_eq_append, ← List.cons_append, ← List.append_assoc] at isHistory
      obtain ⟨isEarlier, same⟩ := List.append_inj' isHistory rfl
      cases same
      refine Or.inr ⟨⟨before, start, others, isEarlier, started, ?_⟩, ?_⟩
      · intro since member
        exact kept since (by simp [member])
      · exact kept last (by simp)
  · rintro (started | ⟨⟨before, start, later, rfl, started, kept⟩, notStopped⟩)
    · exact ⟨history, last, [], rfl, started, by simp⟩
    · refine ⟨before, start, later ++ [last], by simp, started, ?_⟩
      intro since member
      rcases List.mem_append.mp member with earlier | isLast
      · exact kept since earlier
      · rwa [List.mem_singleton.mp isLast]

end BlockCustody
