import BlockCustody.Proofs.Reading.ReadsBack

/-!
Contract: readers whose answer stands when more symbols follow.

Owns:
- when a reader is steady, short of input that has ended too early;
- that this composes over reading one thing after another and over counted
  like things.

Does not own: which faults say that the input has ended.
-/

namespace BlockCustody.FrontReader

variable {symbol fault α β : Type} {ended : fault → Prop}

/-- What the reader has made of its input stands when more follows: a value with what was
left behind it, a fault as it is. Only where the input has ended too early is it open. -/
structure Steady (ended : fault → Prop) (reader : FrontReader symbol fault α) : Prop where
  value : ∀ {input value rest}, reader input = .ok (value, rest) →
    ∀ more, reader (input ++ more) = .ok (value, rest ++ more)
  fault : ∀ {input reason}, reader input = .error reason →
    ended reason ∨ ∀ more, reader (input ++ more) = .error reason

theorem steady_pure (value : α) : Steady ended (pure value : FrontReader symbol fault α) where
  value := by
    intro input found rest isRead more
    cases isRead
    rfl
  fault := by
    intro input reason isRefused
    cases isRefused

theorem steady_refuse (reason : fault) :
    Steady ended (refuse reason : FrontReader symbol fault α) where
  value := by
    intro input found rest isRead
    cases isRead
  fault := by
    intro input found isRefused
    cases isRefused
    exact Or.inr fun _ => rfl

theorem Steady.bind
    {first : FrontReader symbol fault α}
    {next : α → FrontReader symbol fault β}
    (firstSteady : first.Steady ended)
    (nextSteady : ∀ value, (next value).Steady ended) :
    (first >>= next).Steady ended where
  value := by
    intro input result rest isRead more
    rw [bind_apply] at isRead ⊢
    cases firstRead : first input with
    | error reason =>
        rw [firstRead] at isRead
        cases isRead
    | ok read =>
        rw [firstRead] at isRead
        rw [firstSteady.value firstRead more]
        exact (nextSteady read.1).value isRead more
  fault := by
    intro input reason isRefused
    rw [bind_apply] at isRefused
    cases firstRead : first input with
    | error earlier =>
        rw [firstRead] at isRefused
        cases isRefused
        refine (firstSteady.fault firstRead).imp_right ?_
        intro stands more
        rw [bind_apply, stands more]
    | ok read =>
        rw [firstRead] at isRefused
        refine ((nextSteady read.1).fault isRefused).imp_right ?_
        intro stands more
        rw [bind_apply, firstSteady.value firstRead more]
        exact stands more

theorem Steady.items
    {item : FrontReader symbol fault α}
    (itemSteady : item.Steady ended)
    (count : Nat)
    (found : List α) :
    (FrontReader.items item count found).Steady ended := by
  induction count generalizing found with
  | zero => exact steady_pure found.reverse
  | succ count inductionHypothesis =>
      rw [items_succ]
      exact itemSteady.bind fun value => inductionHypothesis (value :: found)

end BlockCustody.FrontReader
