import BlockCustody.Content.Id

/-!
Contract: byte strings that the digest does not tell apart.

Owns: when two byte strings collide, and that digests and ids tell all others apart.

Does not own: salted digests.
-/

namespace BlockCustody

/-- Two byte strings that the digest does not tell apart. -/
def Collide (left right : Bytes) : Prop :=
  left ≠ right ∧ Digest.Blake3.hash left = Digest.Blake3.hash right

instance (left right : Bytes) : Decidable (Collide left right) :=
  inferInstanceAs (Decidable (_ ∧ _))

theorem eq_of_hash_eq
    {left right : Bytes}
    (noCollision : ¬ Collide left right)
    (same : Digest.Blake3.hash left = Digest.Blake3.hash right) :
    left = right :=
  Decidable.byContradiction fun distinct => noCollision ⟨distinct, same⟩

/-- Byte strings that one id names are the same, or collide. -/
theorem eq_or_collide_of_names
    {id : ContentId}
    {left right : Bytes}
    (namesLeft : id.names left = true)
    (namesRight : id.names right = true) :
    left = right ∨ Collide left right := by
  have sameId : ContentId.ofContent left = ContentId.ofContent right :=
    (of_decide_eq_true namesLeft).trans (of_decide_eq_true namesRight).symm
  by_cases same : left = right
  · exact Or.inl same
  · exact Or.inr ⟨same, congrArg ContentId.bytes sameId⟩

end BlockCustody
