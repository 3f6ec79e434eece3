import Mathlib.Data.List.Basic

/-!
# Characters

What is said of each character of a text is decided along the text; `Char` is finite, so the library could also
decide it over all characters.  A fact about letters is a fact about the first 128 characters, since `Char.toLower`
leaves the others alone.
-/

namespace Codec

instance (priority := high) decidableForallMem (text : List Char) (p : Char → Prop) [DecidablePred p] :
    Decidable (∀ c ∈ text, p c) :=
  List.decidableBAll p text

instance lawfulBEqChars : LawfulBEq (List Char) := List.instLawfulBEq

/-- What holds of the first 128 characters, one by one. -/
theorem forall_ascii {P : Char → Prop} (each : ∀ n : Fin 128, P (Char.ofNat n.val)) {c : Char}
    (small : c.toNat < 128) : P c := by
  have one := each ⟨c.toNat, small⟩
  rwa [Char.ofNat_toNat] at one

theorem toLower_of_not_ascii {c : Char} (large : ¬c.toNat < 128) : c.toLower = c := by
  refine dif_neg fun capital => ?_
  have bound : c.val.toNat ≤ 90 := UInt32.le_iff_toNat_le.mp capital.2
  exact large (Nat.lt_of_le_of_lt bound (by decide))

/-- What holds of the first 128 characters and of a character that stays holds in lower case. -/
theorem forall_toLower {P : Char → Char → Prop} (ascii : ∀ n :
    Fin 128, P (Char.ofNat n.val) (Char.ofNat n.val).toLower)
    (same : ∀ c, P c c) (c : Char) : P c c.toLower := by
  by_cases small : c.toNat < 128
  · exact forall_ascii (P := fun c => P c c.toLower) ascii small
  · rw [toLower_of_not_ascii small]
    exact same c

end Codec
