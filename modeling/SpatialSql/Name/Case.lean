/-!
# Letter case of names

Names are compared up to the case of ASCII letters. All other characters stand
for themselves: `É` and `é` are two names, and so are `K` and the Kelvin sign.
-/

namespace SpatialSql.Name

/-- The name with its ASCII capitals lowered: the representative of all names
equal to it up to ASCII case. -/
def fold (name : String) : String :=
  name.map Char.toLower

theorem toLower_of_capital {c : Char} (h : c.val ≥ 'A'.val ∧ c.val ≤ 'Z'.val) :
    c.toLower.val = c.val + 32 := by
  unfold Char.toLower
  rw [dif_pos h]
  rfl

theorem toLower_of_not_capital {c : Char}
    (h : ¬ (c.val ≥ 'A'.val ∧ c.val ≤ 'Z'.val)) : c.toLower = c := by
  unfold Char.toLower
  rw [dif_neg h]

theorem toLower_toLower (c : Char) : c.toLower.toLower = c.toLower := by
  apply toLower_of_not_capital
  by_cases h : c.val ≥ 'A'.val ∧ c.val ≤ 'Z'.val
  · rw [toLower_of_capital h]
    obtain ⟨low, high⟩ := h
    simp only [ge_iff_le, UInt32.le_iff_toNat_le, UInt32.toNat_add] at low high ⊢
    simp at low high ⊢
    omega
  · rwa [toLower_of_not_capital h]

theorem toList_fold (name : String) :
    (fold name).toList = name.toList.map Char.toLower := by
  simp [fold, String.toList_map]

/-- Folding is idempotent: a folded name is its own representative. -/
@[simp] theorem fold_fold (name : String) : fold (fold name) = fold name := by
  apply String.toList_inj.mp
  rw [toList_fold, toList_fold, List.map_map]
  exact List.map_congr_left fun c _ => toLower_toLower c

end SpatialSql.Name
