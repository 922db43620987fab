import Mathlib.Data.List.TakeWhile

/-!
# Runs of characters

The run that a text begins with goes on as long as the characters pass a test.
Where something else is put behind the text, the run is over there at the
latest, unless what was put there begins with a character that passes too. The
digits of a number are a run of this kind.
-/

namespace SpatialSql.Text

variable {test : Char → Bool} {cs rest : List Char}

theorem takeWhile_append_of_stop (stop : ∀ c ∈ rest.head?, test c = false) :
    (cs ++ rest).takeWhile test = cs.takeWhile test := by
  induction cs with
  | nil =>
    cases rest with
    | nil => rfl
    | cons c rest =>
      exact List.takeWhile_cons_of_neg (Bool.eq_false_iff.mp (stop c rfl))
  | cons c cs ih => rw [List.cons_append, List.takeWhile_cons, List.takeWhile_cons, ih]

theorem dropWhile_append_of_stop (stop : ∀ c ∈ rest.head?, test c = false) :
    (cs ++ rest).dropWhile test = cs.dropWhile test ++ rest := by
  induction cs with
  | nil =>
    cases rest with
    | nil => rfl
    | cons c rest =>
      exact List.dropWhile_cons_of_neg (Bool.eq_false_iff.mp (stop c rfl))
  | cons c cs ih =>
    rw [List.cons_append, List.dropWhile_cons, List.dropWhile_cons, ih]
    split <;> rfl

/-- A text whose characters all pass is the run, and what was put behind it is
what the run leaves. -/
theorem run_append (all : ∀ c ∈ cs, test c = true)
    (stop : ∀ c ∈ rest.head?, test c = false) :
    (cs ++ rest).takeWhile test = cs ∧ (cs ++ rest).dropWhile test = rest := by
  rw [takeWhile_append_of_stop stop, dropWhile_append_of_stop stop,
    List.takeWhile_eq_self_iff.mpr all, List.dropWhile_eq_nil_iff.mpr all]
  exact ⟨rfl, List.nil_append rest⟩

theorem isDigit_toDigits (n : Nat) : ∀ c ∈ Nat.toDigits 10 n, c.isDigit = true :=
  fun _ mem => Nat.isDigit_of_mem_toDigits (by decide) (by decide) mem

end SpatialSql.Text
