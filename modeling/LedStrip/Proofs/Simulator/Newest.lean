import LedStrip.Recent

/-!
# The newest elements of the newest

Keeping the newest elements time and again is keeping the newest of all that there ever was: the
limits only have to be taken together.
-/

namespace LedStrip

variable {α : Type}

/-- Cutting twice is cutting to the smaller limit. -/
theorem newest_newest (limit kept : Nat) (xs : List α) :
    newest limit (newest kept xs) = newest (min kept limit) xs := by
  rw [newest, length_newest, newest, newest, List.drop_drop]
  congr 1
  omega

/-- Adding to what is kept and cutting is cutting all that was added, to a limit of one more than
was kept. -/
theorem newest_append_newest (limit kept : Nat) (xs : List α) (x : α) :
    newest limit (newest kept xs ++ [x]) = newest (min (kept + 1) limit) (xs ++ [x]) := by
  have one_more : newest kept xs ++ [x] = newest (kept + 1) (xs ++ [x]) := by
    rw [newest, newest, List.length_append, List.length_singleton, Nat.add_sub_add_right,
      List.drop_append_of_le_length (Nat.sub_le ..)]
  rw [one_more, newest_newest]

/-- To add elements to the newest ones and cut again is to cut all that there ever were. -/
theorem newest_append (limit : Nat) (xs ys : List α) :
    newest limit (newest limit xs ++ ys) = newest limit (xs ++ ys) := by
  rw [newest, List.length_append, length_newest, newest, newest,
    ← List.drop_append_of_le_length (Nat.sub_le ..), List.drop_drop, List.length_append]
  congr 1
  omega

/-- The last of the newest elements is the last of all, unless none are kept. -/
theorem getLast?_newest {limit : Nat} (positive : 0 < limit) (xs : List α) :
    (newest limit xs).getLast? = xs.getLast? := by
  rw [newest, List.getLast?_drop]
  split
  · next all =>
    have empty : xs = [] := List.eq_nil_of_length_eq_zero (by omega)
    rw [empty, List.getLast?_nil]
  · rfl

end LedStrip
