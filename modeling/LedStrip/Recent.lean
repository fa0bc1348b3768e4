/-!
# The newest elements

A sequence of which only the newest elements are kept, up to a limit.  The view is `toList`, oldest
element first: to add an element is to append it and keep the newest ones (`toList_push`), and so is
to change the limit (`toList_withLimit`).
-/

namespace LedStrip

/-- The newest elements of a list, up to a limit. -/
def newest {α : Type} (limit : Nat) (xs : List α) : List α := xs.drop (xs.length - limit)

theorem length_newest {α : Type} (limit : Nat) (xs : List α) :
    (newest limit xs).length = min xs.length limit := by
  simp only [newest, List.length_drop]
  omega

/-- At most `limit` elements, in two parts so that neither end is far away. -/
structure Recent (α : Type) where
  limit : Nat
  /-- The older elements, oldest first. -/
  older : List α
  /-- The newer elements, newest first. -/
  newer : List α
  size : Nat
  size_eq : size = older.length + newer.length
  size_le : size ≤ limit

namespace Recent

variable {α : Type}

/-- The elements, oldest first. -/
def toList (r : Recent α) : List α := r.older ++ r.newer.reverse

/-- No elements yet. -/
def empty (limit : Nat) : Recent α := ⟨limit, [], [], 0, rfl, Nat.zero_le _⟩

/-- The newest element. -/
def last? (r : Recent α) : Option α := r.newer.head?.or r.older.getLast?

/-- Add an element; the oldest one makes room for it if need be. -/
def push (r : Recent α) (a : α) : Recent α :=
  if none : r.limit = 0 then r
  else if room : r.size < r.limit then
    { r with
      newer := a :: r.newer
      size := r.size + 1
      size_eq := by simp [r.size_eq, Nat.add_assoc]
      size_le := room }
  else
    match older : r.older with
    | _ :: rest =>
      { r with
        older := rest
        newer := a :: r.newer
        size_eq := by
          have := r.size_eq
          simp only [older, List.length_cons] at this ⊢
          omega }
    | [] =>
      { r with
        older := r.newer.reverse.tail
        newer := [a]
        size_eq := by
          have := r.size_eq
          simp only [older, List.length_nil] at this
          simp only [List.length_tail, List.length_reverse, List.length_singleton]
          omega }

/-- Change the limit; the oldest elements are given up if there are too many now. -/
def withLimit (r : Recent α) (limit : Nat) : Recent α where
  limit := limit
  older := newest limit r.toList
  newer := []
  size := min r.size limit
  size_eq := by simp [length_newest, toList, r.size_eq]
  size_le := Nat.min_le_right _ _

theorem length_toList (r : Recent α) : r.toList.length = r.size := by
  simp [toList, r.size_eq]

theorem toList_empty (limit : Nat) : (empty limit : Recent α).toList = [] := rfl

theorem toList_push (r : Recent α) (a : α) :
    (r.push a).toList = newest r.limit (r.toList ++ [a]) := by
  have count := r.length_toList
  have bound := r.size_le
  have cut : newest r.limit (r.toList ++ [a]) = (r.toList ++ [a]).drop (r.size + 1 - r.limit) := by
    simp [newest, count]
  rw [cut]
  unfold push
  split
  · have nil : r.toList = [] := List.length_eq_zero_iff.1 (by omega)
    have : r.size + 1 - r.limit = 1 := by omega
    simp [nil, this]
  · split
    · have : r.size + 1 - r.limit = 0 := by omega
      simp [this, toList]
    · have : r.size + 1 - r.limit = 1 := by omega
      rw [this]
      split <;> rename_i older
      · simp [toList, older]
      · have nonempty : r.newer.reverse ≠ [] := by
          intro nil
          simp [toList, older, nil] at count
          omega
        obtain ⟨x, xs, reversed⟩ := List.exists_cons_of_ne_nil nonempty
        simp [toList, older, reversed]

theorem limit_push (r : Recent α) (a : α) : (r.push a).limit = r.limit := by
  unfold push
  repeat' split
  all_goals rfl

theorem toList_withLimit (r : Recent α) (limit : Nat) :
    (r.withLimit limit).toList = newest limit r.toList := by
  simp [withLimit, toList]

theorem last?_eq (r : Recent α) : r.last? = r.toList.getLast? := by
  cases newer : r.newer <;> simp [last?, toList, newer]

end Recent

end LedStrip
