import LedStrip.Proofs.Json.Values
import Mathlib.Data.List.Forall2

/-!
# Reading what brackets hold

The readers of lists and objects take one item at a time, led by a blank or a comma, and leave the
bracket at its end.  A list yields the values that its elements yield (`readList_yields`), and one
that is accepted has been read up to its end with all its elements accepted (`rest_of_readList`).
-/

namespace LedStrip.Json

variable {α β : Type}

/-- A reader accepts a text in some place. -/
def Accepts (read : List Char → Reading (α × List Char)) (text : List Char) : Prop :=
  ∃ w rest out, Blank w ∧ Ends rest ∧ read (w ++ (text ++ rest)) = .ok out

theorem Yields.eq_ok {read : List Char → Reading (α × List Char)} {text w rest : List Char} {a : α}
    (yields : Yields read text (.ok a)) (blank : Blank w) (ends : Ends rest) :
    read (w ++ (text ++ rest)) = .ok (a, rest) :=
  eq_ok_of_verdict (yields w rest blank ends)

/-! ## How texts begin -/

theorem begins_toString (n : Nat) : Begins (toString n).toList := by
  obtain ⟨c, t, front, first⟩ := (whole_toDigits n).head
  exact ⟨c, t, (toList_toString n).trans front, .inr first⟩

theorem begins_toString_bool (b : Bool) : Begins (toString b).toList := by
  cases b
  · exact ⟨'f', "alse".toList, by decide, .inl (by decide)⟩
  · exact ⟨'t', "rue".toList, by decide, .inl (by decide)⟩

theorem IsString.begins {cs : List Char} (string : IsString cs) : Begins cs := by
  obtain ⟨t, rfl⟩ := string.head
  exact ⟨'"', t, rfl, .inl (by decide)⟩

theorem IsList.begins {texts : List (List Char)} {cs : List Char} (list : IsList texts cs) :
    Begins cs := by
  obtain ⟨-⟩ := list
  exact ⟨'[', _, rfl, .inl (by decide)⟩

/-! ## Items -/

theorem nextElement?_item {first : Bool} {lead : List Char} (led : Lead first lead) {c : Char}
    (starts : Starts c) (cs : List Char) :
    nextElement? first (lead ++ c :: cs) = .ok (some (c :: cs)) := by
  have other : c ≠ ']' := by
    rintro rfl
    exact starts.not_mem (by decide)
  cases led with
  | first blank =>
    rw [nextElement?, skipBlank_append_cons blank starts.solid]
    dsimp only
    rw [if_neg other, if_pos rfl]
  | next blank blank' =>
    rw [nextElement?, List.append_assoc, List.cons_append, skipBlank_append_cons blank (by decide)]
    dsimp only
    rw [if_neg (by decide), if_neg (by decide), if_pos rfl,
      skipBlank_append_cons blank' starts.solid]
    dsimp only
    rw [if_neg other]

theorem nextElement?_close (first : Bool) {w : List Char} (blank : Blank w) (cs : List Char) :
    nextElement? first (w ++ ']' :: cs) = .ok none := by
  rw [nextElement?, skipBlank_append_cons blank (by decide)]
  exact if_pos rfl

theorem nextKey?_item {first : Bool} {lead : List Char} (led : Lead first lead)
    (cs : List Char) : nextKey? first (lead ++ '"' :: cs) = (readString cs).map some := by
  cases led with
  | first blank =>
    rw [nextKey?, skipBlank_append_cons blank (by decide)]
    rfl
  | next blank blank' =>
    rw [nextKey?, List.append_assoc, List.cons_append, skipBlank_append_cons blank (by decide)]
    dsimp only
    rw [if_neg (by decide), if_neg (by decide), if_pos rfl,
      skipBlank_append_cons blank' (by decide)]
    rfl

theorem nextKey?_close (first : Bool) {w : List Char} (blank : Blank w) (cs : List Char) :
    nextKey? first (w ++ '\x7d' :: cs) = .ok none := by
  rw [nextKey?, skipBlank_append_cons blank (by decide)]
  exact if_pos rfl

/-- Behind the first item every item takes its comma, and the bracket takes its end. -/
theorem Items.length_lt {close : Char} {items : List (List Char)} {cs : List Char}
    (more : Items close false items cs) : items.length < cs.length := by
  induction items generalizing cs with
  | nil =>
    obtain ⟨-⟩ := more
    simp
  | cons item items ih =>
    obtain _ | ⟨⟨⟩ | ⟨-, -⟩, more⟩ := more
    have := ih more
    simp only [List.length_append, List.length_cons]
    omega

theorem Items.length_le {close : Char} {first : Bool} {items : List (List Char)} {cs : List Char}
    (all : Items close first items cs) : items.length ≤ cs.length := by
  cases all with
  | nil => exact Nat.zero_le _
  | cons _ more =>
    have := more.length_lt
    simp only [List.length_append, List.length_cons]
    omega

/-! ## Ends of brackets -/

theorem leaveList_close {w : List Char} (blank : Blank w) (cs : List Char) :
    leaveList (w ++ ']' :: cs) = (none, cs) := by
  rw [leaveList, skipBlank_append_cons blank (by decide)]
  exact if_pos rfl

theorem leaveObject_close {w : List Char} (blank : Blank w) (cs : List Char) :
    leaveObject (w ++ '\x7d' :: cs) = (none, cs) := by
  rw [leaveObject, skipBlank_append_cons blank (by decide)]
  exact if_pos rfl

theorem settle_eq_ok {leave : List Char → Option Cause × List Char}
    {body : Reading (α × List Char)} {a : α} {rest : List Char}
    (settled : settle leave body = .ok (a, rest)) :
    ∃ cs, body = .ok (a, cs) ∧ leave cs = (none, rest) := by
  rcases body with (_ | _) | ⟨b, cs⟩
  · cases settled
  · cases settled
  · rw [settle] at settled
    split at settled <;> cases settled
    exact ⟨cs, rfl, ‹_›⟩

/-- A bracket is refused for the cause for which its body is. -/
theorem verdict_settle_bind (leave : List Char → Option Cause × List Char) (x : Reading β)
    (f : β → Reading (α × List Char)) :
    verdict (settle leave (x >>= f)) = verdict x >>= fun b => verdict (settle leave (f b)) := by
  rcases x with (_ | _) | b <;> rfl

/-! ## Lists -/

theorem readElements_item (item : List Char → Reading (α × List Char)) (fuel : Nat) {first : Bool}
    {lead : List Char} (led : Lead first lead) {c : Char} (starts : Starts c) (cs : List Char) :
    readElements item (fuel + 1) first (lead ++ c :: cs) =
      item (c :: cs) >>= fun (a, cs) =>
        (readElements item fuel false cs).map fun (as, cs) => (a :: as, cs) := by
  rw [readElements, nextElement?_item led starts]
  change (item (c :: cs) >>= _) = _
  rcases item (c :: cs) with refusal | ⟨a, cs⟩
  · rfl
  · change (readElements item fuel false cs >>= _) = Except.map _ (readElements item fuel false cs)
    cases readElements item fuel false cs <;> rfl

theorem readElements_close (item : List Char → Reading (α × List Char)) (fuel : Nat) (first : Bool)
    {w : List Char} (blank : Blank w) (cs : List Char) :
    readElements item (fuel + 1) first (w ++ ']' :: cs) = .ok ([], w ++ ']' :: cs) := by
  rw [readElements, nextElement?_close first blank]
  rfl

theorem readElements_yields {item : List Char → Reading (α × List Char)} {as : List α}
    {texts : List (List Char)} (yields : List.Forall₂ (fun a t => Yields item t (.ok a)) as texts)
    (begins : ∀ t ∈ texts, Begins t) {first : Bool} {cs : List Char}
    (all : Items ']' first texts cs) :
    ∃ w, Blank w ∧ ∀ fuel rest, texts.length ≤ fuel →
      readElements item (fuel + 1) first (cs ++ rest) = .ok (as, w ++ ']' :: rest) := by
  induction yields generalizing first cs with
  | nil =>
    obtain ⟨blank⟩ := all
    refine ⟨_, blank, fun fuel rest _ => ?_⟩
    rw [List.append_assoc, List.singleton_append]
    exact readElements_close item fuel first blank rest
  | @cons a text as texts yields _ ih =>
    obtain _ | ⟨led, more⟩ := all
    obtain ⟨w, blank, read⟩ := ih (fun t mem => begins t (List.mem_cons_of_mem _ mem)) more
    obtain ⟨c, t, rfl, starts⟩ := begins text (List.mem_cons_self ..)
    refine ⟨w, blank, fun fuel rest enough => ?_⟩
    have element := yields.eq_ok blank_nil (more.ends (by decide) rest)
    rw [List.nil_append, List.cons_append] at element
    rw [List.append_assoc, List.append_assoc, List.cons_append, readElements_item _ _ led starts,
      element]
    change Except.map _ (readElements item fuel false _) = _
    obtain ⟨fuel, rfl⟩ := Nat.exists_eq_add_of_lt enough
    rw [read (texts.length + fuel) rest (Nat.le_add_right ..)]
    rfl

/-- A list yields what its elements yield. -/
theorem readList_yields {item : List Char → Reading (α × List Char)} {as : List α}
    {texts : List (List Char)} (yields : List.Forall₂ (fun a t => Yields item t (.ok a)) as texts)
    (begins : ∀ t ∈ texts, Begins t) {cs : List Char} (list : IsList texts cs) :
    Yields (readList item) cs (.ok as) := by
  intro w rest blank _
  obtain ⟨all⟩ := list
  obtain ⟨w', blank', read⟩ := readElements_yields yields begins all
  rw [readList, List.cons_append, skipBlank_append_cons blank (by decide)]
  change verdict (settle leaveList (readElements item ((_ ++ rest).length + 1) true _)) = _
  have enough := all.length_le
  rw [read _ rest (by rw [List.length_append]; omega)]
  change verdict (settle leaveList (.ok _)) = _
  rw [settle, leaveList_close blank']
  rfl

theorem rest_of_readElements {item : List Char → Reading (α × List Char)} (exact : Exact item)
    {texts : List (List Char)} (values : ∀ t ∈ texts, Value t) {first : Bool} {cs : List Char}
    (all : Items ']' first texts cs) {fuel : Nat} {rest cs' : List Char} {as : List α}
    (read : readElements item fuel first (cs ++ rest) = .ok (as, cs')) :
    (∃ w, Blank w ∧ cs' = w ++ ']' :: rest) ∧ ∀ t ∈ texts, Accepts item t := by
  induction texts generalizing first cs fuel as with
  | nil =>
    obtain ⟨blank⟩ := all
    cases fuel with
    | zero => cases read
    | succ fuel =>
      rw [List.append_assoc, List.singleton_append, readElements_close _ _ _ blank] at read
      cases read
      exact ⟨⟨_, blank, rfl⟩, nofun⟩
  | cons text texts ih =>
    obtain _ | ⟨led, more⟩ := all
    have value := values text (List.mem_cons_self ..)
    obtain ⟨c, t, rfl, starts⟩ := value.head
    cases fuel with
    | zero => cases read
    | succ fuel =>
      rw [List.append_assoc, List.append_assoc, List.cons_append,
        readElements_item _ _ led starts] at read
      obtain ⟨⟨a, rest'⟩, element, read⟩ := bind_eq_ok.1 read
      have ends := more.ends (by decide) rest
      have here : item ([] ++ (c :: t ++ _)) = .ok (a, rest') := element
      obtain rfl := exact value blank_nil ends here
      have others : ∀ t ∈ texts, Value t := fun t mem => values t (List.mem_cons_of_mem _ mem)
      obtain ⟨⟨as, cs'⟩, rest_read, out⟩ := map_eq_ok.1 read
      cases out
      obtain ⟨left, accepted⟩ := ih others more rest_read
      refine ⟨left, fun t' mem => ?_⟩
      rcases List.mem_cons.1 mem with rfl | mem
      · exact ⟨[], _, _, blank_nil, ends, here⟩
      · exact accepted t' mem

/-- A list that is accepted has been read up to its end, with all its elements accepted. -/
theorem rest_of_readList {item : List Char → Reading (α × List Char)} (exact : Exact item)
    {texts : List (List Char)} (values : ∀ t ∈ texts, Value t) {cs : List Char}
    (list : IsList texts cs) {w rest rest' : List Char} {as : List α} (blank : Blank w)
    (read : readList item (w ++ (cs ++ rest)) = .ok (as, rest')) :
    rest' = rest ∧ ∀ t ∈ texts, Accepts item t := by
  obtain ⟨all⟩ := list
  rw [readList, List.cons_append, skipBlank_append_cons blank (by decide)] at read
  obtain ⟨cs', read, left⟩ := settle_eq_ok read
  obtain ⟨⟨w', blank', rfl⟩, accepted⟩ := rest_of_readElements exact values all read
  rw [leaveList_close blank'] at left
  cases left
  exact ⟨rfl, accepted⟩

theorem readList_exact {item : List Char → Reading (α × List Char)} (exact : Exact item) :
    Exact (readList item) := by
  intro v w rest as rest' value blank _ read
  obtain ⟨c, t, rfl, starts⟩ := value.head
  have read' := read
  rw [readList, List.cons_append, skipBlank_append_cons blank starts.solid] at read'
  split at read'
  case h_1 front =>
    obtain ⟨rfl, -⟩ := List.cons.inj front
    obtain ⟨texts, list, values⟩ := list_of_head value
    exact (rest_of_readList exact values list blank read).1
  case h_2 => exact (wrongType_ne_ok _ _ _ read').elim

end LedStrip.Json
