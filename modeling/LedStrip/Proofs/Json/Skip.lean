import LedStrip.Proofs.Json.Numeral
import LedStrip.Proofs.Json.Text

/-!
# Passing over values

Every value of the grammar is passed over exactly, whatever follows it (`skipValue_append`).  The
skipper keeps the open brackets in a list instead of recursing, so what is shown of a value is
that it leads from any open brackets to `goOn` with the same ones behind the value, in no more
steps than it has characters.
-/

namespace LedStrip.Json

/-! ## How values and items begin -/

/-- A character that a value can begin with. -/
def Starts (c : Char) : Prop := c ∈ ['n', 't', 'f', '"', '[', '{', '-'] ∨ c.isDigit = true

theorem Starts.not_mem {c : Char} (starts : Starts c) :
    c ∉ [' ', '\t', '\n', '\r', ',', ']', '}', ':'] := by
  rcases starts with known | digit
  · have apart : ∀ c ∈ ['n', 't', 'f', '"', '[', '{', '-'],
        c ∉ [' ', '\t', '\n', '\r', ',', ']', '}', ':'] := by simp
    exact apart c known
  · have apart : ∀ c ∈ [' ', '\t', '\n', '\r', ',', ']', '}', ':'], c.isDigit = false := by simp
    intro mem
    rw [apart c mem] at digit
    cases digit

theorem Starts.solid {c : Char} (starts : Starts c) : c ∉ [' ', '\t', '\n', '\r'] := by
  have wider : [' ', '\t', '\n', '\r'] ⊆ [' ', '\t', '\n', '\r', ',', ']', '}', ':'] := by decide
  exact fun mem => starts.not_mem (wider mem)

theorem IsNumber.head {cs : List Char} (number : IsNumber cs) :
    ∃ c t, cs = c :: t ∧ (c = '-' ∨ c.isDigit = true) := by
  obtain ⟨known, whole, -, -⟩ := number
  simp only [List.mem_cons, List.not_mem_nil, or_false] at known
  rcases known with rfl | rfl
  · obtain ⟨c, t, rfl, digit⟩ := whole.head
    exact ⟨c, _, rfl, .inr digit⟩
  · exact ⟨'-', _, rfl, .inl rfl⟩

/-- A text begins as a value does. -/
def Begins (text : List Char) : Prop := ∃ c t, text = c :: t ∧ Starts c

theorem Value.head {v : List Char} (value : Value v) : Begins v := by
  cases value with
  | null => exact ⟨'n', _, rfl, .inl (by decide)⟩
  | true => exact ⟨'t', _, rfl, .inl (by decide)⟩
  | false => exact ⟨'f', _, rfl, .inl (by decide)⟩
  | number number =>
    obtain ⟨c, t, rfl, sign | digit⟩ := number.head
    · exact ⟨c, t, rfl, .inl (by simp [sign])⟩
    · exact ⟨c, t, rfl, .inr digit⟩
  | string string =>
    obtain ⟨-⟩ := string
    exact ⟨'"', _, rfl, .inl (by decide)⟩
  | list list _ =>
    obtain ⟨-⟩ := list
    exact ⟨'[', _, rfl, .inl (by decide)⟩
  | object object _ _ =>
    obtain ⟨-⟩ := object
    exact ⟨'{', _, rfl, .inl (by decide)⟩

/-- Behind an item its bracket goes on with a blank, a comma or its end. -/
theorem Items.ends {close : Char} (known : close ∈ [']', '}']) {items : List (List Char)}
    {cs : List Char} (more : Items close false items cs) (rest : List Char) :
    Ends (cs ++ rest) := by
  have blank {w : List Char} (blank : Blank w) {d : Char} (stop : d ∈ [',', ']', '}'])
      (t : List Char) : Ends (w ++ d :: t) := by
    intro c mem
    cases w with
    | nil =>
      obtain rfl := Option.some.inj mem
      simp only [List.mem_cons, List.not_mem_nil, or_false] at stop ⊢
      tauto
    | cons e w =>
      obtain rfl := Option.some.inj mem
      have := blank e (List.mem_cons_self ..)
      simp only [List.mem_cons, List.not_mem_nil, or_false] at this ⊢
      tauto
  cases more with
  | nil w =>
    rw [List.append_assoc]
    exact blank w (List.mem_cons_of_mem _ known) _
  | cons lead more =>
    obtain ⟨⟩ | ⟨w, -⟩ := lead
    rw [List.append_assoc, List.append_assoc, List.cons_append]
    exact blank w (by decide) _

/-! ## Single steps -/

theorem readExactly_append (ws rest : List Char) : readExactly ws (ws ++ rest) = .ok rest := by
  induction ws with
  | nil => rfl
  | cons c ws ih => rw [List.cons_append, readExactly, if_pos rfl, ih]

theorem readColon_append {w : List Char} (blank : Blank w) (cs : List Char) :
    readColon (w ++ ':' :: cs) = .ok cs := by
  rw [readColon, skipBlank_append_cons blank (by decide)]
  rfl

/-- Go on behind a value: to the next one, or out of all brackets. -/
def goOn (fuel : Nat) (bs : List Bracket) (cs : List Char) : Reading (List Char) := do
  let (bs, cs) ← advance bs cs
  match bs with
  | [] => .ok cs
  | _ => skipWithin fuel bs cs

/-- Read up to the value in an item: to the item itself in a list, behind the key in an object. -/
def approach (b : Bracket) (cs : List Char) : Reading (List Char) :=
  match b with
  | .list => .ok cs
  | .object => skipKey cs

theorem advance_comma (b : Bracket) (bs : List Bracket) {w : List Char} (blank : Blank w)
    (cs : List Char) : advance (b :: bs) (w ++ ',' :: cs) =
      (approach b cs).map fun cs => (b :: bs, cs) := by
  rw [advance, leave, skipBlank_append_cons blank (by decide)]
  cases b with
  | list => rfl
  | object =>
    change (skipKey cs >>= _) = (skipKey cs).map _
    cases skipKey cs <;> rfl

theorem advance_close (b : Bracket) (bs : List Bracket) {w : List Char} (blank : Blank w)
    (cs : List Char) : advance (b :: bs) (w ++ b.close :: cs) = advance bs cs := by
  have facts : b.close ∉ [' ', '\t', '\n', '\r'] ∧ b.close ≠ ',' := by cases b <;> decide
  rw [advance, leave, skipBlank_append_cons blank facts.1]
  dsimp only
  rw [if_neg facts.2, if_pos rfl, advance]

theorem enter_close (b : Bracket) {w : List Char} (blank : Blank w) (cs : List Char) :
    enter b (w ++ b.close :: cs) = .ok none := by
  have solid : b.close ∉ [' ', '\t', '\n', '\r'] := by cases b <;> decide
  rw [enter, skipBlank_append_cons blank solid]
  exact if_pos rfl

theorem enter_item (b : Bracket) {w : List Char} (blank : Blank w) {c : Char} (starts : Starts c)
    (cs : List Char) : enter b (w ++ c :: cs) = (approach b (c :: cs)).map some := by
  have other : c ≠ b.close := by
    rintro rfl
    cases b <;> exact starts.not_mem (by decide)
  rw [enter, skipBlank_append_cons blank starts.solid]
  dsimp only
  rw [if_neg other]
  cases b <;> rfl

theorem skipScalar_scalar {cs rest : List Char} {bs : List Bracket} {fuel : Nat}
    (scalar : skipScalar (skipBlank cs) = .ok (some rest)) :
    skipWithin (fuel + 1) bs cs = goOn fuel bs rest := by
  rw [skipWithin, scalar]
  rfl

/-- The character that opens a bracket. -/
def Bracket.opening : Bracket → Char
  | list => '['
  | object => '{'

theorem skipWithin_bracket (b : Bracket) {w : List Char} (blank : Blank w) (fuel : Nat)
    (bs : List Bracket) (cs : List Char) : skipWithin (fuel + 1) bs (w ++ b.opening :: cs) =
      enter b cs >>= fun inner? => inner?.elim (goOn fuel (b :: bs) cs)
        (skipWithin fuel (b :: bs)) := by
  cases b with
  | list =>
    rw [skipWithin, Bracket.opening, skipBlank_append_cons blank (by decide)]
    change (enter .list cs >>= _) = _
    rcases enter .list cs with e | _ | inner <;> rfl
  | object =>
    rw [skipWithin, Bracket.opening, skipBlank_append_cons blank (by decide)]
    change (enter .object cs >>= _) = _
    rcases enter .object cs with e | _ | inner <;> rfl

/-! ## Items of a bracket -/

/-- A value is passed over in some steps, no more than it has characters. -/
def Passed (v : List Char) : Prop :=
  ∃ n, n < v.length ∧ ∀ fuel bs w rest, Blank w → Ends rest →
    skipWithin (fuel + (n + 1)) bs (w ++ (v ++ rest)) = goOn fuel bs rest

/-- An item of a bracket begins with a value or a key and is passed over likewise. -/
def PassedIn (b : Bracket) (item : List Char) : Prop :=
  Begins item ∧ ∃ n, n < item.length ∧ ∀ fuel bs w rest, Blank w → Ends rest →
    (approach b (w ++ (item ++ rest)) >>= skipWithin (fuel + (n + 1)) (b :: bs)) =
      goOn fuel (b :: bs) rest

theorem passedIn_list {v : List Char} (value : Value v) (passed : Passed v) :
    PassedIn .list v := by
  obtain ⟨n, short, steps⟩ := passed
  exact ⟨value.head, n, short, fun fuel bs => steps fuel (.list :: bs)⟩

theorem skipKey_append {w key before : List Char} (blank : Blank w) (string : IsString key)
    (blank' : Blank before) (cs : List Char) :
    skipKey (w ++ (key ++ (before ++ ':' :: cs))) = .ok cs := by
  obtain ⟨body, rfl, skipped⟩ := skipString_append string (before ++ ':' :: cs)
  rw [List.cons_append, skipKey, skipBlank_append_cons blank (by decide)]
  change (skipString (body ++ (before ++ ':' :: cs)) >>= readColon) = _
  rw [skipped]
  exact readColon_append blank' cs

theorem IsString.head {cs : List Char} (string : IsString cs) : ∃ t, cs = '"' :: t := by
  obtain ⟨-⟩ := string
  exact ⟨_, rfl⟩

theorem passedIn_object {m : Member} (string : IsString m.key) (passed : Passed m.value) :
    PassedIn .object m.text := by
  obtain ⟨n, short, steps⟩ := passed
  refine ⟨?_, n, ?_, fun fuel bs w rest blank ends => ?_⟩
  · obtain ⟨t, quote⟩ := string.head
    exact ⟨'"', _, by rw [Member.text, quote]; rfl, .inl (by decide)⟩
  · simp only [Member.text, List.length_append, List.length_cons]
    omega
  · simp only [Member.text, List.append_assoc, List.cons_append]
    change (skipKey _ >>= _) = _
    rw [skipKey_append blank string m.blank_before]
    exact steps fuel (.object :: bs) m.after rest m.blank_after ends

theorem Bracket.close_mem (b : Bracket) : b.close ∈ [']', '}'] := by
  cases b <;> decide

theorem goOn_comma (b : Bracket) (fuel : Nat) (bs : List Bracket) {w : List Char}
    (blank : Blank w) (cs : List Char) : goOn fuel (b :: bs) (w ++ ',' :: cs) =
      (approach b cs >>= skipWithin fuel (b :: bs)) := by
  rw [goOn, advance_comma b bs blank]
  cases approach b cs <;> rfl

theorem goOn_close (b : Bracket) (fuel : Nat) (bs : List Bracket) {w : List Char}
    (blank : Blank w) (cs : List Char) :
    goOn fuel (b :: bs) (w ++ b.close :: cs) = goOn fuel bs cs := by
  rw [goOn, advance_close b bs blank, goOn]

/-- Behind an item, the items that are left are passed over with the end of the bracket. -/
theorem goOn_items {b : Bracket} {items : List (List Char)} {cs : List Char}
    (more : Items b.close false items cs) (passed : ∀ i ∈ items, PassedIn b i) :
    ∃ n, n ≤ cs.length ∧ ∀ fuel bs rest,
      goOn (fuel + n) (b :: bs) (cs ++ rest) = goOn fuel bs rest := by
  -- Every item that is left has a comma in front of it, which pays for its last step.
  induction items generalizing cs with
  | nil =>
    obtain ⟨blank⟩ := more
    refine ⟨0, Nat.zero_le _, fun fuel bs rest => ?_⟩
    rw [List.append_assoc]
    exact goOn_close b fuel bs blank rest
  | cons item items ih =>
    obtain _ | ⟨⟨⟩ | ⟨blank, blank'⟩, more⟩ := more
    obtain ⟨-, k, short, steps⟩ := passed item (List.mem_cons_self ..)
    obtain ⟨n, short', steps'⟩ := ih more fun i mem => passed i (List.mem_cons_of_mem _ mem)
    refine ⟨n + (k + 1), ?_, fun fuel bs rest => ?_⟩
    · simp only [List.length_append, List.length_cons]
      omega
    · simp only [List.append_assoc, List.cons_append]
      rw [goOn_comma b _ bs blank, ← Nat.add_assoc,
        steps (fuel + n) bs _ _ blank' (more.ends b.close_mem rest), steps']

/-- A bracket is passed over if its items are. -/
theorem passed_bracket (b : Bracket) {items : List (List Char)} {cs : List Char}
    (all : Items b.close true items cs) (passed : ∀ i ∈ items, PassedIn b i) :
    Passed (b.opening :: cs) := by
  cases items with
  | nil =>
    obtain ⟨blank'⟩ := all
    refine ⟨0, by simp, fun fuel bs w rest blank _ => ?_⟩
    rw [List.cons_append, List.append_assoc, skipWithin_bracket b blank]
    rw [List.singleton_append, enter_close b blank']
    exact goOn_close b fuel bs blank' rest
  | cons item items =>
    obtain _ | ⟨⟨blank'⟩, more⟩ := all
    obtain ⟨⟨c, t, front, starts⟩, k, short, steps⟩ := passed item (List.mem_cons_self ..)
    obtain ⟨n, short', steps'⟩ :=
      goOn_items more fun i mem => passed i (List.mem_cons_of_mem _ mem)
    refine ⟨n + (k + 1), ?_, fun fuel bs w rest blank _ => ?_⟩
    · simp only [List.length_append, List.length_cons]
      omega
    · have first := steps (fuel + n) bs [] _ blank_nil (more.ends b.close_mem rest)
      rw [List.nil_append, front] at first
      have fuel_eq : fuel + (n + (k + 1) + 1) = fuel + n + (k + 1) + 1 := by omega
      rw [← steps', ← first, List.cons_append, List.append_assoc, List.append_assoc, front,
        fuel_eq, skipWithin_bracket b blank, List.cons_append, enter_item b blank' starts]
      cases approach b (c :: (t ++ (_ ++ rest))) <;> rfl

/-! ## Values -/

theorem passed_scalar {v : List Char} (value : Value v)
    (scalar : ∀ rest, Ends rest → skipScalar (v ++ rest) = .ok (some rest)) : Passed v := by
  obtain ⟨c, t, rfl, starts⟩ := value.head
  refine ⟨0, by simp, fun fuel bs w rest blank ends => skipScalar_scalar ?_⟩
  rw [List.cons_append, skipBlank_append_cons blank starts.solid]
  exact scalar rest ends

theorem skipScalar_number {cs rest : List Char} (number : IsNumber cs) (ends : Ends rest) :
    skipScalar (cs ++ rest) = .ok (some rest) := by
  obtain ⟨n, scan⟩ := Numeral.scan_number .invalidNumber number
  have scanned := scan rest ends
  obtain ⟨c, t, rfl, first⟩ := number.head
  have other : c ≠ 'n' ∧ c ≠ 't' ∧ c ≠ 'f' ∧ c ≠ '"' := by
    rcases first with rfl | digit
    · decide
    · refine ⟨?_, ?_, ?_, ?_⟩ <;> (rintro rfl; exact absurd digit (by decide))
  obtain ⟨n', t', f', q'⟩ := other
  rw [List.cons_append] at scanned ⊢
  rw [skipScalar]
  dsimp only
  rw [if_neg n', if_neg t', if_neg f', if_neg q', if_pos first, scanned]
  rfl

/-- A value of the grammar is passed over. -/
theorem Value.passed {v : List Char} (value : Value v) : Passed v := by
  induction value with
  | null =>
    exact passed_scalar .null fun rest _ =>
      congrArg (Except.map some) (readExactly_append "ull".toList rest)
  | true =>
    exact passed_scalar .true fun rest _ =>
      congrArg (Except.map some) (readExactly_append "rue".toList rest)
  | false =>
    exact passed_scalar .false fun rest _ =>
      congrArg (Except.map some) (readExactly_append "alse".toList rest)
  | number number =>
    exact passed_scalar (.number number) fun rest ends => skipScalar_number number ends
  | string string =>
    refine passed_scalar (.string string) fun rest _ => ?_
    obtain ⟨body, rfl, skipped⟩ := skipString_append string rest
    exact congrArg (Except.map some) skipped
  | list list elements ih =>
    obtain ⟨items⟩ := list
    exact passed_bracket .list items fun i mem => passedIn_list (elements i mem) (ih i mem)
  | object object keys _ ih =>
    obtain ⟨items⟩ := object
    refine passed_bracket .object items fun i mem => ?_
    obtain ⟨m, here, rfl⟩ := List.mem_map.1 mem
    exact passedIn_object (keys m here) (ih m here)

/-- Whatever follows it, a value is passed over exactly. -/
theorem skipValue_append {v w rest : List Char} (value : Value v) (blank : Blank w)
    (ends : Ends rest) : skipValue (w ++ (v ++ rest)) = .ok rest := by
  obtain ⟨n, short, steps⟩ := value.passed
  have enough : (w ++ (v ++ rest)).length + 1 =
      (w.length + (v.length - (n + 1)) + rest.length + 1) + (n + 1) := by
    simp only [List.length_append]
    omega
  rw [skipValue, enough, steps _ _ _ _ blank ends]
  rfl

end LedStrip.Json
