import LedStrip.Proofs.Json.Skip

/-!
# Typed readers and the values that they are given

Two properties of a reader are carried through brackets and records.  `Yields` says what becomes of
one text, whatever stands around it: the value that it stands for, or the cause of the refusal.
`Exact` says that a value which is accepted has been read up to its end and no further.  Here both
are shown for integers, `true` and `false`, and strings.
-/

namespace LedStrip.Json

variable {α β : Type}

theorem bind_eq_ok {x : Reading α} {f : α → Reading β} {b : β} :
    (x >>= f) = .ok b ↔ ∃ a, x = .ok a ∧ f a = .ok b := by
  cases x with
  | error refusal => exact ⟨nofun, nofun⟩
  | ok a => exact ⟨fun h => ⟨a, rfl, h⟩, fun ⟨_, h, h'⟩ => by cases h; exact h'⟩

theorem map_eq_ok {x : Reading α} {f : α → β} {b : β} :
    x.map f = .ok b ↔ ∃ a, x = .ok a ∧ f a = b := by
  cases x with
  | error refusal => exact ⟨nofun, nofun⟩
  | ok a => exact ⟨fun h => ⟨a, rfl, Except.ok.inj h⟩, fun ⟨_, h, h'⟩ => by cases h; cases h'; rfl⟩

/-! ## Outcomes -/

def Refusal.cause : Refusal → Cause
  | placed cause _ => cause
  | pending cause _ => cause

/-- What a reader returns, up to where a refusal was noticed. -/
def verdict (x : Reading α) : Except Cause α := x.mapError Refusal.cause

theorem eq_ok_of_verdict {x : Reading α} {a : α} (h : verdict x = .ok a) : x = .ok a := by
  cases x with
  | error refusal => cases h
  | ok a => cases h; rfl

/-- The outcome of reading a text, whatever stands around it. -/
def Yields (read : List Char → Reading (α × List Char)) (text : List Char)
    (outcome : Except Cause α) : Prop :=
  ∀ w rest, Blank w → Ends rest →
    verdict (read (w ++ (text ++ rest))) = outcome.map fun a => (a, rest)

/-- An accepted value is read up to its end. -/
def Exact (read : List Char → Reading (α × List Char)) : Prop :=
  ∀ {v w rest a rest'}, Value v → Blank w → Ends rest →
    read (w ++ (v ++ rest)) = .ok (a, rest') → rest' = rest

/-! ## Values of another kind -/

theorem wrongType_ne_ok (expected : String) (cs : List Char) (a : α) :
    wrongType expected cs ≠ .ok a := by
  intro accepted
  cases cs with
  | nil => cases accepted
  | cons c cs =>
    simp only [wrongType] at accepted
    split at accepted
    · obtain ⟨rest, -, accepted⟩ := bind_eq_ok.1 accepted
      cases accepted
    split at accepted
    · obtain ⟨rest, -, accepted⟩ := bind_eq_ok.1 accepted
      cases accepted
    split at accepted
    · obtain ⟨rest, -, accepted⟩ := bind_eq_ok.1 accepted
      cases accepted
    split at accepted
    · obtain ⟨⟨_ | _, rest⟩, -, accepted⟩ := bind_eq_ok.1 accepted <;> cases accepted
    split at accepted
    · obtain ⟨⟨s, rest⟩, -, accepted⟩ := bind_eq_ok.1 accepted
      cases accepted
    split at accepted
    · cases accepted
    split at accepted <;> cases accepted

/-! ## First characters -/

/-- The kind of a value shows in its first character. -/
theorem Value.of_head {c : Char} {t : List Char} (value : Value (c :: t)) :
    c = 'n' ∧ t = "ull".toList ∨ c = 't' ∧ t = "rue".toList ∨ c = 'f' ∧ t = "alse".toList ∨
      (c = '-' ∨ c.isDigit = Bool.true) ∧ IsNumber (c :: t) ∨
      c = '"' ∧ IsString (c :: t) ∨
      (c = '[' ∧ ∃ elements, IsList elements (c :: t) ∧ ∀ e ∈ elements, Value e) ∨
      c = '\x7b' ∧ ∃ members, IsObject members (c :: t) ∧ (∀ m ∈ members, IsString m.key) ∧
        ∀ m ∈ members, Value m.value := by
  generalize whole : c :: t = v at value
  cases value with
  | null =>
    have front : "null".toList = 'n' :: "ull".toList := by decide
    exact .inl (List.cons.inj (whole.trans front))
  | true =>
    have front : "true".toList = 't' :: "rue".toList := by decide
    exact .inr (.inl (List.cons.inj (whole.trans front)))
  | false =>
    have front : "false".toList = 'f' :: "alse".toList := by decide
    exact .inr (.inr (.inl (List.cons.inj (whole.trans front))))
  | number number =>
    obtain ⟨c', t', front, first⟩ := number.head
    obtain ⟨rfl, rfl⟩ := List.cons.inj (whole.trans front)
    exact .inr (.inr (.inr (.inl ⟨first, number⟩)))
  | string string =>
    obtain ⟨t', front⟩ := string.head
    obtain ⟨rfl, rfl⟩ := List.cons.inj (whole.trans front)
    exact .inr (.inr (.inr (.inr (.inl ⟨rfl, string⟩))))
  | @list elements _ list values =>
    have first : c = '[' := by
      obtain ⟨-⟩ := list
      exact (List.cons.inj whole).1
    exact .inr (.inr (.inr (.inr (.inr (.inl ⟨first, elements, whole ▸ list, values⟩)))))
  | @object members _ object keys values =>
    have first : c = '\x7b' := by
      obtain ⟨-⟩ := object
      exact (List.cons.inj whole).1
    exact .inr (.inr (.inr (.inr (.inr (.inr ⟨first, members, whole ▸ object, keys, values⟩)))))

theorem isNumber_of_head {c : Char} {t : List Char} (value : Value (c :: t))
    (first : c = '-' ∨ c.isDigit = true) : IsNumber (c :: t) := by
  have other : c ∉ ['n', 't', 'f', '"', '[', '\x7b'] := by
    rintro mem
    rcases first with rfl | digit
    · exact absurd mem (by decide)
    · have apart : ∀ c ∈ ['n', 't', 'f', '"', '[', '\x7b'], c.isDigit = false := by simp
      rw [apart c mem] at digit
      cases digit
  simp only [List.mem_cons, List.not_mem_nil, or_false, not_or] at other
  simpa only [other, false_and, false_or, or_false, first, true_and] using value.of_head

theorem eq_true_of_head {t : List Char} (value : Value ('t' :: t)) : t = "rue".toList := by
  simpa using value.of_head

theorem eq_false_of_head {t : List Char} (value : Value ('f' :: t)) : t = "alse".toList := by
  simpa using value.of_head

theorem isString_of_head {t : List Char} (value : Value ('"' :: t)) : IsString ('"' :: t) := by
  simpa using value.of_head

theorem list_of_head {t : List Char} (value : Value ('[' :: t)) :
    ∃ elements, IsList elements ('[' :: t) ∧ ∀ e ∈ elements, Value e := by
  simpa using value.of_head

theorem object_of_head {t : List Char} (value : Value ('\x7b' :: t)) :
    ∃ members, IsObject members ('\x7b' :: t) ∧ (∀ m ∈ members, IsString m.key) ∧
      ∀ m ∈ members, Value m.value := by
  simpa using value.of_head

/-! ## Integers -/

theorem rest_of_readNumber {cs rest rest' : List Char} {x : Number} (number : IsNumber cs)
    (ends : Ends rest) (read : readNumber (cs ++ rest) = .ok (x, rest')) : rest' = rest := by
  obtain ⟨n, scanned⟩ := Numeral.scan_number .eofValue number
  obtain ⟨_, scanned', read⟩ := bind_eq_ok.1 read
  rw [scanned rest ends] at scanned'
  cases scanned'
  obtain ⟨x, -, read⟩ := bind_eq_ok.1 read
  cases read
  rfl

theorem readInteger_exact (expected : String) (bound : Nat) :
    Exact (readInteger expected bound) := by
  intro v w rest n rest' value blank ends read
  obtain ⟨c, t, rfl, starts⟩ := value.head
  rw [readInteger, List.cons_append, skipBlank_append_cons blank starts.solid] at read
  dsimp only at read
  split at read
  case isFalse => exact (wrongType_ne_ok _ _ _ read).elim
  case isTrue first =>
    obtain ⟨⟨x | x, rest''⟩, number, read'⟩ := bind_eq_ok.1 read
    · obtain rfl := rest_of_readNumber (isNumber_of_head value first) ends number
      dsimp only at read'
      split at read' <;> cases read'
      rfl
    · cases read'

/-! ## Truth values -/

theorem readBool_append (b : Bool) : Yields readBool (toString b).toList (.ok b) := by
  intro w rest blank _
  cases b with
  | true =>
    change verdict (readBool (w ++ 't' :: ("rue".toList ++ rest))) = _
    rw [readBool, skipBlank_append_cons blank (by decide)]
    change verdict ((readExactly "rue".toList _).map (Prod.mk true)) = _
    rw [readExactly_append]
    rfl
  | false =>
    change verdict (readBool (w ++ 'f' :: ("alse".toList ++ rest))) = _
    rw [readBool, skipBlank_append_cons blank (by decide)]
    change verdict ((readExactly "alse".toList _).map (Prod.mk false)) = _
    rw [readExactly_append]
    rfl

theorem readBool_exact : Exact readBool := by
  intro v w rest b rest' value blank ends read
  obtain ⟨c, t, rfl, starts⟩ := value.head
  rw [readBool, List.cons_append, skipBlank_append_cons blank starts.solid] at read
  split at read
  case h_1 front =>
    obtain ⟨rfl, rfl⟩ := List.cons.inj front
    rw [eq_true_of_head value, readExactly_append] at read
    cases read
    rfl
  case h_2 front =>
    obtain ⟨rfl, rfl⟩ := List.cons.inj front
    rw [eq_false_of_head value, readExactly_append] at read
    cases read
    rfl
  case h_3 => exact (wrongType_ne_ok _ _ _ read).elim

/-! ## Strings -/

theorem readText_denotes {expected s : String} {cs : List Char} (denotes : Denotes s cs) :
    Yields (readText expected) cs (.ok s) := by
  intro w rest blank _
  obtain ⟨body, rfl, read⟩ := readString_denotes denotes rest
  rw [readText, List.cons_append, skipBlank_append_cons blank (by decide)]
  change verdict (readString (body ++ rest)) = _
  rw [read]
  rfl

theorem readText_exact (expected : String) : Exact (readText expected) := by
  intro v w rest s rest' value blank _ read
  obtain ⟨c, t, rfl, starts⟩ := value.head
  rw [readText, List.cons_append, skipBlank_append_cons blank starts.solid] at read
  split at read
  case h_1 front =>
    obtain ⟨rfl, rfl⟩ := List.cons.inj front
    obtain ⟨body, front, rest_eq⟩ := rest_of_readString (isString_of_head value)
    obtain ⟨-, rfl⟩ := List.cons.inj front
    exact rest_eq rest s rest' read
  case h_2 => exact (wrongType_ne_ok _ _ _ read).elim

end LedStrip.Json
