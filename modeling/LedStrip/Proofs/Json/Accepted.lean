import LedStrip.Proofs.Json.Record

/-!
# Accepted records

What a text must be for a record to be read from it: no field is written twice in an object, and
each value that is written for a field is accepted by the reader of that field (`rest_of_object`,
`rest_of_array`).  The text of the record has then been read up to its end (`readRecord_exact`).
-/

namespace LedStrip.Json

variable {ρ : Type} {fields : List (Field ρ)}

theorem settle_bind_eq_ok {α β : Type} {leave : List Char → Option Cause × List Char}
    {x : Reading β} {f : β → Reading (α × List Char)} {out : α × List Char}
    (settled : settle leave (x >>= f) = .ok out) :
    ∃ b, x = .ok b ∧ settle leave (f b) = .ok out := by
  rcases x with (_ | _) | b
  · cases settled
  · cases settled
  · exact ⟨b, rfl, settled⟩

/-! ## Objects -/

/-- Members that a record has been read from, with some fields written before them. -/
structure Accepted (fields : List (Field ρ)) (seen : List String) (members : List Member) :
    Prop where
  fitting : ∀ m ∈ members, ∀ name ∈ fields.map Field.name, Denotes name m.key →
    name ∉ seen ∧ ∃ f ∈ fields, f.name = name ∧ ∃ r, Accepts (f.read r) m.value
  once : members.Pairwise fun m m' =>
    ∀ name ∈ fields.map Field.name, Denotes name m.key → ¬Denotes name m'.key

theorem Accepted.known {seen : List String} {m : Member} {members : List Member} {f : Field ρ}
    (accepted : Accepted fields (f.name :: seen) members) (mem : f ∈ fields) (fresh : f.name ∉ seen)
    (unique : ∀ name, Denotes name m.key → name = f.name) {r : ρ}
    (value : Accepts (f.read r) m.value) : Accepted fields seen (m :: members) where
  fitting m' here name known denotes := by
    rcases List.mem_cons.1 here with rfl | later
    · obtain rfl := unique name denotes
      exact ⟨fresh, f, mem, rfl, r, value⟩
    · obtain ⟨new, fits⟩ := accepted.fitting m' later name known denotes
      exact ⟨fun old => new (List.mem_cons_of_mem _ old), fits⟩
  once := by
    refine .cons (fun m' later name known denotes denotes' => ?_) accepted.once
    obtain rfl := unique name denotes
    exact (accepted.fitting m' later _ known denotes').1 (List.mem_cons_self ..)

theorem Accepted.unknown {seen : List String} {m : Member} {members : List Member}
    (accepted : Accepted fields seen members)
    (unknown : ∀ name, Denotes name m.key → name ∉ fields.map Field.name) :
    Accepted fields seen (m :: members) where
  fitting m' here name known denotes := by
    rcases List.mem_cons.1 here with rfl | later
    · exact absurd known (unknown name denotes)
    · exact accepted.fitting m' later name known denotes
  once := .cons (fun _ _ name known denotes _ => unknown name denotes known) accepted.once

theorem rest_of_readMembers (exact : ∀ f ∈ fields, ∀ r, Exact (f.read r)) {members : List Member}
    (keys : ∀ m ∈ members, IsString m.key) (values : ∀ m ∈ members, Value m.value) {first : Bool}
    {cs : List Char} (all : Items '\x7d' first (members.map Member.text) cs) {fuel : Nat}
    {seen : List String} {r r' : ρ} {rest rest' : List Char}
    (read : settle leaveObject (readMembers fields fuel first seen r (cs ++ rest)) =
      .ok (r', rest')) :
    rest' = rest ∧ Accepted fields seen members := by
  induction members generalizing first cs fuel seen r with
  | nil =>
    obtain ⟨blank⟩ := all
    cases fuel with
    | zero => cases read
    | succ fuel =>
      rw [List.append_assoc, List.singleton_append, readMembers_close _ _ _ _ _ blank, settle,
        leaveObject_close blank] at read
      cases read
      exact ⟨rfl, fun m mem => absurd mem List.not_mem_nil, .nil⟩
  | cons m members ih =>
    obtain _ | ⟨led, more⟩ := all
    have ends := more.ends (by decide) rest
    have keys' : ∀ m ∈ members, IsString m.key := fun m mem => keys m (List.mem_cons_of_mem _ mem)
    have values' : ∀ m ∈ members, Value m.value := fun m mem =>
      values m (List.mem_cons_of_mem _ mem)
    have value := values m (List.mem_cons_self ..)
    obtain ⟨cs, front, rest_eq⟩ := m.front_string (keys m (List.mem_cons_self ..)) (_ ++ rest)
    cases fuel with
    | zero => cases read
    | succ fuel =>
      rw [List.append_assoc, List.append_assoc, front] at read
      obtain ⟨_, accepted, -⟩ := settle_eq_ok read
      obtain ⟨key, _, key_read⟩ := readString_of_readMembers led accepted
      obtain rfl := rest_eq _ _ key_read
      -- A key need not denote anything, but it denotes nothing else than what it is read as.
      have unique : ∀ name, Denotes name m.key → name = key := by
        intro name denotes
        obtain ⟨cs', front', read'⟩ := m.front_denotes denotes (_ ++ rest)
        obtain ⟨-, rfl⟩ := List.cons.inj (front.symm.trans front')
        rw [key_read] at read'
        cases read'
        rfl
      by_cases known : key ∈ fields.map Field.name
      · obtain ⟨f, mem, rfl, found⟩ := find?_name known
        have fresh : f.name ∉ seen := fun twice =>
          readMembers_twice led key_read found twice fuel r _ accepted
        rw [readMembers_known led key_read m.blank_before found fresh] at read
        obtain ⟨⟨r₁, rest₁⟩, field_read, read⟩ := settle_bind_eq_ok read
        obtain rfl := exact f mem r value m.blank_after ends field_read
        obtain ⟨rest_eq, accepted⟩ := ih keys' values' more read
        exact ⟨rest_eq, accepted.known mem fresh unique
          ⟨m.after, _, _, m.blank_after, ends, field_read⟩⟩
      · rw [readMembers_unknown led key_read m.blank_before (find?_name_eq_none known),
          skipValue_append value m.blank_after ends] at read
        obtain ⟨rest_eq, accepted⟩ := ih keys' values' more read
        exact ⟨rest_eq, accepted.unknown fun name denotes => unique name denotes ▸ known⟩

theorem rest_of_object (exact : ∀ f ∈ fields, ∀ r, Exact (f.read r)) {members : List Member}
    (keys : ∀ m ∈ members, IsString m.key) (values : ∀ m ∈ members, Value m.value) {cs : List Char}
    (object : IsObject members cs) {expected : String} {defaults r : ρ} {w rest rest' : List Char}
    (blank : Blank w)
    (read : readRecord expected fields defaults (w ++ (cs ++ rest)) = .ok (r, rest')) :
    rest' = rest ∧ Accepted fields [] members := by
  obtain ⟨all⟩ := object
  rw [readRecord, List.cons_append, skipBlank_append_cons blank (by decide)] at read
  exact rest_of_readMembers exact keys values all read

/-! ## Lists of fields in order -/

theorem rest_of_readInOrder {left : List (Field ρ)} (exact : ∀ f ∈ left, ∀ r, Exact (f.read r))
    {texts : List (List Char)} (values : ∀ t ∈ texts, Value t) {first : Bool} {cs : List Char}
    (all : Items ']' first texts cs) {r r' : ρ} {rest rest' : List Char}
    (read : settle leaveList (readInOrder left first r (cs ++ rest)) = .ok (r', rest')) :
    rest' = rest ∧
      ∀ (i : Nat) (f : Field ρ) (t : List Char), left[i]? = some f → texts[i]? = some t →
        ∃ r, Accepts (f.read r) t := by
  induction texts generalizing left first cs r with
  | nil =>
    obtain ⟨blank⟩ := all
    rw [List.append_assoc, List.singleton_append, readInOrder_close _ _ _ blank, settle,
      leaveList_close blank] at read
    cases read
    refine ⟨rfl, fun i f t _ here => ?_⟩
    rw [List.getElem?_nil] at here
    cases here
  | cons text texts ih =>
    obtain _ | ⟨led, more⟩ := all
    have ends := more.ends (by decide) rest
    have value := values text (List.mem_cons_self ..)
    obtain ⟨c, t, rfl, starts⟩ := value.head
    rw [List.append_assoc, List.append_assoc, List.cons_append] at read
    cases left with
    | nil =>
      obtain ⟨_, body, left⟩ := settle_eq_ok read
      cases body
      exact absurd (congrArg Prod.fst left) (leaveList_item led starts _)
    | cons f left =>
      rw [readInOrder_item _ _ led starts] at read
      obtain ⟨⟨r₁, rest₁⟩, field_read, read⟩ := settle_bind_eq_ok read
      have here : f.read r ([] ++ (c :: t ++ _)) = .ok (r₁, rest₁) := field_read
      obtain rfl := exact f (List.mem_cons_self ..) r value blank_nil ends here
      obtain ⟨rest_eq, fits⟩ := ih (fun f mem => exact f (List.mem_cons_of_mem _ mem))
        (fun t mem => values t (List.mem_cons_of_mem _ mem)) more read
      refine ⟨rest_eq, fun i g t field text => ?_⟩
      cases i with
      | zero =>
        cases field
        cases text
        exact ⟨r, [], _, _, blank_nil, ends, here⟩
      | succ i => exact fits i g t field text

theorem rest_of_array (exact : ∀ f ∈ fields, ∀ r, Exact (f.read r)) {texts : List (List Char)}
    (values : ∀ t ∈ texts, Value t) {cs : List Char} (list : IsList texts cs) {expected : String}
    {defaults r : ρ} {w rest rest' : List Char} (blank : Blank w)
    (read : readRecord expected fields defaults (w ++ (cs ++ rest)) = .ok (r, rest')) :
    rest' = rest ∧
      ∀ (i : Nat) (f : Field ρ) (t : List Char), fields[i]? = some f → texts[i]? = some t →
        ∃ r, Accepts (f.read r) t := by
  obtain ⟨all⟩ := list
  rw [readRecord, List.cons_append, skipBlank_append_cons blank (by decide)] at read
  exact rest_of_readInOrder exact values all read

/-- The text of an accepted record is read up to its end. -/
theorem readRecord_exact (exact : ∀ f ∈ fields, ∀ r, Exact (f.read r)) (expected : String)
    (defaults : ρ) : Exact (readRecord expected fields defaults) := by
  intro v w rest r rest' value blank _ read
  obtain ⟨c, t, rfl, starts⟩ := value.head
  have read' := read
  rw [readRecord, List.cons_append, skipBlank_append_cons blank starts.solid] at read'
  split at read'
  case h_1 front =>
    obtain ⟨rfl, -⟩ := List.cons.inj front
    obtain ⟨members, object, keys, values⟩ := object_of_head value
    exact (rest_of_object exact keys values object blank read).1
  case h_2 front =>
    obtain ⟨rfl, -⟩ := List.cons.inj front
    obtain ⟨texts, list, values⟩ := list_of_head value
    exact (rest_of_array exact values list blank read).1
  case h_3 => exact (wrongType_ne_ok _ _ _ read').elim

/-! ## Records of a scheme -/

variable {σ : Type} {k : Scheme σ}

/-- An object that writes a field twice is refused. -/
theorem not_accepts_twice (names : fields.map Field.name = k.names)
    (exact : ∀ f ∈ fields, ∀ r, Exact (f.read r)) {cs : List Char} (twice : k.Twice cs)
    (expected : String) (defaults : ρ) : ¬Accepts (readRecord expected fields defaults) cs := by
  rintro ⟨w, rest, ⟨r, rest'⟩, blank, -, read⟩
  obtain ⟨members, object, valid, name, known, m, m', both, denotes, denotes'⟩ := twice
  obtain ⟨-, accepted⟩ := rest_of_object exact (fun m mem => (valid m mem).1)
    (fun m mem => (valid m mem).2) object blank read
  exact List.pairwise_iff_forall_sublist.1 accepted.once both name (names ▸ known) denotes denotes'

/-- The value that an accepted record gives a field is accepted for that field. -/
theorem accepts_of_gives (names : fields.map Field.name = k.names)
    (exact : ∀ f ∈ fields, ∀ r, Exact (f.read r)) {name : String} {value cs : List Char}
    (gives : k.Gives name value cs) (known : name ∈ k.names) {expected : String} {defaults : ρ}
    (accepts : Accepts (readRecord expected fields defaults) cs) :
    ∃ f ∈ fields, f.name = name ∧ ∃ r, Accepts (f.read r) value := by
  obtain ⟨w, rest, ⟨r, rest'⟩, blank, -, read⟩ := accepts
  cases gives with
  | object object valid mem denotes written =>
    obtain ⟨-, accepted⟩ := rest_of_object exact (fun m mem => (valid m mem).1)
      (fun m mem => (valid m mem).2) object blank read
    exact written ▸ (accepted.fitting _ mem name (names ▸ known) denotes).2
  | @list values i cs list valid place written =>
    obtain ⟨-, fits⟩ := rest_of_array exact valid list blank read
    rw [← names, List.getElem?_map] at place
    obtain ⟨f, field, rfl⟩ := Option.map_eq_some_iff.1 place
    exact ⟨f, List.mem_of_getElem? field, rfl, fits i f value field written⟩

theorem accepts_of_list {α : Type} {item : List Char → Reading (α × List Char)}
    (exact : Exact item) {texts : List (List Char)} (values : ∀ t ∈ texts, Value t)
    {cs : List Char} (list : IsList texts cs) (accepts : Accepts (readList item) cs) :
    ∀ t ∈ texts, Accepts item t := by
  obtain ⟨w, rest, ⟨as, rest'⟩, blank, -, read⟩ := accepts
  exact (rest_of_readList exact values list blank read).2

theorem accepts_of_readDocument {α : Type} {read : List Char → Reading (α × List Char)}
    {P : List Char → Prop} {text : String} (document : Document P text) {a : α}
    (accepted : readDocument read text = .ok a) : ∃ cs, P cs ∧ Accepts read cs := by
  obtain ⟨before, cs, after, blank, blank', holds, whole⟩ := document
  refine ⟨cs, holds, before, after, ?_⟩
  rw [readDocument, whole] at accepted
  rcases out : read (before ++ (cs ++ after)) with (_ | _) | out'
  · rw [out] at accepted
    cases accepted
  · rw [out] at accepted
    cases accepted
  · exact ⟨out', blank, blank'.ends, rfl⟩

end LedStrip.Json
