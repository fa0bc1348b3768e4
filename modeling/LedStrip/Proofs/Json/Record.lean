import LedStrip.Proofs.Json.Brackets
import LedStrip.Proofs.Json.Integers
import LedStrip.Proofs.Json.Scheme
import Mathlib.Data.List.Nodup

/-!
# Reading records

Reading a text that writes some settings of a record overlays them on the defaults
(`readRecord_yields`), and what a document yields is what the value in it yields
(`readDocument_yields`).
-/

namespace LedStrip.Json

variable {ρ σ : Type}

/-! ## Overlays -/

/-- The record in which the settings are put one after the other. -/
def overlay (put : σ → ρ → Except Cause ρ) (settings : List σ) (r : ρ) : Except Cause ρ :=
  settings.foldlM (fun r s => put s r) r

theorem overlay_cons (put : σ → ρ → Except Cause ρ) (s : σ) (settings : List σ) (r : ρ) :
    overlay put (s :: settings) r = put s r >>= overlay put settings :=
  List.foldlM_cons

/-- Settings of different fields can be put in any order. -/
theorem overlay_perm {name : σ → String} {put : σ → ρ → Except Cause ρ}
    (commute : ∀ s t r, name s ≠ name t → put s r >>= put t = put t r >>= put s)
    {settings settings' : List σ} (perm : settings.Perm settings')
    (nodup : (settings.map name).Nodup) (r : ρ) :
    overlay put settings r = overlay put settings' r := by
  induction perm generalizing r with
  | nil => rfl
  | @cons s settings settings' _ ih =>
    rw [overlay_cons, overlay_cons, funext (ih (List.nodup_cons.1 nodup).2)]
  | swap s t settings =>
    have differ : name t ≠ name s := by
      intro same
      simp [same] at nodup
    calc overlay put (t :: s :: settings) r
      _ = put t r >>= put s >>= overlay put settings := by
        rw [overlay_cons, bind_assoc, funext (overlay_cons put s settings)]
      _ = put s r >>= put t >>= overlay put settings := by rw [commute t s r differ]
      _ = overlay put (s :: t :: settings) r := by
        rw [overlay_cons, bind_assoc, funext (overlay_cons put t settings)]
  | trans perm _ ih ih' => exact (ih nodup r).trans (ih' ((perm.map name).nodup_iff.1 nodup) r)

/-! ## Fields that keep what a reader returns -/

section Fields

variable {α : Type}

theorem Field.of_yields (name : String) {read : List Char → Reading (α × List Char)}
    {text : List Char} {outcome : Except Cause α} (yields : Yields read text outcome)
    (store : α → ρ → ρ) (r : ρ) :
    Yields ((Field.of name read store).read r) text (outcome.map fun a => store a r) := by
  intro w rest blank ends
  have result := yields w rest blank ends
  change verdict ((read (w ++ (text ++ rest))).map _) = _
  generalize read (w ++ (text ++ rest)) = out at result ⊢
  rcases outcome with cause | a
  · rcases out with (_ | _) | _ <;> cases result <;> rfl
  · rw [eq_ok_of_verdict result]
    rfl

theorem Field.of_integer (name expected : String) {bound n : Nat} (le : n ≤ bound)
    (small : bound ≤ Numeral.maxWord) (store : Nat → ρ → ρ) (r : ρ) :
    Yields ((Field.of name (readInteger expected bound) store).read r) (toString n).toList
      (.ok (store n r)) := by
  have word : Numeral.maxWord = 18446744073709551615 := rfl
  have yields := readInteger_int (n := (n : Int)) (by omega) (by omega) expected bound
  rw [if_pos (by omega), Int.toNat_natCast] at yields
  exact of_yields name yields store r

theorem Field.of_u8 (name : String) (store : UInt8 → ρ → ρ) (n : UInt8) (r : ρ) :
    Yields ((Field.of name (readInteger "u8" 255) fun k r => store (UInt8.ofNat k) r).read r)
      (toString n).toList (.ok (store n r)) := by
  have yields := of_integer name "u8" (Nat.le_of_lt_succ n.toNat_lt) (by decide)
    (fun k r => store (UInt8.ofNat k) r) r
  rwa [UInt8.ofNat_toNat] at yields

theorem Field.of_exact (name : String) {read : List Char → Reading (α × List Char)}
    (exact : Exact read) (store : α → ρ → ρ) (r : ρ) :
    Exact ((Field.of name read store).read r) := by
  intro v w rest r' rest' value blank ends accepted
  obtain ⟨⟨a, rest''⟩, accepted, out⟩ := map_eq_ok.1 accepted
  cases out
  exact exact value blank ends accepted

theorem Field.accepts_of {name : String} {read : List Char → Reading (α × List Char)}
    {store : α → ρ → ρ} {r : ρ} {text : List Char}
    (accepts : Accepts ((Field.of name read store).read r) text) : Accepts read text := by
  obtain ⟨w, rest, out, blank, ends, accepted⟩ := accepts
  obtain ⟨out', accepted, -⟩ := map_eq_ok.1 accepted
  exact ⟨w, rest, out', blank, ends, accepted⟩

end Fields

/-! ## Members -/

section Members

variable {fields : List (Field ρ)} {first : Bool} {lead before tail cs : List Char} {key : String}

theorem readMembers_close (fields : List (Field ρ)) (fuel : Nat) (first : Bool)
    (seen : List String) (r : ρ) {w : List Char} (blank : Blank w) (cs : List Char) :
    readMembers fields (fuel + 1) first seen r (w ++ '\x7d' :: cs) =
      .ok (r, w ++ '\x7d' :: cs) := by
  rw [readMembers, nextKey?_close first blank]
  rfl

theorem readMembers_known (led : Lead first lead)
    (read : readString cs = .ok (key, before ++ ':' :: tail)) (blank : Blank before) {f : Field ρ}
    (found : fields.find? (fun f => f.name == key) = some f) {seen : List String}
    (fresh : key ∉ seen) (fuel : Nat) (r : ρ) :
    readMembers fields (fuel + 1) first seen r (lead ++ '"' :: cs) =
      f.read r tail >>= fun (r, cs) => readMembers fields fuel false (key :: seen) r cs := by
  have unseen : ¬seen.contains key = true := by simpa using fresh
  rw [readMembers, nextKey?_item led, read]
  simp only [Except.map, bind, Except.bind, found, if_neg unseen, readColon_append blank]

theorem readMembers_twice (led : Lead first lead)
    (read : readString cs = .ok (key, before ++ ':' :: tail)) {f : Field ρ}
    (found : fields.find? (fun f => f.name == key) = some f) {seen : List String}
    (twice : key ∈ seen) (fuel : Nat) (r : ρ) (out : ρ × List Char) :
    readMembers fields (fuel + 1) first seen r (lead ++ '"' :: cs) ≠ .ok out := by
  have old : seen.contains key = true := by simpa using twice
  rw [readMembers, nextKey?_item led, read]
  simp only [Except.map, bind, Except.bind, found, if_pos old]
  exact nofun

theorem readMembers_unknown (led : Lead first lead)
    (read : readString cs = .ok (key, before ++ ':' :: tail)) (blank : Blank before)
    (lost : fields.find? (fun f => f.name == key) = none) (seen : List String) (fuel : Nat)
    (r : ρ) :
    readMembers fields (fuel + 1) first seen r (lead ++ '"' :: cs) =
      skipValue tail >>= readMembers fields fuel false seen r := by
  rw [readMembers, nextKey?_item led, read]
  simp only [Except.map, bind, Except.bind, lost, readColon_append blank]

theorem readString_of_readMembers (led : Lead first lead) {seen : List String} {fuel : Nat} {r : ρ}
    {out : ρ × List Char}
    (accepted : readMembers fields (fuel + 1) first seen r (lead ++ '"' :: cs) = .ok out) :
    ∃ key rest, readString cs = .ok (key, rest) := by
  rw [readMembers, nextKey?_item led] at accepted
  rcases read : readString cs with refusal | ⟨key, rest⟩
  · rw [read] at accepted
    cases accepted
  · exact ⟨key, rest, rfl⟩

end Members

theorem find?_name {fields : List (Field ρ)} {name : String}
    (known : name ∈ fields.map Field.name) :
    ∃ f ∈ fields, f.name = name ∧ fields.find? (fun f => f.name == name) = some f := by
  obtain ⟨g, mem, rfl⟩ := List.mem_map.1 known
  rcases found : fields.find? fun f => f.name == g.name with _ | f
  · exact absurd (List.find?_eq_none.1 found g mem) (by simp)
  · exact ⟨f, List.mem_of_find?_eq_some found, by simpa using List.find?_some found, found⟩

theorem find?_name_eq_none {fields : List (Field ρ)} {name : String}
    (unknown : name ∉ fields.map Field.name) :
    fields.find? (fun f => f.name == name) = none := by
  rw [List.find?_eq_none]
  intro f mem same
  exact unknown (List.mem_map.2 ⟨f, mem, by simpa using same⟩)

theorem Member.front_denotes {m : Member} {key : String} (denotes : Denotes key m.key)
    (rest : List Char) : ∃ cs, m.text ++ rest = '"' :: cs ∧
      readString cs = .ok (key, m.before ++ ':' :: (m.after ++ (m.value ++ rest))) := by
  obtain ⟨body, front, read⟩ :=
    readString_denotes denotes (m.before ++ ':' :: (m.after ++ (m.value ++ rest)))
  refine ⟨_, ?_, read⟩
  simp only [Member.text, front, List.append_assoc, List.cons_append]

theorem Member.front_string {m : Member} (string : IsString m.key) (rest : List Char) :
    ∃ cs, m.text ++ rest = '"' :: cs ∧ ∀ key rest', readString cs = .ok (key, rest') →
      rest' = m.before ++ ':' :: (m.after ++ (m.value ++ rest)) := by
  obtain ⟨body, front, rest_eq⟩ := rest_of_readString string
  refine ⟨_, ?_, rest_eq (m.before ++ ':' :: (m.after ++ (m.value ++ rest)))⟩
  simp only [Member.text, front, List.append_assoc, List.cons_append]

/-! ## What a record yields -/

/-- The fields read the settings of a scheme and put them into the record. -/
structure Scheme.ReadBy (k : Scheme σ) (fields : List (Field ρ)) (put : σ → ρ → Except Cause ρ) :
    Prop where
  names : fields.map Field.name = k.names
  nodup : k.names.Nodup
  begins : ∀ {s text}, k.Spells s text → Begins text
  reads : ∀ s, ∃ f ∈ fields, f.name = k.name s ∧
    ∀ {text}, k.Spells s text → ∀ r, Yields (f.read r) text (put s r)

variable {k : Scheme σ} {fields : List (Field ρ)} {put : σ → ρ → Except Cause ρ}

theorem Scheme.Text.begins {settings : List σ} {cs : List Char}
    (text : k.Text settings cs) : Begins cs := by
  cases text with
  | object _ _ object =>
    obtain ⟨-⟩ := object
    exact ⟨'\x7b', _, rfl, .inl (by decide)⟩
  | list _ _ list => exact list.begins

theorem Scheme.ReadBy.known (reads : k.ReadBy fields put) (s : σ) :
    k.name s ∈ fields.map Field.name := by
  obtain ⟨f, mem, same, -⟩ := reads.reads s
  exact List.mem_map.2 ⟨f, mem, same⟩

theorem Scheme.ReadBy.nodup_names (reads : k.ReadBy fields put) :
    (fields.map Field.name).Nodup :=
  reads.names ▸ reads.nodup

theorem Scheme.ReadBy.yields (reads : k.ReadBy fields put) {f : Field ρ} {s : σ}
    {text : List Char} (mem : f ∈ fields) (same : f.name = k.name s) (spells : k.Spells s text)
    (r : ρ) : Yields (f.read r) text (put s r) := by
  obtain ⟨g, mem', same', yields⟩ := reads.reads s
  obtain rfl := List.inj_on_of_nodup_map reads.nodup_names mem mem' (same.trans same'.symm)
  exact yields spells r

theorem readMembers_yields (reads : k.ReadBy fields put) {order : List (Option σ)}
    {members : List Member} (writes : List.Forall₂ k.Writes order members) {first : Bool}
    {cs : List Char} (all : Items '\x7d' first (members.map Member.text) cs) {seen : List String}
    (nodup : (order.reduceOption.map k.name).Nodup)
    (fresh : ∀ name ∈ order.reduceOption.map k.name, name ∉ seen) {fuel : Nat}
    (enough : members.length ≤ fuel) (r : ρ) (rest : List Char) :
    verdict (settle leaveObject (readMembers fields (fuel + 1) first seen r (cs ++ rest))) =
      (overlay put order.reduceOption r).map fun r => (r, rest) := by
  -- The object is settled within the statement: what refuses one member refuses the object.
  induction writes generalizing first cs seen fuel r with
  | nil =>
    obtain ⟨blank⟩ := all
    rw [List.append_assoc, List.singleton_append, readMembers_close _ _ _ _ _ blank, settle,
      leaveObject_close blank]
    rfl
  | @cons s? m order members writes _ ih =>
    obtain _ | ⟨led, more⟩ := all
    obtain ⟨fuel, rfl⟩ := Nat.exists_eq_add_of_lt enough
    have ends := more.ends (by decide) rest
    rw [List.append_assoc, List.append_assoc]
    cases writes with
    | @known s _ denotes spells =>
      obtain ⟨f, mem, same, found⟩ := find?_name (reads.known s)
      obtain ⟨cs, front, read⟩ := m.front_denotes denotes (_ ++ rest)
      rw [List.reduceOption_cons_of_some, List.map_cons] at nodup fresh
      rw [List.reduceOption_cons_of_some, overlay_cons, front,
        readMembers_known led read m.blank_before found (fresh _ (List.mem_cons_self ..)),
        verdict_settle_bind, reads.yields mem same spells r _ _ m.blank_after ends]
      rcases put s r with cause | r'
      · rfl
      obtain ⟨other, nodup⟩ := List.nodup_cons.1 nodup
      refine ih more nodup (fun name later => ?_) (Nat.le_add_right ..) r'
      rw [List.mem_cons, not_or]
      refine ⟨?_, fresh name (List.mem_cons_of_mem _ later)⟩
      rintro rfl
      exact other later
    | @unknown key _ denotes lost value =>
      obtain ⟨cs, front, read⟩ := m.front_denotes denotes (_ ++ rest)
      rw [List.reduceOption_cons_of_none] at nodup fresh ⊢
      rw [front, readMembers_unknown led read m.blank_before
        (find?_name_eq_none (reads.names ▸ lost)), skipValue_append value m.blank_after ends]
      exact ih more nodup fresh (Nat.le_add_right ..) r

theorem leaveList_item {first : Bool} {lead : List Char} (led : Lead first lead) {c : Char}
    (starts : Starts c) (cs : List Char) : (leaveList (lead ++ c :: cs)).1 ≠ none := by
  have other : c ≠ ']' ∧ c ≠ ',' := by
    constructor <;> (rintro rfl; exact starts.not_mem (by decide))
  cases led with
  | first blank =>
    rw [leaveList, skipBlank_append_cons blank starts.solid]
    dsimp only
    rw [if_neg other.1, if_neg other.2]
    exact Option.some_ne_none _
  | next blank _ =>
    rw [leaveList, List.append_assoc, List.cons_append, skipBlank_append_cons blank (by decide)]
    dsimp only
    rw [if_neg (by decide), if_pos rfl]
    exact Option.some_ne_none _

theorem readInOrder_item (f : Field ρ) (fields : List (Field ρ)) {first : Bool} {lead : List Char}
    (led : Lead first lead) {c : Char} (starts : Starts c) (r : ρ) (cs : List Char) :
    readInOrder (f :: fields) first r (lead ++ c :: cs) =
      f.read r (c :: cs) >>= fun (r, cs) => readInOrder fields false r cs := by
  rw [readInOrder, nextElement?_item led starts]
  rfl

theorem readInOrder_close (fields : List (Field ρ)) (first : Bool) (r : ρ) {w : List Char}
    (blank : Blank w) (cs : List Char) :
    readInOrder fields first r (w ++ ']' :: cs) = .ok (r, w ++ ']' :: cs) := by
  cases fields with
  | nil => rfl
  | cons f fields =>
    rw [readInOrder, nextElement?_close first blank]
    rfl

theorem readInOrder_yields (reads : k.ReadBy fields put) {settings : List σ}
    {values : List (List Char)} (spells : List.Forall₂ k.Spells settings values) {first : Bool}
    {cs : List Char} (all : Items ']' first values cs) {left : List (Field ρ)}
    (known : ∀ f ∈ left, f ∈ fields) (front : settings.map k.name <+: left.map Field.name) (r : ρ)
    (rest : List Char) :
    verdict (settle leaveList (readInOrder left first r (cs ++ rest))) =
      (overlay put settings r).map fun r => (r, rest) := by
  induction spells generalizing first cs left r with
  | nil =>
    obtain ⟨blank⟩ := all
    rw [List.append_assoc, List.singleton_append, readInOrder_close _ _ _ blank, settle,
      leaveList_close blank]
    rfl
  | @cons s value settings values spells _ ih =>
    obtain _ | ⟨led, more⟩ := all
    obtain ⟨c, t, rfl, starts⟩ := reads.begins spells
    rcases left with _ | ⟨f, left⟩
    · cases List.prefix_nil.1 front
    obtain ⟨same, front⟩ := List.cons_prefix_cons.1 front
    have ends := more.ends (by decide) rest
    have value := reads.yields (known f (List.mem_cons_self ..)) same.symm spells r [] _ blank_nil
      ends
    rw [List.append_assoc, List.append_assoc, List.cons_append, readInOrder_item _ _ led starts,
      verdict_settle_bind, overlay_cons]
    rw [List.nil_append, List.cons_append] at value
    rw [value]
    rcases put s r with cause | r'
    · rfl
    · exact ih more (fun f mem => known f (List.mem_cons_of_mem _ mem)) front r'

/-- Settings that are written for some of the fields, in order, are for different fields. -/
theorem Scheme.sublist_names {options : List (Option σ)} {names : List String}
    (named : List.Forall₂ (fun o name => ∀ s ∈ o, k.name s = name) options names) :
    (options.reduceOption.map k.name).Sublist names := by
  induction named with
  | nil => exact .slnil
  | @cons o name options names same _ ih =>
    cases o with
    | none => exact ih.cons name
    | some s =>
      rw [List.reduceOption_cons_of_some, List.map_cons, same s rfl]
      exact ih.cons_cons name

/-- Reading a text with some settings puts them into the defaults, in whatever order. -/
theorem readRecord_overlay (reads : k.ReadBy fields put) {settings : List σ}
    (nodup : (settings.map k.name).Nodup) {defaults : ρ} {outcome : Except Cause ρ}
    (same : ∀ order, order.Perm settings → overlay put order defaults = outcome) {cs : List Char}
    (text : k.Text settings cs) (expected : String) :
    Yields (readRecord expected fields defaults) cs outcome := by
  intro w rest blank _
  cases text with
  | object perm writes object =>
    obtain ⟨all⟩ := object
    have enough := all.length_le
    have nodup' := (perm.map k.name).nodup_iff.2 nodup
    rw [readRecord, List.cons_append, skipBlank_append_cons blank (by decide), ← same _ perm]
    refine readMembers_yields reads writes all nodup' (fun _ _ => List.not_mem_nil) ?_ defaults rest
    rw [List.length_map] at enough
    rw [List.length_append]
    omega
  | list front spells list =>
    obtain ⟨all⟩ := list
    rw [readRecord, List.cons_append, skipBlank_append_cons blank (by decide), ← same _ (.refl _)]
    exact readInOrder_yields reads spells all (fun _ mem => mem) (reads.names ▸ front) defaults rest

/-- Reading a text with some settings overlays them on the defaults. -/
theorem readRecord_yields (reads : k.ReadBy fields put)
    (commute : ∀ s t r, k.name s ≠ k.name t → put s r >>= put t = put t r >>= put s)
    {settings : List σ} (nodup : (settings.map k.name).Nodup) {cs : List Char}
    (text : k.Text settings cs) (expected : String) (defaults : ρ) :
    Yields (readRecord expected fields defaults) cs (overlay put settings defaults) := by
  refine readRecord_overlay reads nodup (fun order perm => ?_) text expected
  exact overlay_perm commute perm ((perm.map k.name).nodup_iff.2 nodup) defaults

/-! ## Whole texts -/

theorem Blank.ends {w : List Char} (blank : Blank w) : Ends w := by
  intro c mem
  have := blank c (List.mem_of_mem_head? mem)
  simp only [List.mem_cons, List.not_mem_nil, or_false] at this ⊢
  tauto

theorem readDocument_yields {α : Type} {read : List Char → Reading (α × List Char)}
    {P : List Char → Prop} {outcome : Except Cause α} (yields : ∀ cs, P cs → Yields read cs outcome)
    {text : String} (document : Document P text) :
    (readDocument read text).mapError Fault.cause = outcome := by
  obtain ⟨before, cs, after, blank, blank', holds, whole⟩ := document
  have result := yields cs holds before after blank blank'.ends
  rw [readDocument, whole]
  generalize read (before ++ (cs ++ after)) = out at result ⊢
  rcases outcome with cause | a
  · rcases out with (_ | _) | _ <;> cases result <;> rfl
  · rw [eq_ok_of_verdict result]
    have nothing : skipBlank after = [] := by
      simpa [skipBlank] using skipBlank_append blank' []
    simp only [bind, Except.bind, nothing]
    rfl

end LedStrip.Json
