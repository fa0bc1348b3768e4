import LedStrip.Proofs.Json.Record

/-!
# Values that are spelled otherwise

What becomes of a record when the value of one field is spelled in another way than its setting
would be, and of a list when one element is: the reader of that value decides.  If it takes the
value for another setting, the record is read with that setting, and if it refuses the value, the
record is refused for the same cause (`readRecord_respelled`); likewise for the list
(`readList_respelled`).
-/

namespace LedStrip.Json

variable {α ρ σ : Type}

/-! ## Records -/

section Records

variable {k : Scheme σ} {fields : List (Field ρ)} {put : σ → ρ → Except Cause ρ} {field : String}
  {texts : List Char → Prop} {outcome : Except Cause σ}

/-- What the reader of a field makes of other texts: it takes them for a setting of the field, or
refuses them. -/
structure Respelling (k : Scheme σ) (fields : List (Field ρ)) (put : σ → ρ → Except Cause ρ)
    (field : String) (texts : List Char → Prop) (outcome : Except Cause σ) : Prop where
  named : ∀ t, outcome = .ok t → k.name t = field
  begins : ∀ {text}, texts text → Begins text
  yields : ∀ f ∈ fields, f.name = field → ∀ {text}, texts text → ∀ r,
    Yields (f.read r) text (outcome >>= fun t => put t r)

/-- The reader of a field that keeps what it returns decides about the texts of its value. -/
theorem Respelling.of_field (nodup : (fields.map Field.name).Nodup)
    {read : List Char → Reading (α × List Char)} {store : α → ρ → ρ} {setting : α → σ}
    {outcome : Except Cause α} (mem : Field.of field read store ∈ fields)
    (named : ∀ a, k.name (setting a) = field) (begins : ∀ {text}, texts text → Begins text)
    (stores : ∀ a r, put (setting a) r = .ok (store a r))
    (yields : ∀ {text}, texts text → Yields read text outcome) :
    Respelling k fields put field texts (outcome.map setting) where
  named := by
    intro t ok
    rcases outcome with cause | a <;> cases ok
    exact named a
  begins := begins
  yields := by
    intro f mem' same text written r
    obtain rfl := List.inj_on_of_nodup_map nodup mem' mem same
    have kept : (outcome.map setting >>= fun t => put t r) = outcome.map fun a => store a r := by
      rcases outcome with cause | a
      · rfl
      · exact stores a r
    exact kept ▸ Field.of_yields field (yields written) store r

/-- Put a setting, but for one field what came of reading its value. -/
def putInstead (put : σ → ρ → Except Cause ρ) (name : σ → String) (field : String)
    (outcome : Except Cause σ) (s : σ) (r : ρ) : Except Cause ρ :=
  if name s = field then outcome >>= fun t => put t r else put s r

/-- A setting, but for one field another one. -/
def instead (name : σ → String) (field : String) (t s : σ) : σ := if name s = field then t else s

theorem name_instead {name : σ → String} {t : σ} (named : name t = field) (s : σ) :
    name (instead name field t s) = name s := by
  unfold instead
  split_ifs with same
  · exact named.trans same.symm
  · rfl

theorem putInstead_ok (put : σ → ρ → Except Cause ρ) (name : σ → String) (field : String) (t : σ) :
    putInstead put name field (.ok t) = fun s => put (instead name field t s) := by
  funext s r
  unfold putInstead instead
  split_ifs <;> rfl

theorem Scheme.ReadBy.respell (reads : k.ReadBy fields put)
    (respelling : Respelling k fields put field texts outcome) :
    (k.respell field texts).ReadBy fields (putInstead put k.name field outcome) where
  names := reads.names
  nodup := reads.nodup
  begins := by
    intro s text spells
    unfold Scheme.respell at spells
    dsimp only at spells
    split_ifs at spells
    · exact respelling.begins spells
    · exact reads.begins spells
  reads := by
    intro s
    obtain ⟨f, mem, named, reads⟩ := reads.reads s
    refine ⟨f, mem, named, fun spells r => ?_⟩
    unfold Scheme.respell at spells
    dsimp only at spells
    unfold putInstead
    split_ifs at spells ⊢ with same
    · exact respelling.yields f mem (named.trans same) spells r
    · exact reads spells r

theorem overlay_map (put : σ → ρ → Except Cause ρ) (f : σ → σ) (settings : List σ) (r : ρ) :
    overlay put (settings.map f) r = overlay (fun s => put (f s)) settings r := by
  rw [overlay, List.foldlM_map]
  rfl

/-- If one setting is refused and no other one for another cause, this is the cause for which all
are refused. -/
theorem overlay_refused {settings : List σ} {cause : Cause}
    (refused : ∃ s ∈ settings, ∀ r, put s r = .error cause)
    (others : ∀ s ∈ settings, (∀ r, put s r = .error cause) ∨ ∀ r, ∃ r', put s r = .ok r')
    (r : ρ) : overlay put settings r = .error cause := by
  induction settings generalizing r with
  | nil =>
    obtain ⟨s, mem, -⟩ := refused
    cases mem
  | cons s settings ih =>
    obtain ⟨first, later⟩ := List.forall_mem_cons.1 others
    rw [overlay_cons]
    rcases first with refuses | accepts
    · rw [refuses]
      rfl
    · obtain ⟨r', accepted⟩ := accepts r
      have refused' : ∃ s ∈ settings, ∀ r, put s r = .error cause := by
        obtain ⟨s', mem, refuses⟩ := refused
        rcases List.mem_cons.1 mem with rfl | mem
        · rw [refuses] at accepted
          cases accepted
        · exact ⟨s', mem, refuses⟩
      rw [accepted]
      exact ih refused' later r'

/-- A record of which one value is spelled otherwise. -/
theorem readRecord_respelled (reads : k.ReadBy fields put)
    (commute : ∀ s t r, k.name s ≠ k.name t → put s r >>= put t = put t r >>= put s)
    (respelling : Respelling k fields put field texts outcome) {settings : List σ}
    (nodup : (settings.map k.name).Nodup) (written : ∃ s ∈ settings, k.name s = field)
    (sound : ∀ s ∈ settings, k.name s ≠ field → ∀ r, ∃ r', put s r = .ok r') {cs : List Char}
    (text : (k.respell field texts).Text settings cs) (expected : String) (defaults : ρ) :
    Yields (readRecord expected fields defaults) cs
      (outcome >>= fun t => overlay put (settings.map (instead k.name field t)) defaults) := by
  refine readRecord_overlay (reads.respell respelling) nodup (fun order perm => ?_) text expected
  rcases outcome with cause | t
  · obtain ⟨s, mem, here⟩ := written
    refine overlay_refused ⟨s, perm.mem_iff.2 mem, fun r => if_pos here⟩ (fun s mem => ?_) defaults
    unfold putInstead
    by_cases same : k.name s = field
    · exact .inl fun r => if_pos same
    · refine .inr fun r => ?_
      rw [if_neg same]
      exact sound s (perm.mem_iff.1 mem) same r
  · have names : (order.map (instead k.name field t)).map k.name = order.map k.name := by
      rw [List.map_map]
      exact List.map_congr_left fun s _ => name_instead (respelling.named t rfl) s
    have nodup' : ((order.map (instead k.name field t)).map k.name).Nodup :=
      names ▸ (perm.map k.name).nodup_iff.2 nodup
    calc overlay (putInstead put k.name field (.ok t)) order defaults
      _ = overlay put (order.map (instead k.name field t)) defaults := by
        rw [putInstead_ok]
        exact (overlay_map put _ order defaults).symm
      _ = overlay put (settings.map (instead k.name field t)) defaults :=
        overlay_perm commute (perm.map _) nodup' defaults

end Records

/-! ## Lists -/

section Lists

variable {item : List Char → Reading (α × List Char)} {before after : List α}
  {texts texts' : List (List Char)} {text cs : List Char}

theorem verdict_settle_of_error (leave : List Char → Option Cause × List Char)
    {body : Reading (α × List Char)} {cause : Cause} (refused : verdict body = .error cause) :
    verdict (settle leave body) = .error cause := by
  rcases body with (_ | _) | _ <;> cases refused <;> rfl

theorem readElements_refused {cause : Cause}
    (yields : List.Forall₂ (fun a t => Yields item t (.ok a)) before texts)
    (refused : Yields item text (.error cause)) (begins : ∀ t ∈ texts ++ text :: texts', Begins t)
    {first : Bool} (all : Items ']' first (texts ++ text :: texts') cs) {fuel : Nat}
    (enough : texts.length ≤ fuel) (rest : List Char) :
    verdict (readElements item (fuel + 1) first (cs ++ rest)) = .error cause := by
  induction yields generalizing first cs fuel with
  | nil =>
    obtain _ | ⟨led, more⟩ := all
    obtain ⟨c, t, rfl, starts⟩ := begins text List.mem_cons_self
    have element := refused [] _ blank_nil (more.ends (by decide) rest)
    rw [List.nil_append, List.cons_append] at element
    rw [List.append_assoc, List.append_assoc, List.cons_append, readElements_item _ _ led starts]
    generalize item _ = out at element ⊢
    rcases out with (_ | _) | _ <;> cases element <;> rfl
  | @cons a t before texts yields _ ih =>
    obtain _ | ⟨led, more⟩ := all
    obtain ⟨begins, others⟩ := List.forall_mem_cons.1 begins
    obtain ⟨c, t, rfl, starts⟩ := begins
    have element := yields.eq_ok blank_nil (more.ends (by decide) rest)
    rw [List.nil_append, List.cons_append] at element
    obtain ⟨fuel, rfl⟩ := Nat.exists_eq_add_of_lt enough
    have later := ih others more (Nat.le_add_right texts.length fuel)
    rw [List.append_assoc, List.append_assoc, List.cons_append, readElements_item _ _ led starts,
      element]
    change verdict (Except.map _ (readElements item _ false _)) = _
    generalize readElements item _ false _ = out at later ⊢
    rcases out with (_ | _) | _ <;> cases later <;> rfl

/-- A list of which one element is spelled otherwise. -/
theorem readList_respelled {outcome : Except Cause α}
    (yields : List.Forall₂ (fun a t => Yields item t (.ok a)) before texts)
    (yields' : List.Forall₂ (fun a t => Yields item t (.ok a)) after texts')
    (here : Yields item text outcome) (begins : ∀ t ∈ texts ++ text :: texts', Begins t)
    (list : IsList (texts ++ text :: texts') cs) :
    Yields (readList item) cs (outcome.map fun a => before ++ a :: after) := by
  rcases outcome with cause | a
  · intro w rest blank _
    obtain ⟨all⟩ := list
    have enough := all.length_le
    rw [readList, List.cons_append, skipBlank_append_cons blank (by decide)]
    refine verdict_settle_of_error leaveList (readElements_refused yields here begins all ?_ rest)
    rw [List.length_append] at enough ⊢
    omega
  · exact readList_yields (List.rel_append yields (.cons here yields')) begins list

end Lists

end LedStrip.Json
