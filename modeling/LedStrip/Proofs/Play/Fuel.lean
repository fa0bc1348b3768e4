import LedStrip.Proofs.Play.Cue

/-!
# Bounds that do not matter

Some plays repeat something only so many times, because a script must come to an end.  Where the
show is over after `k` more checks (`Scene.EndsWithin`) such a bound makes no difference if it is
larger than `k`: plays with different bounds then come to the same (`Play.Agree`).
-/

namespace LedStrip

variable {α β S σ : Type}

/-- The show is over after at most `k` more checks. -/
def Scene.EndsWithin (k : Nat) (s : Scene S (Cued σ)) : Prop := ∃ j, j ≤ k ∧ s.stage.checks = some j

theorem Scene.endsWithin_cue (s : Scene S σ) (k : Nat) : (s.cue (some k)).EndsWithin k :=
  ⟨k, Nat.le_refl k, rfl⟩

theorem Scene.EndsWithin.mono {k l : Nat} {s : Scene S (Cued σ)} (ends : s.EndsWithin k)
    (more : k ≤ l) : s.EndsWithin l := by
  obtain ⟨j, few, checks⟩ := ends
  exact ⟨j, Nat.le_trans few more, checks⟩

/-- A check is answered yes only if there is one left. -/
theorem Scene.EndsWithin.check [Stage σ] {k : Nat} {s : Scene S (Cued σ)} (ends : s.EndsWithin k) :
    (Stage.running s.stage).1 = false ∧ s.checked = s ∨
      ∃ j, k = j + 1 ∧ (Stage.running s.stage).1 = true ∧ s.checked.EndsWithin j := by
  obtain ⟨surface, ⟨stage, _⟩, beats, log⟩ := s
  obtain ⟨j, few, rfl⟩ := ends
  cases j with
  | zero => exact .inl ⟨rfl, rfl⟩
  | succ j =>
    obtain ⟨k, rfl⟩ : ∃ i, k = i + 1 := ⟨k - 1, by omega⟩
    exact .inr ⟨k, rfl, rfl, j, Nat.le_of_succ_le_succ few, rfl⟩

variable [Surface S] [Stage σ]

namespace Scene.EndsWithin

variable {k : Nat} {s : Scene S (Cued σ)}

theorem present (ends : s.EndsWithin k) : s.present.1.EndsWithin k := by
  obtain ⟨j, few, checks⟩ := ends
  refine ⟨j, few, ?_⟩
  rw [← checks]
  unfold Scene.present
  dsimp only
  split <;> rfl

theorem perform (ends : s.EndsWithin k) (p : Play α) : (p.perform s).1.EndsWithin k := by
  induction p generalizing s k with
  | done a => exact ends
  | paint strokes next ih => exact ih (s := s.paint strokes) ends
  | present next ih =>
    cases h : s.present.2 with
    | ok =>
      rw [Play.perform_present_of_ok h]
      exact ih ends.present
    | error e =>
      rw [Play.perform_present_of_error h]
      exact ends.present
  | sleep t next ih => exact ih (s := s.sleep t) ends
  | report e next ih => exact ih (s := s.report e) ends
  | running next ih =>
    rw [Play.perform_running]
    rcases ends.check with ⟨-, same⟩ | ⟨j, rfl, -, later⟩
    · rw [same]
      exact ih _ ends
    · obtain ⟨i, few, checks⟩ := ih (Stage.running s.stage).1 later
      exact ⟨i, Nat.le_succ_of_le few, checks⟩
  | clock next ih => exact ih _ (s := { s with stage := (Stage.clock s.stage).2 }) ends
  | random low high next ih =>
    exact ih _ (s := { s with stage := (Stage.random low high s.stage).2 }) ends

end Scene.EndsWithin

namespace Play

variable (S σ) in
/-- Two plays come to the same where the show is over after at most `k` more checks. -/
def Agree (k : Nat) (p q : Play α) : Prop :=
  ∀ s : Scene S (Cued σ), s.EndsWithin k → p.perform s = q.perform s

namespace Agree

variable {k : Nat} {p q : Play α}

theorem refl (p : Play α) : Agree S σ k p p := fun _ _ => rfl

theorem bind {f g : α → Play β} (first : Agree S σ k p q) (second : ∀ a, Agree S σ k (f a) (g a)) :
    Agree S σ k (p.bind f) (q.bind g) := by
  intro s ends
  have later := ends.perform p
  rw [perform_bind, perform_bind, ← first s ends]
  split
  · next t a same =>
    rw [same] at later
    exact second a t later
  · rfl

theorem paint (strokes : List Stroke) (rest : Agree S σ k p q) :
    Agree S σ k (.paint strokes p) (.paint strokes q) :=
  fun s ends => rest (s.paint strokes) ends

theorem present (rest : Agree S σ k p q) : Agree S σ k (.present p) (.present q) := by
  intro s ends
  cases h : s.present.2 with
  | ok =>
    rw [perform_present_of_ok h, perform_present_of_ok h]
    exact rest _ ends.present
  | error e => rw [perform_present_of_error h, perform_present_of_error h]

theorem sleep (t : Nat) (rest : Agree S σ k p q) : Agree S σ k (.sleep t p) (.sleep t q) :=
  fun s ends => rest (s.sleep t) ends

theorem report (e : Event) (rest : Agree S σ k p q) : Agree S σ k (.report e p) (.report e q) :=
  fun s ends => rest (s.report e) ends

theorem clock {next next' : Nat → Play α} (rest : ∀ t, Agree S σ k (next t) (next' t)) :
    Agree S σ k (.clock next) (.clock next') :=
  fun s ends => rest _ { s with stage := (Stage.clock s.stage).2 } ends

/-- When the check is answered yes there is one less to come. -/
theorem running {next next' : Bool → Play α} (off : Agree S σ k (next false) (next' false))
    (on : ∀ j, k = j + 1 → Agree S σ j (next true) (next' true)) :
    Agree S σ k (.running next) (.running next') := by
  intro s ends
  rw [perform_running, perform_running]
  rcases ends.check with ⟨answer, same⟩ | ⟨j, more, answer, later⟩
  · rw [answer, same]
    exact off s ends
  · rw [answer]
    exact on j more _ later

end Agree

/-! ## Segments of time -/

theorem agree_within (start length : Nat) (body : Play Unit) {k rounds rounds' : Nat}
    (enough : k < rounds) (enough' : k < rounds') :
    Agree S σ k (within start length body rounds) (within start length body rounds') := by
  induction rounds generalizing k rounds' with
  | zero => cases enough
  | succ rounds ih =>
    obtain ⟨rounds', rfl⟩ : ∃ r, rounds' = r + 1 := ⟨rounds' - 1, by omega⟩
    refine .clock fun now => ?_
    split
    · refine .running (.refl _) ?_
      rintro j rfl
      exact .bind (.refl body) fun _ => ih (by omega) (by omega)
    · exact .refl _

theorem agree_segment (length : Nat) (body : Play Unit) {k rounds rounds' : Nat}
    (enough : k < rounds) (enough' : k < rounds') :
    Agree S σ k (segment length rounds body) (segment length rounds' body) :=
  .clock fun start => agree_within start length body enough enough'

end Play

end LedStrip
