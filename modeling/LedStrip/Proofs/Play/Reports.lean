import LedStrip.Proofs.Play.Acts

/-!
# What plays report

`Play.Reports` says of a play that everything it may report is of some kind, whatever it is told.
Plays are built from smaller ones in a few ways; each has a rule here.
-/

namespace LedStrip.Play

variable {α β : Type}

/-- All that the play may report is of some kind. -/
def Reports (kind : Event → Prop) : Play α → Prop
  | done _ => True
  | paint _ next | present next | sleep _ next => next.Reports kind
  | report e next => kind e ∧ next.Reports kind
  | running next => ∀ on, (next on).Reports kind
  | clock next => ∀ t, (next t).Reports kind
  | random _ _ next => ∀ n, (next n).Reports kind

variable {kind : Event → Prop}

theorem Reports.bind {p : Play α} {f : α → Play β} (first : p.Reports kind)
    (second : ∀ a, (f a).Reports kind) : (p.bind f).Reports kind := by
  induction p with
  | done a => exact second a
  | paint strokes next ih => exact ih first
  | present next ih => exact ih first
  | sleep t next ih => exact ih first
  | report e next ih => exact ⟨first.1, ih first.2⟩
  | running next ih => exact fun on => ih on (first on)
  | clock next ih => exact fun t => ih t (first t)
  | random low high next ih => exact fun n => ih n (first n)

/-! ## Repetition -/

section Repetition

variable {body : Nat → Play Unit}

theorem reports_whileRunning (reports : ∀ i, (body i).Reports kind) (start count : Nat) :
    (whileRunning body start count).Reports kind := by
  induction count generalizing start with
  | zero => trivial
  | succ count ih =>
    intro on
    cases on with
    | false => trivial
    | true => exact (reports start).bind fun _ => ih (start + 1)

theorem reports_each (reports : ∀ i, (body i).Reports kind) (count : Nat) :
    (each count body).Reports kind :=
  (reports_whileRunning reports 0 count).bind fun _ => trivial

theorem reports_within {body : Play Unit} (reports : body.Reports kind)
    (start length rounds : Nat) : (within start length body rounds).Reports kind := by
  induction rounds with
  | zero => trivial
  | succ rounds ih =>
    intro now
    dsimp only
    split
    · intro on
      cases on with
      | false => trivial
      | true => exact reports.bind fun _ => ih
    · trivial

theorem reports_segment {body : Play Unit} (reports : body.Reports kind) (length rounds : Nat) :
    (segment length rounds body).Reports kind :=
  fun start => reports_within reports start length rounds

end Repetition

/-! ## Performances -/

theorem Reports.acts {S σ : Type} [Surface S] [Stage σ] {p : Play α} (reports : p.Reports kind)
    (s : Scene S σ) : ∀ e, .reported e ∈ p.acts s → kind e := by
  intro e reported
  have behind {a : Act} {acts : List Act} (other : .reported e ≠ a)
      (happens : .reported e ∈ a :: acts) : .reported e ∈ acts :=
    (List.mem_cons.1 happens).resolve_left other
  induction p generalizing s with
  | done a => cases reported
  | paint strokes next ih => exact ih reports _ (behind (by simp) reported)
  | present next ih =>
    cases h : s.present.2 with
    | ok =>
      rw [acts_present_of_ok h] at reported
      exact ih reports _ (behind (by simp) reported)
    | error e' =>
      rw [acts_present_of_error h] at reported
      cases behind (by simp) reported
  | sleep t next ih => exact ih reports _ (behind (by simp) reported)
  | report e' next ih =>
    rcases List.mem_cons.1 reported with same | later
    · obtain rfl := Act.reported.inj same
      exact reports.1
    · exact ih reports.2 _ later
  | running next ih => exact ih _ (reports _) _ (behind (by simp) reported)
  | clock next ih => exact ih _ (reports _) _ (behind (by simp) reported)
  | random low high next ih => exact ih _ (reports _) _ (behind (by simp) reported)

end LedStrip.Play
