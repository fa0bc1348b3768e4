import LedStrip.Proofs.Play.Cue

/-!
# Plays that heed the cue

A play heeds the cue (`Play.Heeds`) if it draws and shows nothing before it has asked whether the
show is on, shows only so many frames before it asks again, and does nothing any more but ask once
it was told no.  Plays are built from smaller ones in a few ways; each has a rule here.  What this
gives for every performance is at the end.
-/

namespace LedStrip.Play

variable {α β : Type}

/-- What a play ends with that only asks whether the show is on, and is always told no; such a play
leaves. -/
def quit? : Play α → Option α
  | done a => some a
  | running next => (next false).quit?
  | _ => none

/-- The play heeds the cue.  `left` is how many frames it may still show before it asks again; while
it has never asked there is no such number, and it may not even draw.  `last` says what the play may
end with when it was told that the show is over. -/
def Heeds (limit : Nat) (last : α → Prop) : Play α → Option Nat → Prop
  | done _, _ => True
  | paint _ next, left => left ≠ none ∧ next.Heeds limit last left
  | present next, left => ∃ fewer, left = some (fewer + 1) ∧ next.Heeds limit last (some fewer)
  | sleep _ next, left => next.Heeds limit last left
  | report _ next, left => next.Heeds limit last left
  | running next, _ =>
    (∃ a, (next false).quit? = some a ∧ last a) ∧ (next true).Heeds limit last (some limit)
  | clock next, left => ∀ t, (next t).Heeds limit last left
  | random _ _ next, left => ∀ n, (next n).Heeds limit last left

section Rules

variable {limit : Nat} {last : α → Prop} {left : Option Nat} {p : Play α}

theorem quit?_bind (p : Play α) (f : α → Play β) :
    (p.bind f).quit? = p.quit?.bind fun a => (f a).quit? := by
  induction p with
  | running next ih => exact ih false
  | done a => rfl
  | paint | present | sleep | report | clock | random => rfl

/-- A play that may not draw yet does not mind if it may. -/
theorem Heeds.of_none (heeds : p.Heeds limit last none) : p.Heeds limit last left := by
  induction p with
  | done a => trivial
  | paint strokes next ih => exact absurd rfl heeds.1
  | present next ih =>
    obtain ⟨fewer, absent, -⟩ := heeds
    cases absent
  | sleep t next ih => exact ih heeds
  | report e next ih => exact ih heeds
  | running next ih => exact heeds
  | clock next ih => exact fun t => ih t (heeds t)
  | random low high next ih => exact fun n => ih n (heeds n)

theorem Heeds.imp {last' : α → Prop} (weaker : ∀ a, last a → last' a)
    (heeds : p.Heeds limit last left) : p.Heeds limit last' left := by
  induction p generalizing left with
  | done a => trivial
  | paint strokes next ih => exact ⟨heeds.1, ih heeds.2⟩
  | present next ih =>
    obtain ⟨fewer, rest, heeds⟩ := heeds
    exact ⟨fewer, rest, ih heeds⟩
  | sleep t next ih => exact ih heeds
  | report e next ih => exact ih heeds
  | running next ih =>
    obtain ⟨⟨a, quits, fine⟩, heeds⟩ := heeds
    exact ⟨⟨a, quits, weaker a fine⟩, ih true heeds⟩
  | clock next ih => exact fun t => ih t (heeds t)
  | random low high next ih => exact fun n => ih n (heeds n)

/-- One play after the other: whatever the first may end with when it is told that the show is over,
the second must leave then, and it must ask before it draws. -/
theorem Heeds.bind {f : α → Play β} {last' : β → Prop}
    (first : p.Heeds limit (fun a => ∃ b, (f a).quit? = some b ∧ last' b) left)
    (second : ∀ a, (f a).Heeds limit last' none) : (p.bind f).Heeds limit last' left := by
  induction p generalizing left with
  | done a => exact (second a).of_none
  | paint strokes next ih => exact ⟨first.1, ih first.2⟩
  | present next ih =>
    obtain ⟨fewer, rest, heeds⟩ := first
    exact ⟨fewer, rest, ih heeds⟩
  | sleep t next ih => exact ih first
  | report e next ih => exact ih first
  | running next ih =>
    obtain ⟨⟨a, quits, b, quits', fine⟩, heeds⟩ := first
    refine ⟨⟨b, ?_, fine⟩, ih true heeds⟩
    rw [quit?_bind, quits]
    exact quits'
  | clock next ih => exact fun t => ih t (first t)
  | random low high next ih => exact fun n => ih n (first n)

end Rules

/-! ## Repetition -/

section Repetition

variable {limit : Nat} {body : Nat → Play Unit}

theorem quit?_whileRunning (body : Nat → Play Unit) (start count : Nat) :
    (whileRunning body start count).quit? = some (count == 0) := by
  cases count <;> rfl

theorem heeds_whileRunning {last : Bool → Prop} (gone : last false)
    (heeds : ∀ i, (body i).Heeds limit (fun _ => last true) (some limit)) (start count : Nat) :
    (whileRunning body start count).Heeds limit last none := by
  induction count generalizing start with
  | zero => trivial
  | succ count ih =>
    refine ⟨⟨false, rfl, gone⟩, Heeds.bind ?_ fun _ => ih (start + 1)⟩
    apply (heeds start).imp
    intro _ complete
    refine ⟨_, quit?_whileRunning body (start + 1) count, ?_⟩
    cases count with
    | zero => exact complete
    | succ count => exact gone

theorem quit?_each (count : Nat) (body : Nat → Play Unit) : (each count body).quit? = some () := by
  rw [each, quit?_bind, quit?_whileRunning]
  rfl

theorem heeds_each (heeds : ∀ i, (body i).Heeds limit (fun _ => True) (some limit)) (count : Nat) :
    (each count body).Heeds limit (fun _ => True) none :=
  (heeds_whileRunning ⟨(), rfl, trivial⟩ (fun i => (heeds i).imp fun _ _ => ⟨(), rfl, trivial⟩) 0
    count).bind fun _ => trivial

end Repetition

/-! ## Performances -/

section Performances

variable {S σ : Type} [Surface S] [Stage σ]
variable {limit : Nat} {last : α → Prop} {left : Option Nat} {p : Play α}

/-- A play that leaves does nothing but ask. -/
theorem acts_of_quit? {a : α} (quits : p.quit? = some a) (s : Scene S σ) :
    ∀ x ∈ p.acts (s.cue (some 0)), x = .checked false := by
  induction p with
  | done b => exact List.forall_mem_nil _
  | running next ih => exact List.forall_mem_cons.2 ⟨rfl, ih false quits⟩
  | paint | present | sleep | report | clock | random => cases quits

theorem untouched_of_quit? {a : α} {next : Bool → Play α} (quits : (next false).quit? = some a)
    (s : Scene S σ) : ∀ x ∈ (running next).acts (s.cue (some 0)), x.touches = false := by
  rw [acts_cue_off]
  exact List.forall_mem_cons.2 ⟨rfl, untouched_of_checked (acts_of_quit? quits s)⟩

theorem Heeds.cutShort (heeds : p.Heeds limit last left) (s : Scene S σ) (k : Nat) :
    CutShort (p.acts (s.cue none)) (p.acts (s.cue (some k))) := by
  induction p generalizing left s k with
  | done a => exact .nil
  | paint strokes next ih =>
    rw [acts_cue_paint, acts_cue_paint]
    exact .cons (Act.ne_checked rfl) (ih heeds.2 _ k)
  | present next ih =>
    obtain ⟨fewer, -, heeds⟩ := heeds
    cases h : s.present.2 with
    | ok =>
      rw [acts_cue_of_ok h, acts_cue_of_ok h]
      exact .cons (Act.ne_checked rfl) (ih heeds _ k)
    | error e =>
      rw [acts_cue_of_error h, acts_cue_of_error h]
      exact .cons (Act.ne_checked rfl) .nil
  | sleep t next ih =>
    rw [acts_cue_sleep, acts_cue_sleep]
    exact .cons (Act.ne_checked rfl) (ih heeds _ k)
  | report e next ih =>
    rw [acts_cue_report, acts_cue_report]
    exact .cons (Act.ne_checked rfl) (ih heeds _ k)
  | running next ih =>
    obtain ⟨⟨a, quits, -⟩, heeds⟩ := heeds
    cases k with
    | zero =>
      rw [acts_cue_off]
      apply CutShort.off
      · exact List.forall_mem_cons.2 ⟨rfl, acts_of_quit? quits s⟩
      · exact List.cons_ne_nil _ _
    | succ k =>
      rw [acts_cue_never, acts_cue_on]
      exact .cons (by simp) (ih true heeds s k)
  | clock next ih =>
    obtain ⟨now, t, told⟩ := acts_cue_clock next s
    rw [told, told]
    exact .cons (Act.ne_checked rfl) (ih now (heeds now) t k)
  | random low high next ih =>
    obtain ⟨n, t, told⟩ := acts_cue_random low high next s
    rw [told, told]
    exact .cons (Act.ne_checked rfl) (ih n (heeds n) t k)

theorem Heeds.paced (heeds : p.Heeds limit last left) (room : left.getD 0 ≤ limit)
    (s : Scene S σ) (checks : Option Nat) :
    Paced limit (left.getD 0) (p.acts (s.cue checks)) := by
  induction p generalizing left s checks with
  | done a => exact .of_untouched (List.forall_mem_nil _)
  | paint strokes next ih =>
    rw [acts_cue_paint]
    exact (ih heeds.2 room _ checks).quiet room rfl
  | present next ih =>
    obtain ⟨fewer, rfl, heeds⟩ := heeds
    cases h : s.present.2 with
    | ok =>
      rw [acts_cue_of_ok h]
      exact (ih heeds (Nat.le_of_succ_le room) _ checks).cons room fun _ => Nat.le_refl _
    | error e =>
      rw [acts_cue_of_error h]
      have nothing : Paced limit (fewer + 1) [] := .of_untouched (List.forall_mem_nil _)
      exact nothing.quiet room rfl
  | sleep t next ih =>
    rw [acts_cue_sleep]
    exact (ih heeds room _ checks).quiet room rfl
  | report e next ih =>
    rw [acts_cue_report]
    exact (ih heeds room _ checks).quiet room rfl
  | running next ih =>
    obtain ⟨⟨a, quits, -⟩, heeds⟩ := heeds
    have again (checks : Option Nat) := ih true heeds (Nat.le_refl limit) s checks
    match checks with
    | none => exact (again none).cons room fun other => by cases other
    | some (k + 1) => exact (again (some k)).cons room fun other => by cases other
    | some 0 => exact .of_untouched (untouched_of_quit? quits s)
  | clock next ih =>
    obtain ⟨now, t, told⟩ := acts_cue_clock next s
    rw [told]
    exact (ih now (heeds now) room t checks).quiet room rfl
  | random low high next ih =>
    obtain ⟨n, t, told⟩ := acts_cue_random low high next s
    rw [told]
    exact (ih n (heeds n) room t checks).quiet room rfl

/-- When the show is over from the start a play that must ask first leaves everything as it is. -/
theorem Heeds.untouched (heeds : p.Heeds limit last none) (s : Scene S σ) :
    ∀ x ∈ p.acts (s.cue (some 0)), x.touches = false := by
  induction p generalizing s with
  | done a => exact List.forall_mem_nil _
  | paint strokes next ih => exact absurd rfl heeds.1
  | present next ih =>
    obtain ⟨fewer, absent, -⟩ := heeds
    cases absent
  | sleep t next ih =>
    rw [acts_cue_sleep]
    exact List.forall_mem_cons.2 ⟨rfl, ih heeds _⟩
  | report e next ih =>
    rw [acts_cue_report]
    exact List.forall_mem_cons.2 ⟨rfl, ih heeds _⟩
  | running next ih =>
    obtain ⟨⟨a, quits, -⟩, -⟩ := heeds
    exact untouched_of_quit? quits s
  | clock next ih =>
    obtain ⟨now, t, told⟩ := acts_cue_clock next s
    rw [told]
    exact List.forall_mem_cons.2 ⟨rfl, ih now (heeds now) t⟩
  | random low high next ih =>
    obtain ⟨n, t, told⟩ := acts_cue_random low high next s
    rw [told]
    exact List.forall_mem_cons.2 ⟨rfl, ih n (heeds n) t⟩

end Performances

end LedStrip.Play
