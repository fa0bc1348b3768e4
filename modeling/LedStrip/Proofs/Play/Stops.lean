import LedStrip.Proofs.Play.Heed

/-!
# Plays that stop

A play stops (`Play.Stops`) if it does nothing any more but ask, for the show or for the time, once
it was told that the show is over.  This asks less than to heed the cue: such a play may draw and
show as much as it likes before it asks, and it may follow the clock.
-/

namespace LedStrip

namespace Act

/-- A check that is answered no, or a question for the time. -/
def isParting : Act → Bool
  | checked on => !on
  | timed _ => true
  | _ => false

end Act

theorem filterMap_frame?_of_parting {acts : List Act} (parting : ∀ a ∈ acts, a.isParting = true) :
    acts.filterMap Act.frame? = [] := by
  apply List.filterMap_eq_nil_iff.2
  intro a ha
  have asks := parting a ha
  cases a <;> first | rfl | cases asks

namespace Play

variable {α β : Type}

/-- The play only asks, for the show or for the time, if it is always told that the show is over.
`last` says what it may end with then. -/
def Leaves (last : α → Prop) : Play α → Prop
  | done a => last a
  | running next => (next false).Leaves last
  | clock next => ∀ t, (next t).Leaves last
  | paint _ _ | present _ | sleep _ _ | report _ _ | random _ _ _ => False

/-- Wherever the play is told that the show is over it leaves. -/
def Stops (last : α → Prop) : Play α → Prop
  | done _ => True
  | paint _ next | present next | sleep _ next | report _ next => next.Stops last
  | running next => (next false).Leaves last ∧ (next true).Stops last
  | clock next => ∀ t, (next t).Stops last
  | random _ _ next => ∀ n, (next n).Stops last

section Rules

variable {limit : Nat} {last : α → Prop} {p : Play α}

theorem leaves_of_quit? {a : α} (quits : p.quit? = some a) (fine : last a) : p.Leaves last := by
  induction p with
  | done b =>
    obtain rfl := Option.some.inj quits
    exact fine
  | running next ih => exact ih false quits
  | paint | present | sleep | report | clock | random => cases quits

/-- A play that heeds the cue stops. -/
theorem Heeds.stops {left : Option Nat} (heeds : p.Heeds limit last left) : p.Stops last := by
  induction p generalizing left with
  | done a => trivial
  | paint strokes next ih => exact ih heeds.2
  | present next ih =>
    obtain ⟨fewer, -, heeds⟩ := heeds
    exact ih heeds
  | sleep t next ih => exact ih heeds
  | report e next ih => exact ih heeds
  | running next ih =>
    obtain ⟨⟨a, quits, fine⟩, heeds⟩ := heeds
    exact ⟨leaves_of_quit? quits fine, ih true heeds⟩
  | clock next ih => exact fun t => ih t (heeds t)
  | random low high next ih => exact fun n => ih n (heeds n)

theorem Leaves.imp {last' : α → Prop} (weaker : ∀ a, last a → last' a) (leaves : p.Leaves last) :
    p.Leaves last' := by
  induction p with
  | done a => exact weaker a leaves
  | running next ih => exact ih false leaves
  | clock next ih => exact fun t => ih t (leaves t)
  | paint | present | sleep | report | random => cases leaves

theorem Stops.imp {last' : α → Prop} (weaker : ∀ a, last a → last' a) (stops : p.Stops last) :
    p.Stops last' := by
  induction p with
  | done a => trivial
  | paint strokes next ih => exact ih stops
  | present next ih => exact ih stops
  | sleep t next ih => exact ih stops
  | report e next ih => exact ih stops
  | running next ih => exact ⟨stops.1.imp weaker, ih true stops.2⟩
  | clock next ih => exact fun t => ih t (stops t)
  | random low high next ih => exact fun n => ih n (stops n)

theorem Leaves.bind {f : α → Play β} {last' : β → Prop}
    (first : p.Leaves fun a => (f a).Leaves last') : (p.bind f).Leaves last' := by
  induction p with
  | done a => exact first
  | running next ih => exact ih false first
  | clock next ih => exact fun t => ih t (first t)
  | paint | present | sleep | report | random => cases first

/-- One play after the other: whatever the first may end with when it is told that the show is over,
the second must leave then. -/
theorem Stops.bind {f : α → Play β} {last' : β → Prop}
    (first : p.Stops fun a => (f a).Leaves last') (second : ∀ a, (f a).Stops last') :
    (p.bind f).Stops last' := by
  induction p with
  | done a => exact second a
  | paint strokes next ih => exact ih first
  | present next ih => exact ih first
  | sleep t next ih => exact ih first
  | report e next ih => exact ih first
  | running next ih => exact ⟨first.1.bind, ih true first.2⟩
  | clock next ih => exact fun t => ih t (first t)
  | random low high next ih => exact fun n => ih n (first n)

end Rules

/-! ## Segments of time -/

section Segments

variable {body : Play Unit} (start length : Nat)

theorem leaves_within (rounds : Nat) :
    (within start length body rounds).Leaves fun _ => True := by
  cases rounds with
  | zero => trivial
  | succ rounds =>
    intro now
    dsimp only
    split <;> trivial

theorem stops_within (stops : body.Stops fun _ => True) (rounds : Nat) :
    (within start length body rounds).Stops fun _ => True := by
  induction rounds with
  | zero => trivial
  | succ rounds ih =>
    intro now
    dsimp only
    split
    · refine ⟨trivial, ?_⟩
      exact (stops.imp fun _ _ => leaves_within start length rounds).bind fun _ => ih
    · trivial

theorem stops_segment (stops : body.Stops fun _ => True) (rounds : Nat) :
    (segment length rounds body).Stops fun _ => True :=
  fun start => stops_within start length stops rounds

end Segments

/-! ## Performances -/

section Performances

variable {S σ : Type} [Surface S] [Stage σ]
variable {last : α → Prop} {p : Play α}

/-- A play that leaves only asks. -/
theorem Leaves.acts (leaves : p.Leaves last) (s : Scene S σ) :
    ∀ a ∈ p.acts (s.cue (some 0)), a.isParting = true := by
  induction p generalizing s with
  | done b => exact List.forall_mem_nil _
  | running next ih => exact List.forall_mem_cons.2 ⟨rfl, ih false leaves s⟩
  | clock next ih =>
    obtain ⟨now, t, told⟩ := acts_cue_clock next s
    rw [told]
    exact List.forall_mem_cons.2 ⟨rfl, ih now (leaves now) t⟩
  | paint | present | sleep | report | random => cases leaves

/-- The acts behind the first check that is answered no. -/
def Stopped : List Act → Prop
  | [] => True
  | a :: acts => (a = .checked false → ∀ b ∈ acts, b.isParting = true) ∧ Stopped acts

theorem Stopped.cons {a : Act} {acts : List Act} (other : a ≠ .checked false)
    (stopped : Stopped acts) : Stopped (a :: acts) :=
  ⟨fun same => absurd same other, stopped⟩

theorem stopped_of_parting {acts : List Act} (parting : ∀ a ∈ acts, a.isParting = true) :
    Stopped acts := by
  induction acts with
  | nil => trivial
  | cons a acts ih =>
    obtain ⟨-, rest⟩ := List.forall_mem_cons.1 parting
    exact ⟨fun _ => rest, ih rest⟩

theorem Stopped.parting {before after : List Act}
    (stopped : Stopped (before ++ .checked false :: after)) : ∀ a ∈ after, a.isParting = true := by
  induction before with
  | nil => exact stopped.1 rfl
  | cons a before ih => exact ih stopped.2

theorem Stops.stopped (stops : p.Stops last) (s : Scene S σ) (k : Nat) :
    Stopped (p.acts (s.cue (some k))) := by
  induction p generalizing s k with
  | done a => trivial
  | paint strokes next ih => exact .cons (Act.ne_checked rfl) (ih stops (s.paint strokes) k)
  | present next ih =>
    cases h : s.present.2 with
    | ok =>
      rw [acts_cue_of_ok h]
      exact .cons (Act.ne_checked rfl) (ih stops _ k)
    | error e =>
      rw [acts_cue_of_error h]
      exact .cons (Act.ne_checked rfl) trivial
  | sleep t next ih => exact .cons (Act.ne_checked rfl) (ih stops (s.sleep t) k)
  | report e next ih => exact .cons (Act.ne_checked rfl) (ih stops (s.report e) k)
  | running next ih =>
    cases k with
    | zero =>
      apply stopped_of_parting
      rw [acts_cue_off]
      exact List.forall_mem_cons.2 ⟨rfl, stops.1.acts s⟩
    | succ k =>
      rw [acts_cue_on]
      exact .cons (by simp) (ih true stops.2 s k)
  | clock next ih =>
    obtain ⟨now, t, told⟩ := acts_cue_clock next s
    rw [told]
    exact .cons (Act.ne_checked rfl) (ih now (stops now) t k)
  | random low high next ih =>
    obtain ⟨n, t, told⟩ := acts_cue_random low high next s
    rw [told]
    exact .cons (Act.ne_checked rfl) (ih n (stops n) t k)

end Performances

end Play

end LedStrip
