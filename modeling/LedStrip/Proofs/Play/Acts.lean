import LedStrip.Play.Scene

/-!
# The acts of a performance

What happens while a play is performed, act by act (`Play.acts`): not only the frames and the pauses
that can be seen, but also what is drawn and what the play is told.  The acts make the scene as the
performance leaves it (`surface_perform`, `frames_perform`), and only a rendering that fails keeps a
play from its end (`result_perform`).
-/

namespace LedStrip

/-- One thing that happens while a play is performed. -/
inductive Act where
  /-- The play asked whether the show is on. -/
  | checked (on : Bool)
  /-- The play asked for the time. -/
  | timed (nanoseconds : Nat)
  /-- The play asked for a random number. -/
  | drew (n : Nat)
  | painted (strokes : List Stroke)
  | shown (picture : List PixelBuffer)
  /-- The play tried to show what is drawn, and failed. -/
  | refused (e : Error)
  | slept (nanoseconds : Nat)
  | reported (event : Event)

namespace Act

/-- Whether the play asked if the show is on. -/
def isCheck : Act → Bool
  | checked _ => true
  | _ => false

/-- The frame that an act shows. -/
def frame? : Act → Option (List PixelBuffer)
  | shown picture => some picture
  | _ => none

/-- Whether an act draws on the surface or tries to show it. -/
def touches : Act → Bool
  | painted _ | shown _ | refused _ => true
  | _ => false

/-- What an act makes of the surface. -/
def apply {S : Type} [Surface S] (s : S) : Act → S
  | painted strokes => Surface.paint s strokes
  | shown _ | refused _ => (Surface.present s).state
  | _ => s

end Act

/-- The frame of a beat. -/
def Beat.frame? : Beat → Option (List PixelBuffer)
  | shown picture => some picture
  | slept _ => none

section Untouched

variable {S : Type} [Surface S] {acts : List Act}

theorem Act.apply_of_untouched (s : S) {a : Act} (untouched : a.touches = false) :
    a.apply s = s := by
  cases a <;> first | rfl | cases untouched

theorem Act.ne_checked {a : Act} {on : Bool} (other : a.isCheck = false) : a ≠ .checked on := by
  rintro rfl
  cases other

theorem Act.frame?_of_untouched {a : Act} (untouched : a.touches = false) : a.frame? = none := by
  cases a <;> first | rfl | cases untouched

theorem untouched_of_checked {on : Bool} (checked : ∀ a ∈ acts, a = .checked on) :
    ∀ a ∈ acts, a.touches = false := by
  intro a ha
  rw [checked a ha]
  rfl

theorem foldl_apply_of_untouched (s : S) (untouched : ∀ a ∈ acts, a.touches = false) :
    acts.foldl Act.apply s = s := by
  induction acts with
  | nil => rfl
  | cons a acts ih =>
    rw [List.foldl_cons, a.apply_of_untouched s (untouched a List.mem_cons_self)]
    exact ih fun b hb => untouched b (List.mem_cons_of_mem a hb)

theorem filterMap_frame?_of_untouched (untouched : ∀ a ∈ acts, a.touches = false) :
    acts.filterMap Act.frame? = [] :=
  List.filterMap_eq_nil_iff.2 fun a ha => Act.frame?_of_untouched (untouched a ha)

end Untouched

variable {α S σ : Type}

/-- How a performance ends: with a value, unless its last act was to show the surface as it was by
then and that failed. -/
def Ends [Surface S] (s : S) (acts : List Act) (result : Except Error α) : Prop :=
  (∃ a, result = .ok a) ∨
    ∃ before e, acts = before ++ [.refused e] ∧
      (Surface.present (before.foldl Act.apply s)).result = .error e ∧ result = .error e

theorem Ends.cons [Surface S] {s : S} {a : Act} {acts : List Act} {result : Except Error α}
    (ends : Ends (a.apply s) acts result) : Ends s (a :: acts) result := by
  refine ends.imp id ?_
  rintro ⟨before, e, rfl, refused, failed⟩
  exact ⟨a :: before, e, rfl, refused, failed⟩

theorem Ends.last_of_error [Surface S] {s : S} {acts : List Act} {result : Except Error α}
    {e : Error} (ends : Ends s acts result) (failed : result = .error e) :
    ∃ before, acts = before ++ [.refused e] ∧
      (Surface.present (before.foldl Act.apply s)).result = .error e := by
  subst failed
  rcases ends with ⟨a, complete⟩ | ⟨before, e', split, refused, same⟩
  · cases complete
  · obtain rfl := Except.error.inj same
    exact ⟨before, split, refused⟩

/-- Each frame among the acts shows the surface as it is by then. -/
def Pictured [Surface S] (s : S) : List Act → Prop
  | [] => True
  | a :: acts =>
    (∀ picture, a = .shown picture → picture = Surface.picture (a.apply s)) ∧
      Pictured (a.apply s) acts

theorem Pictured.quiet [Surface S] {s : S} {a : Act} {acts : List Act} (dark : a.frame? = none)
    (rest : Pictured (a.apply s) acts) : Pictured s (a :: acts) := by
  refine ⟨?_, rest⟩
  rintro picture rfl
  cases dark

theorem Pictured.picture_eq [Surface S] {s : S} {before after : List Act}
    {picture : List PixelBuffer} (pictured : Pictured s (before ++ .shown picture :: after)) :
    picture = Surface.picture (Surface.present (before.foldl Act.apply s)).state := by
  induction before generalizing s with
  | nil => exact pictured.1 picture rfl
  | cons a before ih => exact ih pictured.2

/-- The frames shown so far. -/
def Scene.frames (s : Scene S σ) : List (List PixelBuffer) := s.beats.toList.filterMap Beat.frame?

theorem Scene.frames_sleep [Stage σ] (s : Scene S σ) (t : Nat) : (s.sleep t).frames = s.frames := by
  simp [sleep, frames, Beat.frame?]

variable [Surface S] [Stage σ]

/-- The acts of the performance of a play, in order. -/
def Play.acts : Play α → Scene S σ → List Act
  | done _, _ => []
  | paint strokes next, s => .painted strokes :: next.acts (s.paint strokes)
  | present next, s =>
    match s.present with
    | (s, .ok ()) => .shown (Surface.picture s.surface) :: next.acts s
    | (_, .error e) => [.refused e]
  | sleep t next, s => .slept t :: next.acts (s.sleep t)
  | report e next, s => .reported e :: next.acts (s.report e)
  | running next, s =>
    let (on, stage) := Stage.running s.stage
    .checked on :: (next on).acts { s with stage := stage }
  | clock next, s =>
    let (now, stage) := Stage.clock s.stage
    .timed now :: (next now).acts { s with stage := stage }
  | random low high next, s =>
    let (n, stage) := Stage.random low high s.stage
    .drew n :: (next n).acts { s with stage := stage }

/-! ## Showing -/

namespace Scene

theorem surface_present (s : Scene S σ) :
    s.present.1.surface = (Surface.present s.surface).state := by
  unfold present
  dsimp only
  split <;> rfl

theorem result_present (s : Scene S σ) : s.present.2 = (Surface.present s.surface).result := by
  unfold present
  dsimp only
  split
  · next works => exact works.symm
  · next fails => exact fails.symm

theorem frames_present_of_ok {s : Scene S σ} (works : s.present.2 = .ok ()) :
    s.present.1.frames = s.frames ++ [Surface.picture s.present.1.surface] := by
  rw [result_present] at works
  simp [present, works, frames, Beat.frame?]

theorem frames_present_of_error {s : Scene S σ} {e : Error} (fails : s.present.2 = .error e) :
    s.present.1.frames = s.frames := by
  rw [result_present] at fails
  simp [present, fails, frames]

end Scene

/-- The scene after a check. -/
def Scene.checked (s : Scene S σ) : Scene S σ := { s with stage := (Stage.running s.stage).2 }

/-- The scene after the time was told. -/
def Scene.timed (s : Scene S σ) : Scene S σ := { s with stage := (Stage.clock s.stage).2 }

namespace Play

theorem perform_running (next : Bool → Play α) (s : Scene S σ) :
    (running next).perform s = (next (Stage.running s.stage).1).perform s.checked := rfl

theorem acts_running (next : Bool → Play α) (s : Scene S σ) :
    (running next).acts s =
      .checked (Stage.running s.stage).1 :: (next (Stage.running s.stage).1).acts s.checked := rfl

theorem acts_clock (next : Nat → Play α) (s : Scene S σ) :
    (clock next).acts s =
      .timed (Stage.clock s.stage).1 :: (next (Stage.clock s.stage).1).acts s.timed := rfl

variable {p : Play α} {s : Scene S σ} {e : Error}

theorem acts_present_of_ok (works : s.present.2 = .ok ()) :
    (present p).acts s =
      .shown (Surface.picture s.present.1.surface) :: p.acts s.present.1 := by
  rw [acts]
  split
  · next h => rw [h]
  · next h => rw [h] at works; cases works

theorem acts_present_of_error (fails : s.present.2 = .error e) :
    (present p).acts s = [.refused e] := by
  rw [acts]
  split
  · next h => rw [h] at fails; cases fails
  · next h => rw [h] at fails; cases fails; rfl

theorem perform_present_of_ok (works : s.present.2 = .ok ()) :
    (present p).perform s = p.perform s.present.1 := by
  rw [perform]
  split
  · next h => rw [h]
  · next h => rw [h] at works; cases works

theorem perform_present_of_error (fails : s.present.2 = .error e) :
    (present p).perform s = (s.present.1, .error e) := by
  rw [perform]
  split
  · next h => rw [h] at fails; cases fails
  · next h => rw [h] at fails; cases fails; rw [h]

/-! ## One play after the other -/

theorem acts_bind {β : Type} (p : Play α) (f : α → Play β) (s : Scene S σ) :
    (p.bind f).acts s = p.acts s ++
      match (p.perform s).2 with
      | .ok a => (f a).acts (p.perform s).1
      | .error _ => [] := by
  induction p generalizing s with
  | done a => rfl
  | paint strokes next ih => exact congrArg (_ :: ·) (ih _)
  | present next ih =>
    rw [bind]
    cases h : s.present.2 with
    | ok =>
      rw [acts_present_of_ok h, acts_present_of_ok h, perform_present_of_ok h, ih,
        List.cons_append]
    | error e =>
      rw [acts_present_of_error h, acts_present_of_error h, perform_present_of_error h]
      rfl
  | sleep t next ih => exact congrArg (_ :: ·) (ih _)
  | report e next ih => exact congrArg (_ :: ·) (ih _)
  | running next ih => exact congrArg (_ :: ·) (ih _ _)
  | clock next ih => exact congrArg (_ :: ·) (ih _ _)
  | random low high next ih => exact congrArg (_ :: ·) (ih _ _)

section Bind

variable {β : Type} {f : α → Play β}

theorem acts_bind_of_ok {a : α} (complete : (p.perform s).2 = .ok a) :
    (p.bind f).acts s = p.acts s ++ (f a).acts (p.perform s).1 := by
  rw [acts_bind, complete]

theorem acts_bind_of_error (failed : (p.perform s).2 = .error e) :
    (p.bind f).acts s = p.acts s := by
  rw [acts_bind, failed, List.append_nil]

theorem perform_bind_of_ok {a : α} (complete : (p.perform s).2 = .ok a) :
    (p.bind f).perform s = (f a).perform (p.perform s).1 := by
  have split : p.perform s = ((p.perform s).1, .ok a) := by rw [← complete]
  rw [perform_bind, split]

theorem perform_bind_of_error (failed : (p.perform s).2 = .error e) :
    (p.bind f).perform s = ((p.perform s).1, .error e) := by
  have split : p.perform s = ((p.perform s).1, .error e) := by rw [← failed]
  rw [perform_bind, split]

end Bind

/-! ## Whole performances -/

theorem surface_perform (p : Play α) (s : Scene S σ) :
    (p.perform s).1.surface = (p.acts s).foldl Act.apply s.surface := by
  induction p generalizing s with
  | done a => rfl
  | paint strokes next ih => exact ih _
  | present next ih =>
    cases h : s.present.2 with
    | ok =>
      rw [perform_present_of_ok h, acts_present_of_ok h, ih, s.surface_present]
      rfl
    | error e =>
      rw [perform_present_of_error h, acts_present_of_error h]
      exact s.surface_present
  | sleep t next ih => exact ih _
  | report e next ih => exact ih _
  | running next ih => exact ih _ _
  | clock next ih => exact ih _ _
  | random low high next ih => exact ih _ _

theorem frames_perform (p : Play α) (s : Scene S σ) :
    (p.perform s).1.frames = s.frames ++ (p.acts s).filterMap Act.frame? := by
  induction p generalizing s with
  | done a => exact (List.append_nil _).symm
  | paint strokes next ih => exact ih _
  | present next ih =>
    cases h : s.present.2 with
    | ok =>
      rw [perform_present_of_ok h, acts_present_of_ok h, ih, Scene.frames_present_of_ok h,
        List.append_assoc]
      rfl
    | error e =>
      rw [perform_present_of_error h, acts_present_of_error h]
      exact (Scene.frames_present_of_error h).trans (List.append_nil _).symm
  | sleep t next ih =>
    apply (ih _).trans
    rw [s.frames_sleep]
    rfl
  | report e next ih => exact ih _
  | running next ih => exact ih _ _
  | clock next ih => exact ih _ _
  | random low high next ih => exact ih _ _

/-- Acts that touch nothing may be left out at the end. -/
theorem perform_of_untouched {p : Play α} {s : Scene S σ} {before rest : List Act}
    (split : p.acts s = before ++ rest) (untouched : ∀ a ∈ rest, a.touches = false) :
    (p.perform s).1.surface = before.foldl Act.apply s.surface ∧
      (p.perform s).1.frames = s.frames ++ before.filterMap Act.frame? := by
  constructor
  · rw [surface_perform, split, List.foldl_append, foldl_apply_of_untouched _ untouched]
  · rw [frames_perform, split, List.filterMap_append, filterMap_frame?_of_untouched untouched,
      List.append_nil]

theorem result_perform (p : Play α) (s : Scene S σ) :
    Ends s.surface (p.acts s) (p.perform s).2 := by
  induction p generalizing s with
  | done a => exact .inl ⟨a, rfl⟩
  | paint strokes next ih => exact .cons (ih _)
  | present next ih =>
    cases h : s.present.2 with
    | ok =>
      rw [perform_present_of_ok h, acts_present_of_ok h]
      apply Ends.cons
      show Ends (Surface.present s.surface).state _ _
      rw [← s.surface_present]
      exact ih _
    | error e =>
      rw [perform_present_of_error h, acts_present_of_error h]
      exact .inr ⟨[], e, rfl, s.result_present.symm.trans h, rfl⟩
  | sleep t next ih => exact .cons (ih _)
  | report e next ih => exact .cons (ih _)
  | running next ih => exact .cons (ih _ _)
  | clock next ih => exact .cons (ih _ _)
  | random low high next ih => exact .cons (ih _ _)

theorem refused_of_error {e : Error} {p : Play α} {s : Scene S σ}
    (failed : (p.perform s).2 = .error e) :
    .refused e ∈ p.acts s := by
  obtain ⟨before, acts, -⟩ := (p.result_perform s).last_of_error failed
  rw [acts]
  exact List.mem_append_right _ List.mem_cons_self

/-- When something could not be shown, that is the last thing that happens and the result. -/
theorem error_of_refused {e : Error} (p : Play α) (s : Scene S σ)
    (refused : .refused e ∈ p.acts s) :
    (p.perform s).2 = .error e ∧ ∃ before, p.acts s = before ++ [.refused e] := by
  have behind {p next : Play α} {s t : Scene S σ} {a : Act} (other : .refused e ≠ a)
      (acts : p.acts s = a :: next.acts t) (performed : p.perform s = next.perform t)
      (ih : .refused e ∈ next.acts t →
        (next.perform t).2 = .error e ∧ ∃ before, next.acts t = before ++ [.refused e])
      (refused : .refused e ∈ p.acts s) :
      (p.perform s).2 = .error e ∧ ∃ before, p.acts s = before ++ [.refused e] := by
    rw [acts] at refused ⊢
    obtain ⟨result, before, split⟩ := ih ((List.mem_cons.1 refused).resolve_left other)
    rw [performed, split]
    exact ⟨result, a :: before, rfl⟩
  induction p generalizing s with
  | done a => cases refused
  | paint strokes next ih => exact behind (by simp) rfl rfl (ih _) refused
  | present next ih =>
    cases h : s.present.2 with
    | ok =>
      exact behind (by simp) (acts_present_of_ok h) (perform_present_of_ok h) (ih _) refused
    | error e' =>
      rw [acts_present_of_error h] at refused ⊢
      obtain rfl := Act.refused.inj (List.mem_singleton.1 refused)
      exact ⟨by rw [perform_present_of_error h], [], rfl⟩
  | sleep t next ih => exact behind (by simp) rfl rfl (ih _) refused
  | report e' next ih => exact behind (by simp) rfl rfl (ih _) refused
  | running next ih => exact behind (by simp) rfl rfl (ih _ _) refused
  | clock next ih => exact behind (by simp) rfl rfl (ih _ _) refused
  | random low high next ih => exact behind (by simp) rfl rfl (ih _ _) refused

/-- Each frame that is shown is the picture of the surface by then. -/
theorem pictured (p : Play α) (s : Scene S σ) : Pictured s.surface (p.acts s) := by
  induction p generalizing s with
  | done a => trivial
  | paint strokes next ih => exact .quiet rfl (ih (s.paint strokes))
  | present next ih =>
    cases h : s.present.2 with
    | ok =>
      rw [acts_present_of_ok h, s.surface_present]
      constructor
      · rintro _ ⟨⟩
        rfl
      · have rest := ih s.present.1
        rw [s.surface_present] at rest
        exact rest
    | error e =>
      rw [acts_present_of_error h]
      exact .quiet rfl trivial
  | sleep t next ih => exact .quiet rfl (ih (s.sleep t))
  | report e next ih => exact .quiet rfl (ih (s.report e))
  | running next ih => exact .quiet rfl (ih _ { s with stage := (Stage.running s.stage).2 })
  | clock next ih => exact .quiet rfl (ih _ { s with stage := (Stage.clock s.stage).2 })
  | random low high next ih =>
    exact .quiet rfl (ih _ { s with stage := (Stage.random low high s.stage).2 })

end Play

end LedStrip
