import LedStrip.Proofs.Play.Acts

/-!
# Renderings that fail

What becomes of a performance when one of its renderings fails (`Play.interrupted`).  Up to this
rendering nothing is different; the surface is left as it was to be shown, and the performance ends
with the error.  If there are not so many renderings nothing is different at all.
-/

namespace LedStrip

/-- Whether an act tries to show the surface. -/
def Act.isShow : Act → Bool
  | shown _ | refused _ => true
  | _ => false

/-- How often the surface is shown, or at least tried to. -/
def showCount (acts : List Act) : Nat := acts.countP Act.isShow

/-- The acts before rendering number `k`, counted from zero. -/
def upTo : Nat → List Act → List Act
  | _, [] => []
  | k, a :: acts =>
    if a.isShow then if k = 0 then [] else a :: upTo (k - 1) acts else a :: upTo k acts

section UpTo

variable {a : Act} {acts : List Act} {k : Nat}

theorem showCount_cons_of_quiet (quiet : a.isShow = false) :
    showCount (a :: acts) = showCount acts := by
  simp [showCount, quiet]

theorem showCount_cons_of_show (showing : a.isShow = true) :
    showCount (a :: acts) = showCount acts + 1 := by
  simp [showCount, showing]

theorem upTo_cons_of_quiet (quiet : a.isShow = false) : upTo k (a :: acts) = a :: upTo k acts := by
  simp [upTo, quiet]

theorem upTo_zero_of_show (showing : a.isShow = true) : upTo 0 (a :: acts) = [] := by
  simp [upTo, showing]

theorem upTo_succ_of_show (showing : a.isShow = true) :
    upTo (k + 1) (a :: acts) = a :: upTo k acts := by
  simp [upTo, showing]

theorem upTo_of_showCount_le (few : showCount acts ≤ k) : upTo k acts = acts := by
  induction acts generalizing k with
  | nil => rfl
  | cons a acts ih =>
    cases showing : a.isShow with
    | false =>
      rw [showCount_cons_of_quiet showing] at few
      rw [upTo_cons_of_quiet showing, ih few]
    | true =>
      rw [showCount_cons_of_show showing] at few
      obtain ⟨k, rfl⟩ : ∃ j, k = j + 1 := ⟨k - 1, by omega⟩
      rw [upTo_succ_of_show showing, ih (by omega)]

/-- If there are more than `k` renderings, one of them comes right behind the acts before it. -/
theorem split_upTo (more : k < showCount acts) :
    ∃ a after, acts = upTo k acts ++ a :: after ∧ a.isShow = true ∧
      showCount (upTo k acts) = k := by
  induction acts generalizing k with
  | nil => cases more
  | cons a acts ih =>
    cases showing : a.isShow with
    | false =>
      rw [showCount_cons_of_quiet showing] at more
      obtain ⟨b, after, split, last, count⟩ := ih more
      refine ⟨b, after, ?_, last, ?_⟩
      · rw [upTo_cons_of_quiet showing, List.cons_append, ← split]
      · rw [upTo_cons_of_quiet showing, showCount_cons_of_quiet showing, count]
    | true =>
      rw [showCount_cons_of_show showing] at more
      cases k with
      | zero =>
        rw [upTo_zero_of_show showing]
        exact ⟨a, acts, rfl, showing, rfl⟩
      | succ k =>
        obtain ⟨b, after, split, last, count⟩ := ih (Nat.lt_of_succ_lt_succ more)
        refine ⟨b, after, ?_, last, ?_⟩
        · rw [upTo_succ_of_show showing, List.cons_append, ← split]
        · rw [upTo_succ_of_show showing, showCount_cons_of_show showing, count]

end UpTo

/-! ## Scenes on failing surfaces -/

namespace Faulty

variable {S : Type} [Surface S]

/-- A rendering that does not fail is one of the surface itself. -/
theorem present_of_works {f : Faulty S} (works : f.fault? = none) :
    Surface.present f =
      (Surface.present f.surface).lift fun x => ⟨x, f.attempts + 1, f.failure⟩ := by
  unfold Surface.present instSurface
  dsimp only
  rw [works]
  rfl

/-- A rendering that fails leaves the surface as it is. -/
theorem present_of_fails {f : Faulty S} {e : Error} (fails : f.fault? = some e) :
    Surface.present f = .silent ⟨f.surface, f.attempts + 1, f.failure⟩ (.error e) := by
  unfold Surface.present instSurface
  dsimp only
  rw [fails]

theorem paint_eq (f : Faulty S) (strokes : List Stroke) :
    Surface.paint f strokes = ⟨Surface.paint f.surface strokes, f.attempts, f.failure⟩ := by
  unfold Surface.paint
  induction strokes generalizing f with
  | nil => rfl
  | cons stroke strokes ih =>
    rw [List.foldl_cons, List.foldl_cons, ih]
    cases stroke <;> rfl

end Faulty

variable {α S σ : Type} [Surface S] [Stage σ]

namespace Scene

/-- The scene on a surface of which `attempts` renderings were made and one may fail. -/
def faulty (s : Scene S σ) (attempts : Nat) (failure : Option (Nat × Int32)) :
    Scene (Faulty S) σ :=
  ⟨⟨s.surface, attempts, failure⟩, s.stage, s.beats, s.log⟩

variable (s : Scene S σ) (n k : Nat) {code : Int32}

/-- A rendering before the one that fails is like any other. -/
theorem present_faulty_later :
    (s.faulty n (some (n + (k + 1) + 1, code))).present =
      (s.present.1.faulty (n + 1) (some (n + 1 + k + 1, code)), s.present.2) := by
  have number : n + (k + 1) + 1 = n + 1 + k + 1 := by omega
  have other : n + (k + 1) + 1 ≠ n + 1 := by omega
  have works : (s.faulty n (some (n + (k + 1) + 1, code))).surface.fault? = none := if_neg other
  have step := Faulty.present_of_works works
  unfold present
  dsimp only
  rw [step, number]
  dsimp only [Step.lift, faulty]
  split <;> rfl

/-- The rendering that fails leaves everything as it is, but for the number of renderings. -/
theorem present_faulty_now {e : Error} (fails : Driver.check .render code = .error e) :
    (s.faulty n (some (n + 1, code))).present =
      (s.faulty (n + 1) (some (n + 1, code)), .error e) := by
  have now : (s.faulty n (some (n + 1, code))).surface.fault? = some e := by
    unfold Faulty.fault? faulty
    dsimp only
    rw [if_pos rfl, fails]
  have step := Faulty.present_of_fails now
  unfold present
  dsimp only
  rw [step]
  simp [Step.silent, faulty]

end Scene

/-! ## Performances -/

/-- The performance is that of a play on another scene up to rendering number `k`, which fails. -/
structure Interrupted (p : Play α) (s : Scene S σ) (k : Nat) (e : Error)
    (s' : Scene (Faulty S) σ) : Prop where
  acts : p.acts s' = upTo k (p.acts s) ++ if k < showCount (p.acts s) then [.refused e] else []
  result : (p.perform s').2 = if k < showCount (p.acts s) then .error e else (p.perform s).2
  surface : (p.perform s').1.surface.surface = (upTo k (p.acts s)).foldl Act.apply s.surface
  attempts : (p.perform s').1.surface.attempts =
    s'.surface.attempts + min (k + 1) (showCount (p.acts s))

namespace Interrupted

variable {p next : Play α} {s t : Scene S σ} {s' t' : Scene (Faulty S) σ} {k : Nat} {a : Act}
  {e : Error}

/-- An act that shows nothing, and what comes behind it. -/
theorem quiet (rest : Interrupted next t k e t') (dark : a.isShow = false)
    (acts : p.acts s = a :: next.acts t) (performed : p.perform s = next.perform t)
    (acts' : p.acts s' = a :: next.acts t') (performed' : p.perform s' = next.perform t')
    (surface : t.surface = a.apply s.surface)
    (attempts : t'.surface.attempts = s'.surface.attempts) : Interrupted p s k e s' := by
  constructor
  · rw [acts, acts', upTo_cons_of_quiet dark, showCount_cons_of_quiet dark, rest.acts,
      List.cons_append]
  · rw [acts, performed, performed', showCount_cons_of_quiet dark, rest.result]
  · rw [acts, performed', upTo_cons_of_quiet dark, rest.surface, surface, List.foldl_cons]
  · rw [acts, performed', showCount_cons_of_quiet dark, rest.attempts, attempts]

/-- A rendering before the one that fails, and what comes behind it. -/
theorem later (rest : Interrupted next t k e t') (showing : a.isShow = true)
    (acts : p.acts s = a :: next.acts t) (performed : p.perform s = next.perform t)
    (acts' : p.acts s' = a :: next.acts t') (performed' : p.perform s' = next.perform t')
    (surface : t.surface = a.apply s.surface)
    (attempts : t'.surface.attempts = s'.surface.attempts + 1) :
    Interrupted p s (k + 1) e s' := by
  have fewer : k + 1 < showCount (next.acts t) + 1 ↔ k < showCount (next.acts t) :=
    Nat.succ_lt_succ_iff
  constructor
  · rw [acts, acts', upTo_succ_of_show showing, showCount_cons_of_show showing, rest.acts,
      List.cons_append]
    simp only [fewer]
  · rw [acts, performed, performed', showCount_cons_of_show showing, rest.result]
    simp only [fewer]
  · rw [acts, performed', upTo_succ_of_show showing, rest.surface, surface, List.foldl_cons]
  · rw [acts, performed', showCount_cons_of_show showing, rest.attempts, attempts]
    omega

/-- The rendering that fails. -/
theorem now {after : List Act} (showing : a.isShow = true) (acts : p.acts s = a :: after)
    (acts' : p.acts s' = [.refused e]) (result : (p.perform s').2 = .error e)
    (surface : (p.perform s').1.surface.surface = s.surface)
    (attempts : (p.perform s').1.surface.attempts = s'.surface.attempts + 1) :
    Interrupted p s 0 e s' := by
  have some : 0 < showCount (p.acts s) := by
    rw [acts, showCount_cons_of_show showing]
    exact Nat.succ_pos _
  have none : upTo 0 (p.acts s) = [] := by rw [acts, upTo_zero_of_show showing]
  constructor
  · rw [acts', none, if_pos some, List.nil_append]
  · rw [result, if_pos some]
  · rw [surface, none, List.foldl_nil]
  · rw [attempts]
    omega

/-- A rendering that fails by itself, before the one that is to fail. -/
theorem before {e' : Error} (acts : p.acts s = [.refused e']) (acts' : p.acts s' = [.refused e'])
    (result : (p.perform s').2 = (p.perform s).2)
    (surface : (p.perform s').1.surface.surface = (Surface.present s.surface).state)
    (attempts : (p.perform s').1.surface.attempts = s'.surface.attempts + 1) :
    Interrupted p s (k + 1) e s' := by
  have one : showCount [Act.refused e'] = 1 := rfl
  have all : upTo (k + 1) [Act.refused e'] = [.refused e'] := upTo_of_showCount_le (by omega)
  constructor
  · rw [acts, acts', all, one, if_neg (by omega), List.append_nil]
  · rw [acts, result, one, if_neg (by omega)]
  · rw [acts, all, surface]
    rfl
  · rw [acts, attempts, one]
    omega

end Interrupted

namespace Play

variable {next : Play α} {code : Int32} {e : Error}

theorem exists_acts_present (next : Play α) (s : Scene S σ) :
    ∃ a after, (present next).acts s = a :: after ∧ a.isShow = true := by
  cases h : s.present.2 with
  | ok => exact ⟨_, _, acts_present_of_ok h, rfl⟩
  | error e' => exact ⟨_, _, acts_present_of_error h, rfl⟩

theorem interrupted_present (fails : Driver.check .render code = .error e)
    (ih : ∀ (s : Scene S σ) (n k : Nat),
      Interrupted next s k e (s.faulty n (some (n + k + 1, code)))) (s : Scene S σ) (n k : Nat) :
    Interrupted (present next) s k e (s.faulty n (some (n + k + 1, code))) := by
  cases k with
  | zero =>
    have now := s.present_faulty_now n fails
    have refused : (s.faulty n (some (n + 1, code))).present.2 = .error e := by rw [now]
    obtain ⟨a, after, acts, showing⟩ := exists_acts_present next s
    have performed := perform_present_of_error (p := next) refused
    rw [now] at performed
    refine .now showing acts (acts_present_of_error refused) ?_ ?_ ?_
    · exact congrArg Prod.snd performed
    · exact congrArg (·.1.surface.surface) performed
    · exact congrArg (·.1.surface.attempts) performed
  | succ k =>
    have later : (s.faulty n (some (n + (k + 1) + 1, code))).present = _ :=
      s.present_faulty_later n k
    cases h : s.present.2 with
    | ok =>
      have works : (s.faulty n (some (n + (k + 1) + 1, code))).present.2 = .ok () := by
        rw [later, h]
      have acts := acts_present_of_ok (p := next) works
      have performed := perform_present_of_ok (p := next) works
      rw [later] at acts performed
      exact (ih s.present.1 (n + 1) k).later rfl (acts_present_of_ok h) (perform_present_of_ok h)
        acts performed s.surface_present rfl
    | error e' =>
      have fails' : (s.faulty n (some (n + (k + 1) + 1, code))).present.2 = .error e' := by
        rw [later, h]
      have performed := perform_present_of_error (p := next) fails'
      rw [later] at performed
      refine .before (acts_present_of_error h) (acts_present_of_error fails') ?_ ?_ ?_
      · rw [performed, perform_present_of_error h]
      · rw [performed]
        exact s.surface_present
      · rw [performed]
        rfl

/-- If rendering number `k` from now on fails, a performance is interrupted there. -/
theorem interrupted (p : Play α) (s : Scene S σ) (n k : Nat)
    (fails : Driver.check .render code = .error e) :
    Interrupted p s k e (s.faulty n (some (n + k + 1, code))) := by
  induction p generalizing s n k with
  | done a => constructor <;> simp [acts, perform, upTo, showCount, Scene.faulty]
  | paint strokes next ih =>
    have painted : (s.faulty n (some (n + k + 1, code))).paint strokes =
        (s.paint strokes).faulty n (some (n + k + 1, code)) := by
      unfold Scene.paint
      rw [Faulty.paint_eq]
      rfl
    refine (ih (s.paint strokes) n k).quiet (a := .painted strokes) rfl rfl rfl ?_ ?_ rfl rfl
    · rw [acts, painted]
    · rw [perform, painted]
  | present next ih => exact interrupted_present fails ih s n k
  | sleep t next ih => exact (ih (s.sleep t) n k).quiet (a := .slept t) rfl rfl rfl rfl rfl rfl rfl
  | report e' next ih =>
    exact (ih (s.report e') n k).quiet (a := .reported e') rfl rfl rfl rfl rfl rfl rfl
  | running next ih =>
    exact (ih _ { s with stage := (Stage.running s.stage).2 } n k).quiet
      (a := .checked (Stage.running s.stage).1) rfl rfl rfl rfl rfl rfl rfl
  | clock next ih =>
    exact (ih _ { s with stage := (Stage.clock s.stage).2 } n k).quiet
      (a := .timed (Stage.clock s.stage).1) rfl rfl rfl rfl rfl rfl rfl
  | random low high next ih =>
    exact (ih _ { s with stage := (Stage.random low high s.stage).2 } n k).quiet
      (a := .drew (Stage.random low high s.stage).1) rfl rfl rfl rfl rfl rfl rfl

end Play

end LedStrip
