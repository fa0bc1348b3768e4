import LedStrip.Proofs.Animation.Cancellation
import LedStrip.Proofs.Surface.Placed

/-!
# What plays deliver

`Play.Delivers` says what comes of a play on a row of LEDs if nothing hinders it, that is, if the
show is on whenever the play asks and everything can be shown: which rows are shown, and which row
is left.  Plays are built from smaller ones in a few ways; each has a rule here, a loop one with an
invariant (`delivers_each`, and `delivers_rounds` where each round shows the same number of rows).
What a play delivers is what can be seen of its performance on any surface (`Exhibits`).
-/

namespace LedStrip

namespace Play

variable {α β : Type}

/-- Whatever time it is and whatever numbers are drawn: what the play ends with, the rows that it
shows and the row that it leaves meet the goal if it starts on this row and nothing hinders it. -/
def Delivers : Play α → PixelBuffer → (α → List PixelBuffer → PixelBuffer → Prop) → Prop
  | done a, row, goal => goal a [] row
  | paint strokes next, row, goal => next.Delivers (Surface.paint row strokes) goal
  | present next, row, goal => next.Delivers row fun a shown left => goal a (row :: shown) left
  | sleep _ next, row, goal => next.Delivers row goal
  | report _ next, row, goal => next.Delivers row goal
  | running next, row, goal => (next true).Delivers row goal
  | clock next, row, goal => ∀ t, (next t).Delivers row goal
  | random _ _ next, row, goal => ∀ n, (next n).Delivers row goal

variable {row : PixelBuffer} {p : Play α}

theorem Delivers.imp {goal goal' : α → List PixelBuffer → PixelBuffer → Prop}
    (weaker : ∀ a shown left, goal a shown left → goal' a shown left)
    (delivers : p.Delivers row goal) : p.Delivers row goal' := by
  induction p generalizing row goal goal' with
  | done a => exact weaker a [] row delivers
  | paint strokes next ih => exact ih weaker delivers
  | present next ih => exact ih (fun a shown left => weaker a (row :: shown) left) delivers
  | sleep t next ih => exact ih weaker delivers
  | report e next ih => exact ih weaker delivers
  | running next ih => exact ih true weaker delivers
  | clock next ih => exact fun t => ih t weaker (delivers t)
  | random low high next ih => exact fun n => ih n weaker (delivers n)

/-- One play after the other: the second one starts on the row that the first one leaves. -/
theorem Delivers.bind {f : α → Play β} {goal : β → List PixelBuffer → PixelBuffer → Prop}
    (delivers : p.Delivers row fun a shown left =>
      (f a).Delivers left fun b more => goal b (shown ++ more)) :
    (p.bind f).Delivers row goal := by
  induction p generalizing row goal with
  | done a => exact delivers
  | paint strokes next ih => exact ih delivers
  | present next ih => exact ih delivers
  | sleep t next ih => exact ih delivers
  | report e next ih => exact ih delivers
  | running next ih => exact ih true delivers
  | clock next ih => exact fun t => ih t (delivers t)
  | random low high next ih => exact fun n => ih n (delivers n)

/-! ## Repetition -/

section Repetition

variable {count : Nat} {body : Nat → Play Unit}

/-- What holds before the first round and is kept by each round holds behind the last one, and all
rounds are played. -/
theorem delivers_whileRunning (inv : Nat → List PixelBuffer → PixelBuffer → Prop) {start : Nat}
    {shown : List PixelBuffer} (now : inv start shown row)
    (step : ∀ i shown row, i < start + count → inv i shown row →
      (body i).Delivers row fun _ more left => inv (i + 1) (shown ++ more) left) :
    (whileRunning body start count).Delivers row fun complete more left =>
      complete = true ∧ inv (start + count) (shown ++ more) left := by
  induction count generalizing start shown row with
  | zero =>
    show true = true ∧ inv start (shown ++ []) row
    rw [List.append_nil]
    exact ⟨rfl, now⟩
  | succ count ih =>
    have last : start + (count + 1) = start + 1 + count := by omega
    rw [last] at step ⊢
    refine Delivers.bind ((step start shown row (by omega) now).imp fun _ more left next => ?_)
    refine (ih next step).imp fun _ rest left ⟨complete, kept⟩ => ?_
    rw [List.append_assoc] at kept
    exact ⟨complete, kept⟩

theorem delivers_each (inv : Nat → List PixelBuffer → PixelBuffer → Prop) (start : inv 0 [] row)
    (step : ∀ i shown row, i < count → inv i shown row →
      (body i).Delivers row fun _ more left => inv (i + 1) (shown ++ more) left) :
    (each count body).Delivers row fun _ => inv count := by
  have rounds : (whileRunning body 0 count).Delivers row fun complete shown left =>
      complete = true ∧ inv (0 + count) shown left :=
    delivers_whileRunning inv start (by rwa [Nat.zero_add])
  rw [Nat.zero_add] at rounds
  refine Delivers.bind (rounds.imp fun _ shown left ⟨_, kept⟩ => ?_)
  show inv count (shown ++ []) left
  rwa [List.append_nil]

end Repetition

end Play

/-! ## Rows that are shown -/

/-- So many rows are shown, and this is how they look, counted from zero. -/
structure Shows (count : Nat) (looks : Nat → PixelBuffer → Prop) (shown : List PixelBuffer) :
    Prop where
  length : shown.length = count
  looks : ∀ i < count, ∃ row, shown[i]? = some row ∧ looks i row

section Shows

variable {count more : Nat} {looks : Nat → PixelBuffer → Prop} {shown later : List PixelBuffer}

theorem Shows.nil : Shows 0 looks [] where
  length := rfl
  looks i none := absurd none (Nat.not_lt_zero i)

theorem Shows.single {row : PixelBuffer} (first : looks 0 row) : Shows 1 looks [row] where
  length := rfl
  looks i only := by
    obtain rfl := Nat.lt_one_iff.1 only
    exact ⟨row, rfl, first⟩

theorem Shows.append (shows : Shows count looks shown)
    (rest : Shows more (fun i => looks (count + i)) later) :
    Shows (count + more) looks (shown ++ later) where
  length := by rw [List.length_append, shows.length, rest.length]
  looks i inside := by
    by_cases before : i < count
    · rw [List.getElem?_append_left (by rwa [shows.length])]
      exact shows.looks i before
    · obtain ⟨row, found, same⟩ := rest.looks (i - count) (by omega)
      refine ⟨row, ?_, ?_⟩
      · rwa [List.getElem?_append_right (by rw [shows.length]; omega), shows.length]
      · rwa [Nat.add_sub_cancel' (Nat.le_of_not_lt before)] at same

theorem Shows.eq_map {picture : Nat → PixelBuffer}
    (shows : Shows count (fun i row => row = picture i) shown) :
    shown = (List.range count).map picture := by
  apply List.ext_getElem?
  intro i
  rw [List.getElem?_map]
  by_cases inside : i < count
  · obtain ⟨_, found, rfl⟩ := shows.looks i inside
    rw [found, List.getElem?_range inside]
    rfl
  · have beyond : count ≤ i := Nat.le_of_not_lt inside
    rw [List.getElem?_eq_none (shows.length.trans_le beyond),
      List.getElem?_eq_none (List.length_range.trans_le beyond)]
    rfl

/-- A loop each round of which shows the same number of rows. -/
theorem Play.delivers_rounds {body : Nat → Play Unit} {row : PixelBuffer} (per : Nat)
    (looks state : Nat → PixelBuffer → Prop) (start : state 0 row)
    (step : ∀ i row, i < count → state i row → (body i).Delivers row fun _ more left =>
      Shows per (fun q => looks (per * i + q)) more ∧ state (i + 1) left) :
    (each count body).Delivers row fun _ shown left =>
      Shows (per * count) looks shown ∧ state count left := by
  refine delivers_each (fun i shown row => Shows (per * i) looks shown ∧ state i row)
    ⟨.nil, start⟩ ?_
  rintro i shown row inside ⟨before, now⟩
  exact (step i row inside now).imp fun _ _ _ ⟨shows, next⟩ => ⟨before.append shows, next⟩

/-- A loop each round of which shows one row. -/
theorem Play.delivers_pictures {body : Nat → Play Unit} {row : PixelBuffer}
    (looks state : Nat → PixelBuffer → Prop) (start : state 0 row)
    (step : ∀ i row, i < count → state i row → (body i).Delivers row fun _ more left =>
      ∃ picture, more = [picture] ∧ looks i picture ∧ state (i + 1) left) :
    (each count body).Delivers row fun _ shown left =>
      Shows count looks shown ∧ state count left := by
  have round : ∀ i row, i < count → state i row → (body i).Delivers row fun _ more left =>
      Shows 1 (fun q => looks (1 * i + q)) more ∧ state (i + 1) left := by
    intro i row inside now
    refine (step i row inside now).imp ?_
    rintro _ _ left ⟨picture, rfl, look, next⟩
    rw [Nat.one_mul]
    exact ⟨.single look, next⟩
  have rounds := delivers_rounds 1 looks state start round
  rwa [Nat.one_mul] at rounds

end Shows

/-! ## Performances -/

variable {α S σ : Type} [Surface S] [Stage σ]

/-- Nothing hinders a performance in which this happens: the show is on whenever the play asks, and
everything can be shown. -/
def Unhindered (acts : List Act) : Prop :=
  ∀ a ∈ acts, a ≠ .checked false ∧ ∀ e, a ≠ .refused e

/-- The show is on when an unhindered play asks, and then nothing hinders what follows. -/
theorem Unhindered.running {next : Bool → Play α} {s : Scene S σ}
    (unhindered : Unhindered ((Play.running next).acts s)) :
    (Stage.running s.stage).1 = true ∧ Unhindered ((next true).acts s.checked) := by
  rw [Play.acts_running] at unhindered
  obtain ⟨⟨asked, -⟩, later⟩ := List.forall_mem_cons.1 unhindered
  have on : (Stage.running s.stage).1 = true := by
    by_contra off
    exact asked (congrArg Act.checked (Bool.eq_false_iff.2 off))
  rw [on] at later
  exact ⟨on, later⟩

variable [Legible S] [Placed S]

open Legible (leds)

/-- What can be seen of a performance on a surface: it ends well, these rows are what its frames
show of the surface, and this row is left. -/
structure Exhibits (p : Play α) (s : Scene S σ) (a : α) (shown : List PixelBuffer)
    (left : PixelBuffer) : Prop where
  result : (p.perform s).2 = .ok a
  frames : ∃ pictures, (p.perform s).1.frames = s.frames ++ pictures ∧
    pictures.map (·[Placed.place s.surface]?) = shown.map some
  left : leds (p.perform s).1.surface = left

namespace Exhibits

variable {p next : Play α} {s t : Scene S σ} {a : α} {shown : List PixelBuffer} {left : PixelBuffer}

/-- An act that shows nothing, and what comes behind it. -/
theorem quiet (rest : Exhibits next t a shown left) (performed : p.perform s = next.perform t)
    (frames : t.frames = s.frames) (place : Placed.place t.surface = Placed.place s.surface) :
    Exhibits p s a shown left := by
  have pictures := rest.frames
  rw [frames, place, ← performed] at pictures
  exact ⟨by rw [performed, rest.result], pictures, by rw [performed, rest.left]⟩

/-- A frame, and what comes behind it. -/
theorem present (works : s.present.2 = .ok ()) (rest : Exhibits next s.present.1 a shown left) :
    Exhibits (.present next) s a (leds s.surface :: shown) left := by
  have performed := Play.perform_present_of_ok (p := next) works
  obtain ⟨pictures, frames, rows⟩ := rest.frames
  have surface := s.surface_present
  rw [surface, Placed.place_present] at rows
  refine ⟨by rw [performed, rest.result], ?_, by rw [performed, rest.left]⟩
  refine ⟨Surface.picture s.present.1.surface :: pictures, ?_, ?_⟩
  · rw [performed, frames, Scene.frames_present_of_ok works, List.append_assoc]
    rfl
  · have row := Placed.getElem?_picture (Surface.present s.surface).state
    rw [Placed.place_present, Placed.leds_present] at row
    rw [List.map_cons, List.map_cons, rows, surface, row]

end Exhibits

/-- What a play delivers can be seen of its performance, if nothing hinders this. -/
theorem Play.Delivers.exhibits {p : Play α} {s : Scene S σ}
    {goal : α → List PixelBuffer → PixelBuffer → Prop}
    (delivers : p.Delivers (leds s.surface) goal) (unhindered : Unhindered (p.acts s)) :
    ∃ a shown left, goal a shown left ∧ Exhibits p s a shown left := by
  induction p generalizing s goal with
  | done a => exact ⟨a, [], leds s.surface, delivers, rfl, ⟨[], (List.append_nil _).symm, rfl⟩, rfl⟩
  | paint strokes next ih =>
    obtain ⟨-, later⟩ := List.forall_mem_cons.1 unhindered
    have painted : leds (s.paint strokes).surface = Surface.paint (leds s.surface) strokes :=
      Legible.leds_paint s.surface strokes
    obtain ⟨a, shown, left, reached, rest⟩ :=
      ih (s := s.paint strokes) (by rw [painted]; exact delivers) later
    exact ⟨a, shown, left, reached, rest.quiet rfl rfl (Placed.place_paint s.surface strokes)⟩
  | present next ih =>
    cases works : s.present.2 with
    | error e =>
      rw [acts_present_of_error works] at unhindered
      exact absurd rfl ((unhindered _ List.mem_cons_self).2 e)
    | ok =>
      rw [acts_present_of_ok works] at unhindered
      obtain ⟨-, later⟩ := List.forall_mem_cons.1 unhindered
      have kept : leds s.present.1.surface = leds s.surface := by
        rw [s.surface_present, Placed.leds_present]
      obtain ⟨a, shown, left, reached, rest⟩ := ih (s := s.present.1) (kept ▸ delivers) later
      rw [kept] at reached
      exact ⟨a, _, left, reached, .present works rest⟩
  | sleep t next ih =>
    obtain ⟨-, later⟩ := List.forall_mem_cons.1 unhindered
    obtain ⟨a, shown, left, reached, rest⟩ := ih (s := s.sleep t) delivers later
    exact ⟨a, shown, left, reached, rest.quiet rfl (s.frames_sleep t) rfl⟩
  | report e next ih =>
    obtain ⟨-, later⟩ := List.forall_mem_cons.1 unhindered
    obtain ⟨a, shown, left, reached, rest⟩ := ih (s := s.report e) delivers later
    exact ⟨a, shown, left, reached, rest.quiet rfl rfl rfl⟩
  | running next ih =>
    obtain ⟨on, later⟩ := Unhindered.running unhindered
    obtain ⟨a, shown, left, reached, rest⟩ := ih true (s := s.checked) delivers later
    refine ⟨a, shown, left, reached, rest.quiet ?_ rfl rfl⟩
    rw [perform_running, on]
  | clock next ih =>
    obtain ⟨-, later⟩ := List.forall_mem_cons.1 unhindered
    obtain ⟨a, shown, left, reached, rest⟩ :=
      ih _ (s := { s with stage := (Stage.clock s.stage).2 }) (delivers _) later
    exact ⟨a, shown, left, reached, rest.quiet rfl rfl rfl⟩
  | random low high next ih =>
    obtain ⟨-, later⟩ := List.forall_mem_cons.1 unhindered
    obtain ⟨a, shown, left, reached, rest⟩ :=
      ih _ (s := { s with stage := (Stage.random low high s.stage).2 }) (delivers _) later
    exact ⟨a, shown, left, reached, rest.quiet rfl rfl rfl⟩

/-! ## Strips that work -/

/-- A show that is never over is on whenever a play asks. -/
theorem Play.on_of_never {S : Type} [Surface S] (p : Play α) (s : Scene S σ) :
    .checked false ∉ p.acts (s.cue none) := by
  have behind {a : Act} {acts : List Act} (other : Act.checked false ≠ a)
      (rest : .checked false ∉ acts) : .checked false ∉ a :: acts :=
    List.not_mem_cons_of_ne_of_not_mem other rest
  induction p generalizing s with
  | done a => exact List.not_mem_nil
  | paint strokes next ih => exact behind (by simp) (ih (s.paint strokes))
  | present next ih =>
    cases works : s.present.2 with
    | ok =>
      rw [acts_cue_of_ok works]
      exact behind (by simp) (ih s.present.1)
    | error e =>
      rw [acts_cue_of_error works]
      exact behind (by simp) List.not_mem_nil
  | sleep t next ih => exact behind (by simp) (ih (s.sleep t))
  | report e next ih => exact behind (by simp) (ih (s.report e))
  | running next ih => exact behind (by simp) (ih true s)
  | clock next ih =>
    obtain ⟨now, t, told⟩ := acts_cue_clock next s
    rw [told]
    exact behind (by simp) (ih now t)
  | random low high next ih =>
    obtain ⟨n, t, told⟩ := acts_cue_random low high next s
    rw [told]
    exact behind (by simp) (ih n t)

/-- On a strip that works nothing hinders a play as long as the show is on. -/
theorem unhindered_of_works {s : Scene (Strip Simulator) σ}
    (works : s.surface.backend.renderCode = 0) (p : Play Unit) :
    Unhindered (p.acts (s.cue none)) := by
  intro a happens
  constructor
  · rintro rfl
    exact p.on_of_never s happens
  · rintro e rfl
    exact Strip.unrefused (s := s.cue none) works p e happens

end LedStrip
