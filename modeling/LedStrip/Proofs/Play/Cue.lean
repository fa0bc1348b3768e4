import LedStrip.Proofs.Play.Acts

/-!
# Shows that are cut short

A stage on which the show is over after a given number of checks (`Cued`), whatever else it answers,
and what the acts of a play look like when it is stopped like that: they are those of the whole
performance up to some act, and then only checks that are answered no (`CutShort`); between two
checks only so many frames are shown (`Paced`).
-/

namespace LedStrip

/-! ## The cue -/

/-- A stage with a cue: the number of checks until the show is over, if it ever is. -/
structure Cued (σ : Type) where
  stage : σ
  checks : Option Nat

variable {S σ : Type} [Surface S] [Stage σ]

instance : Stage (Cued σ) where
  running c :=
    match c.checks with
    | none => (true, c)
    | some 0 => (false, c)
    | some (k + 1) => (true, ⟨c.stage, some k⟩)
  clock c := ((Stage.clock c.stage).1, ⟨(Stage.clock c.stage).2, c.checks⟩)
  random low high c :=
    ((Stage.random low high c.stage).1, ⟨(Stage.random low high c.stage).2, c.checks⟩)
  sleep t c := ⟨Stage.sleep t c.stage, c.checks⟩
  shown c := ⟨Stage.shown c.stage, c.checks⟩

namespace Scene

/-- A scene with a cue. -/
def cue (s : Scene S σ) (checks : Option Nat) : Scene S (Cued σ) :=
  ⟨s.surface, ⟨s.stage, checks⟩, s.beats, s.log⟩

/-- Showing has nothing to do with the cue. -/
theorem present_cue (s : Scene S σ) (checks : Option Nat) :
    (s.cue checks).present = (s.present.1.cue checks, s.present.2) := by
  simp only [present, cue]
  split <;> rfl

end Scene

namespace Play

variable {α : Type} {next : Play α} {s : Scene S σ}

theorem acts_cue_paint (strokes : List Stroke) (checks : Option Nat) :
    (paint strokes next).acts (s.cue checks) =
      .painted strokes :: next.acts ((s.paint strokes).cue checks) := rfl

theorem acts_cue_sleep (t : Nat) (checks : Option Nat) :
    (sleep t next).acts (s.cue checks) = .slept t :: next.acts ((s.sleep t).cue checks) := rfl

theorem acts_cue_report (e : Event) (checks : Option Nat) :
    (report e next).acts (s.cue checks) = .reported e :: next.acts ((s.report e).cue checks) := rfl

theorem acts_cue_clock (next : Nat → Play α) (s : Scene S σ) :
    ∃ (now : Nat) (t : Scene S σ), ∀ checks,
      (clock next).acts (s.cue checks) = .timed now :: (next now).acts (t.cue checks) :=
  ⟨(Stage.clock s.stage).1, { s with stage := (Stage.clock s.stage).2 }, fun _ => rfl⟩

theorem acts_cue_random (low high : Nat) (next : Nat → Play α) (s : Scene S σ) :
    ∃ (n : Nat) (t : Scene S σ), ∀ checks,
      (random low high next).acts (s.cue checks) = .drew n :: (next n).acts (t.cue checks) :=
  ⟨(Stage.random low high s.stage).1, { s with stage := (Stage.random low high s.stage).2 },
    fun _ => rfl⟩

theorem acts_cue_never (next : Bool → Play α) (s : Scene S σ) :
    (running next).acts (s.cue none) = .checked true :: (next true).acts (s.cue none) := rfl

theorem acts_cue_on (next : Bool → Play α) (s : Scene S σ) (k : Nat) :
    (running next).acts (s.cue (some (k + 1))) =
      .checked true :: (next true).acts (s.cue (some k)) := rfl

theorem acts_cue_off (next : Bool → Play α) (s : Scene S σ) :
    (running next).acts (s.cue (some 0)) =
      .checked false :: (next false).acts (s.cue (some 0)) := rfl

theorem acts_cue_of_ok (works : s.present.2 = .ok ()) (checks : Option Nat) :
    (present next).acts (s.cue checks) =
      .shown (Surface.picture s.present.1.surface) :: next.acts (s.present.1.cue checks) := by
  have same := s.present_cue checks
  rw [acts_present_of_ok]
  · rw [same]
    rfl
  · rw [same]
    exact works

theorem acts_cue_of_error {e : Error} (fails : s.present.2 = .error e) (checks : Option Nat) :
    (present next).acts (s.cue checks) = [.refused e] := by
  apply acts_present_of_error
  rw [s.present_cue checks]
  exact fails

end Play

/-! ## Cutting short -/

/-- The acts of a performance that is cut short: at first those of the whole one, and from a check
that is answered no on nothing but such checks. -/
def CutShort (whole cut : List Act) : Prop :=
  ∃ before rest, cut = before ++ rest ∧ before <+: whole ∧ (∀ a ∈ before, a ≠ .checked false) ∧
    (∀ a ∈ rest, a = .checked false) ∧ (rest = [] → before = whole)

namespace CutShort

variable {whole cut : List Act}

theorem nil : CutShort [] [] :=
  ⟨[], [], rfl, List.nil_prefix, by simp, by simp, fun _ => rfl⟩

theorem cons {a : Act} (on : a ≠ .checked false) (short : CutShort whole cut) :
    CutShort (a :: whole) (a :: cut) := by
  obtain ⟨before, rest, rfl, first, still, off, all⟩ := short
  refine ⟨a :: before, rest, rfl, (List.prefix_cons_inj a).2 first, ?_, off, ?_⟩
  · exact List.forall_mem_cons.2 ⟨on, still⟩
  · intro none
    rw [all none]

theorem off (only : ∀ a ∈ cut, a = .checked false) (asked : cut ≠ []) : CutShort whole cut :=
  ⟨[], cut, rfl, List.nil_prefix, by simp, only, fun none => absurd none asked⟩

theorem frames_prefix (short : CutShort whole cut) :
    cut.filterMap Act.frame? <+: whole.filterMap Act.frame? := by
  obtain ⟨before, rest, rfl, first, -, off, -⟩ := short
  rw [List.filterMap_append, filterMap_frame?_of_untouched (untouched_of_checked off),
    List.append_nil]
  exact first.filterMap Act.frame?

theorem off_after (short : CutShort whole cut) {before after : List Act}
    (split : cut = before ++ .checked false :: after) : ∀ a ∈ after, a = .checked false := by
  obtain ⟨lit, rest, rfl, -, still, off, -⟩ := short
  rcases List.append_eq_append_iff.1 split with ⟨more, -, after_eq⟩ | ⟨more, lit_eq, after_eq⟩
  · intro a ha
    apply off a
    rw [after_eq]
    exact List.mem_append_right _ (List.mem_cons_of_mem _ ha)
  · -- the check that is answered no would be one of those before the first such check
    cases more with
    | nil =>
      intro a ha
      apply off a
      rw [← List.nil_append rest, ← after_eq]
      exact List.mem_cons_of_mem _ ha
    | cons b more =>
      obtain ⟨rfl, -⟩ := List.cons.inj after_eq
      exact absurd rfl (still _ (lit_eq ▸ List.mem_append_right _ List.mem_cons_self))

theorem eq_whole (short : CutShort whole cut) (on : .checked false ∉ cut) : cut = whole := by
  obtain ⟨before, rest, rfl, -, -, off, all⟩ := short
  cases rest with
  | nil => exact (List.append_nil _).trans (all rfl)
  | cons a rest =>
    obtain rfl := off a List.mem_cons_self
    exact absurd (List.mem_append_right _ List.mem_cons_self) on

end CutShort

/-! ## Frames between checks -/

/-- Not more than `left` frames are shown until the next check, and nowhere more than `limit`
without a check between them. -/
structure Paced (limit left : Nat) (acts : List Act) : Prop where
  start : ∀ l, l <+: acts → (∀ a ∈ l, a.isCheck = false) → (l.filterMap Act.frame?).length ≤ left
  anywhere : ∀ l, l <:+: acts → (∀ a ∈ l, a.isCheck = false) →
    (l.filterMap Act.frame?).length ≤ limit

namespace Paced

variable {limit left : Nat} {acts : List Act}

theorem of_untouched (untouched : ∀ a ∈ acts, a.touches = false) : Paced limit left acts := by
  have none (l : List Act) (part : l <:+: acts) : (l.filterMap Act.frame?).length = 0 := by
    rw [filterMap_frame?_of_untouched fun a ha => untouched a (part.subset ha)]
    rfl
  constructor
  · intro l part _
    rw [none l part.isInfix]
    omega
  · intro l part _
    rw [none l part]
    omega

theorem cons {a : Act} {left' : Nat} (paced : Paced limit left' acts) (room : left ≤ limit)
    (now : a.isCheck = false → left' + (a.frame?.elim 0 fun _ => 1) ≤ left) :
    Paced limit left (a :: acts) := by
  have first : ∀ l, l <+: a :: acts → (∀ b ∈ l, b.isCheck = false) →
      (l.filterMap Act.frame?).length ≤ left := by
    intro l part unchecked
    obtain rfl | ⟨l, rfl, tail⟩ := List.prefix_cons_iff.1 part
    · exact Nat.zero_le _
    · obtain ⟨here, later⟩ := List.forall_mem_cons.1 unchecked
      have bound := paced.start l tail later
      have enough := now here
      rw [List.filterMap_cons]
      cases frame : a.frame? with
      | none =>
        rw [frame] at enough
        exact Nat.le_trans bound enough
      | some picture =>
        rw [frame] at enough
        exact Nat.le_trans (Nat.succ_le_succ bound) enough
  refine ⟨first, fun l part unchecked => ?_⟩
  obtain part | part := List.infix_cons_iff.1 part
  · exact Nat.le_trans (first l part unchecked) room
  · exact paced.anywhere l part unchecked

/-- An act that shows nothing. -/
theorem quiet {a : Act} (paced : Paced limit left acts) (room : left ≤ limit)
    (dark : a.frame? = none) : Paced limit left (a :: acts) := by
  apply paced.cons room
  rw [dark]
  exact fun _ => Nat.le_refl left

end Paced

end LedStrip
