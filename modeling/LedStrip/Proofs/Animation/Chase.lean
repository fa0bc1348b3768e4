import LedStrip.Proofs.Animation.Programs
import LedStrip.Proofs.Play.Delivery
import LedStrip.Proofs.Play.Misses

/-!
# Chases

What a chase shows (`Chased`), whatever the LEDs were before.  Each phase lights the LEDs of one
residue modulo three and leaves them dark (`InPhase`, `Darkened`), so three phases leave all LEDs
dark, also those at the end of a row whose length is no multiple of three.  Strokes beyond the end
are dropped.
-/

namespace LedStrip.Animation

open Play PixelBuffer

variable {n q : Nat} {row now : PixelBuffer}

/-! ## Phases -/

theorem mem_everyThird {i : Nat} (phase : q < 3) (inside : i < n) :
    i ∈ (List.range ((n + 2) / 3)).map (3 * · + q) ↔ i % 3 = q := by
  rw [List.mem_map]
  constructor
  · rintro ⟨k, -, rfl⟩
    omega
  · intro residue
    exact ⟨i / 3, List.mem_range.2 (by omega), by omega⟩

theorem word?_paint_everyThird (length : row.length = n) (phase : q < 3) (color : Nat → Color)
    {i : Nat} (inside : i < n) :
    (Surface.paint row (everyThird n q color)).word? i =
      if i % 3 = q then some (color (i - q)).pack else row.word? i := by
  have strokes : everyThird n q color =
      ((List.range ((n + 2) / 3)).map (3 * · + q)).map fun i => .set i (color (i - q)) := by
    rw [List.map_map]
    apply List.map_congr_left
    intro k _
    rw [Function.comp_apply, Nat.add_sub_cancel]
  rw [strokes, Surface.word?_paint_map_set, length]
  exact if_congr ((and_iff_left inside).trans (mem_everyThird phase inside)) rfl rfl

/-- A row on which the LEDs of the first `q` phases are dark. -/
structure Darkened (q : Nat) (row now : PixelBuffer) : Prop where
  length : now.length = row.length
  word : ∀ i < row.length, now.word? i = if i % 3 < q then some 0 else row.word? i

/-- A row in phase `q`: its LEDs are lit, and the LEDs of the phases before are dark. -/
structure InPhase (color : Nat → Color) (q : Nat) (row now : PixelBuffer) : Prop where
  length : now.length = row.length
  word : ∀ i < row.length, now.word? i =
    if i % 3 = q then some (color (i - q)).pack else if i % 3 < q then some 0 else row.word? i

theorem Darkened.refl (row : PixelBuffer) : Darkened 0 row row where
  length := rfl
  word i _ := (if_neg (Nat.not_lt_zero (i % 3))).symm

theorem Darkened.light (dark : Darkened q row now) (phase : q < 3) (color : Nat → Color) :
    InPhase color q row (Surface.paint now (everyThird row.length q color)) where
  length := (Surface.length_paint ..).trans dark.length
  word i inside := by rw [word?_paint_everyThird dark.length phase color inside, dark.word i inside]

theorem InPhase.darken {color : Nat → Color} (lit : InPhase color q row now) (phase : q < 3) :
    Darkened (q + 1) row (Surface.paint now (everyThird row.length q fun _ => .black)) where
  length := (Surface.length_paint ..).trans lit.length
  word i inside := by
    rw [word?_paint_everyThird lit.length phase _ inside, lit.word i inside, Color.pack_black]
    by_cases turn : i % 3 = q
    · rw [if_pos turn, if_pos (by omega)]
    · rw [if_neg turn, if_neg turn]
      exact if_congr (by omega) rfl rfl

theorem Darkened.eq_blank (dark : Darkened 3 row now) : now = blank row.length := by
  apply ext_of_lt
  · rw [dark.length, length_blank]
  intro i inside
  rw [dark.length] at inside
  rw [dark.word i inside, if_pos (Nat.mod_lt i (by decide)), word?_blank, if_pos inside]

/-! ## Rounds -/

theorem delivers_chase (color : Nat → Color) (wait : Nat) (length : row.length = n) :
    (chase color wait n).Delivers row fun _ shown left =>
      Shows 3 (InPhase color · row) shown ∧ left = blank n := by
  subst length
  refine (delivers_pictures (InPhase color · row) (Darkened · row) (.refl row) ?_).imp
    fun _ shown left ⟨shows, dark⟩ => ⟨shows, dark.eq_blank⟩
  intro q now phase dark
  have lit := dark.light phase color
  exact ⟨_, rfl, lit, lit.darken phase⟩

/-- The row on which round `j` starts. -/
def roundStart (n : Nat) (row : PixelBuffer) (j : Nat) : PixelBuffer :=
  if j = 0 then row else blank n

theorem length_roundStart (length : row.length = n) (j : Nat) :
    (roundStart n row j).length = n := by
  unfold roundStart
  split_ifs
  · exact length
  · exact length_blank n

/-- Of what a row was before the first round, later rounds show nothing. -/
theorem InPhase.word_roundStart {color : Nat → Color} {j i : Nat} (length : row.length = n)
    (lit : InPhase color q (roundStart n row j) now) (inside : i < n) :
    now.word? i =
      if i % 3 = q then some (color (i - q)).pack
      else if j = 0 ∧ q < i % 3 then row.word? i
      else some 0 := by
  rw [lit.word i (by rwa [length_roundStart length])]
  by_cases turn : i % 3 = q
  · rw [if_pos turn, if_pos turn]
  · rw [if_neg turn, if_neg turn]
    by_cases past : i % 3 < q
    · rw [if_pos past, if_neg (by omega)]
    · by_cases first : j = 0
      · rw [if_neg past, if_pos ⟨first, by omega⟩, roundStart, if_pos first]
      · rw [if_neg past, if_neg fun h => first h.1, roundStart, if_neg first, word?_blank,
          if_pos inside]

/-- The frame of that number in chases that start on this row. -/
def ChaseFrame (color : Nat → Nat → Color) (n : Nat) (row : PixelBuffer) (k : Nat) :
    PixelBuffer → Prop :=
  InPhase (color (k / 3)) (k % 3) (roundStart n row (k / 3))

theorem chaseFrame_eq (color : Nat → Nat → Color) (n : Nat) (row : PixelBuffer) (j : Nat)
    (phase : q < 3) :
    ChaseFrame color n row (3 * j + q) = InPhase (color j) q (roundStart n row j) := by
  have round : (3 * j + q) / 3 = j := by omega
  have residue : (3 * j + q) % 3 = q := by omega
  rw [ChaseFrame, round, residue]

theorem delivers_chases (color : Nat → Nat → Color) (wait count : Nat) (length : row.length = n) :
    (each count fun j => chase (color j) wait n).Delivers row fun _ shown left =>
      Shows (3 * count) (ChaseFrame color n row) shown ∧ left = roundStart n row count := by
  refine delivers_rounds 3 (ChaseFrame color n row) (fun j now => now = roundStart n row j) rfl ?_
  rintro j _ - rfl
  refine (delivers_chase (color j) wait (length_roundStart length j)).imp ?_
  rintro _ shown _ ⟨shows, rfl⟩
  refine ⟨⟨shows.length, fun q phase => ?_⟩, rfl⟩
  rw [chaseFrame_eq color n row j phase]
  exact shows.looks q phase

/-! ## The main result -/

section Performed

open Legible (leds)

variable {S σ : Type} [Surface S] [Legible S] [Placed S] [Stage σ]

/-- What can be seen of a chase of so many rounds: three frames a round.  In phase `q` of round `j`
LED `i` is lit in the color `lit j q i` if it is its turn, and else it is dark, but in the first
round an LED whose turn is still to come is what it was before. -/
def Chased (p : Play Unit) (s : Scene S σ) (rounds : Nat) (lit : Nat → Nat → Nat → Color) : Prop :=
  ∃ shown, shown.length = 3 * rounds ∧
    (∀ j < rounds, ∀ q < 3, ∃ row, shown[3 * j + q]? = some row ∧
      row.length = Surface.length s.surface ∧
      ∀ i < Surface.length s.surface, row.word? i =
        if i % 3 = q then some (lit j q i).pack
        else if j = 0 ∧ q < i % 3 then (leds s.surface).word? i
        else some 0) ∧
    Exhibits p s () shown (if rounds = 0 then leds s.surface else blank (Surface.length s.surface))

theorem chased_chases (color : Nat → Nat → Color) (wait rounds : Nat) (s : Scene S σ)
    (unhindered : Unhindered
      ((each rounds fun j => chase (color j) wait (Surface.length s.surface)).acts s)) :
    Chased (each rounds fun j => chase (color j) wait (Surface.length s.surface)) s rounds
      fun j q i => color j (i - q) := by
  have length := Legible.length_leds s.surface
  obtain ⟨⟨⟩, shown, _, ⟨shows, rfl⟩, exhibits⟩ :=
    (delivers_chases color wait rounds length).exhibits unhindered
  refine ⟨shown, shows.length, fun j played q phase => ?_, exhibits⟩
  obtain ⟨row, found, look⟩ := shows.looks (3 * j + q) (by omega)
  rw [chaseFrame_eq _ _ _ j phase] at look
  refine ⟨row, found, look.length.trans (length_roundStart length j), fun i inside => ?_⟩
  exact look.word_roundStart length inside

/-- Whatever the surface is, what it shows before, and whatever the parameters: what both chases
show if nothing hinders them.  Hindered or not, the strokes beyond the end are dropped. -/
theorem chases_performed (s : Scene S σ) :
    (∀ color wait rounds,
      let p := theaterChase color wait rounds (Surface.length s.surface)
      Drops p s ∧ (Unhindered (p.acts s) → Chased p s rounds fun _ _ _ => color)) ∧
    ∀ wait,
      let p := theaterChaseRainbow wait (Surface.length s.surface)
      Drops p s ∧ (Unhindered (p.acts s) →
        Chased p s 256 fun j q i => .wheel (.ofNat ((i - q + j) % 255))) := by
  constructor
  · intro color wait rounds p
    exact ⟨.of_reports (reports_chases (fun _ _ => color) wait rounds _) s,
      chased_chases (fun _ _ => color) wait rounds s⟩
  · intro wait p
    exact ⟨.of_reports (reports_chases _ wait 256 _) s, chased_chases _ wait 256 s⟩

end Performed

/-- Two rounds on a strip of four white LEDs: the second LED is still white in the first frame, but
not in the fourth one, and in the end all are dark. -/
theorem chases_performed_four :
    ∃ strip, (Strip.create (.single 4 18) Simulator.fresh).result = .ok strip ∧
      let s := (Scene.start (Surface.fill strip .white) (VirtualStage.curtain none none)).cue none
      let p := theaterChase (.rgb 255 0 0) 0 2 4
      Surface.length s.surface = 4 ∧ Unhindered (p.acts s) ∧
        ∃ shown, Exhibits p s () shown (blank 4) ∧ shown.length = 6 ∧
          shown[0]?.bind (·.word? 1) = some Color.white.pack ∧
          shown[3]?.bind (·.word? 1) = some 0 ∧ (p.perform s).1.dropped.length = 8 := by
  refine ⟨_, rfl, ?_⟩
  intro s p
  have white : Legible.leds s.surface = (blank 4).fill .white := by
    refine (Legible.leds_fill _ .white).trans ?_
    exact congrArg (fun c => c.pixels.fill .white)
      (get_map Channel.blank (StripConfig.single 4 18).channels 0)
  have four : Surface.length s.surface = 4 := by
    rw [← Legible.length_leds, white]
    rfl
  have unhindered : Unhindered (p.acts s) :=
    unhindered_of_works (s := Scene.start s.surface (VirtualStage.curtain none none)) rfl p
  obtain ⟨chase, -⟩ := chases_performed s
  have performed := chase (.rgb 255 0 0) 0 2
  rw [four] at performed
  obtain ⟨drops, chased⟩ := performed
  obtain ⟨shown, length, law, exhibits⟩ := chased unhindered
  obtain ⟨first, found, -, look⟩ := law 0 (by decide) 0 (by decide)
  obtain ⟨fourth, found', -, look'⟩ := law 1 (by decide) 0 (by decide)
  have second := look 1 (by rw [four]; decide)
  have second' := look' 1 (by rw [four]; decide)
  rw [if_neg (by decide), if_pos (by decide), white] at second
  rw [if_neg (by decide), if_neg (by decide)] at second'
  rw [four] at exhibits
  refine ⟨four, unhindered, shown, exhibits, length, ?_, ?_, ?_⟩
  · rw [found]
    exact second
  · rw [found']
    exact second'
  · rw [drops.reported, four]
    rfl

end LedStrip.Animation
