import LedStrip.Proofs.Animation.Cancellation
import LedStrip.Proofs.Play.Fuel
import LedStrip.Proofs.Play.Reports
import LedStrip.Proofs.Play.Stops

/-!
# All programs

What all named programs have in common, be they timed or not: they stop when they are told that the
show is over (`Program.stops_play`), they report nothing but that they are skipped
(`Program.reports_play`), and how many rounds they may take does not matter where the show is over
before (`Program.agree_play`).
-/

namespace LedStrip

namespace Animation

open Play

/-! ## Bouncing balls -/

section Bounce

variable {B : Type} (place : Nat → B → B × List Nat) (colors : List Color)
  (wait start playtime : Nat)

theorem stops_bounce (rounds : Nat) (balls : B) :
    (bounce place colors wait start playtime rounds balls).Stops fun _ => True := by
  induction rounds generalizing balls with
  | zero => trivial
  | succ rounds ih =>
    intro now
    dsimp only
    split
    · exact ⟨trivial, fun later => ih (place (later - start) balls).1⟩
    · trivial

theorem reports_bounce {kind : Event → Prop} (rounds : Nat) (balls : B) :
    (bounce place colors wait start playtime rounds balls).Reports kind := by
  induction rounds generalizing balls with
  | zero => trivial
  | succ rounds ih =>
    intro now
    dsimp only
    split
    · intro on
      cases on with
      | false => trivial
      | true => exact fun later => ih (place (later - start) balls).1
    · trivial

theorem agree_bounce {S σ : Type} [Surface S] [Stage σ] {k rounds rounds' : Nat}
    (enough : k < rounds) (enough' : k < rounds') (balls : B) :
    Agree S σ k (bounce place colors wait start playtime rounds balls)
      (bounce place colors wait start playtime rounds' balls) := by
  induction rounds generalizing k rounds' balls with
  | zero => cases enough
  | succ rounds ih =>
    obtain ⟨rounds', rfl⟩ : ∃ r, rounds' = r + 1 := ⟨rounds' - 1, by omega⟩
    refine .clock fun now => ?_
    split
    · refine .running (.refl _) ?_
      rintro j rfl
      refine .clock fun later => .paint _ (.present (.paint _ (.sleep _ ?_)))
      exact ih (by omega) (by omega) (place (later - start) balls).1
    · exact .refl _

end Bounce

/-! ## Reports -/

section Reports

variable {kind : Event → Prop}

theorem reports_frames (strokes : Nat → List Stroke) (wait count : Nat) :
    (each count fun i => frame (strokes i) wait).Reports kind := by
  apply reports_each
  intro i
  trivial

theorem reports_rainbowCycle (wait iterations n : Nat) :
    (rainbowCycle wait iterations n).Reports kind := by
  unfold rainbowCycle
  split
  · trivial
  · exact reports_frames _ wait _

theorem reports_chases (color : Nat → Nat → Color) (wait count n : Nat) :
    (each count fun j => chase (color j) wait n).Reports kind := by
  apply reports_each
  intro j
  apply reports_each
  intro q
  trivial

theorem reports_flash : flash.Reports kind := fun _ => trivial

theorem reports_strobe (wait pulses strobes : Nat) : (strobe wait pulses strobes).Reports kind := by
  induction strobes with
  | zero => trivial
  | succ strobes ih =>
    refine (reports_whileRunning (fun _ => reports_flash) 0 pulses).bind fun complete => ?_
    cases complete with
    | false => trivial
    | true => exact ih

theorem reports_snowSparkle (wait low high n : Nat) :
    (snowSparkle wait low high n).Reports kind := by
  unfold snowSparkle
  split
  · trivial
  · intro on
    cases on with
    | false => trivial
    | true =>
      intro pixel
      unfold basePause
      split
      · trivial
      · exact fun _ => trivial

end Reports

end Animation

/-! ## Programs -/

namespace Program

open Play Animation

variable (p : Program) (rounds n : Nat)

theorem stops_play : (p.play rounds n).Stops fun _ => True := by
  by_cases clockless : p ∈ untimed
  · exact (heeds_untimed clockless rounds n).stops
  · unfold play
    split
    · trivial
    · cases p with
      | pulsing => exact stops_segment _ (heeds_frames _ _ (2 * n)).stops rounds
      | strobe => exact stops_segment _ (heeds_strobe _ 12 7).stops rounds
      | snowSparkle => exact stops_segment _ (heeds_snowSparkle _ 100 1000 n).stops rounds
      | bouncingBalls => exact fun start => stops_bounce _ _ _ start _ rounds _
      | colorWipe | theaterChase | rainbow | rainbowCycle | theaterChaseRainbow =>
        exact absurd (by decide) clockless

theorem reports_forColors {kind : Event → Prop} {body : Color → Play Unit}
    (reports : ∀ c, (body c).Reports kind) (colors : List Color) :
    (forColors body colors).Reports kind := by
  induction colors with
  | nil => trivial
  | cons c colors ih => exact (reports c).bind fun _ => ih

theorem reports_play : (p.play rounds n).Reports (· = .programSkipped p) := by
  unfold play
  split
  · exact ⟨rfl, trivial⟩
  · cases p with
    | colorWipe => exact reports_forColors (fun _ => reports_frames _ _ n) _
    | theaterChase => exact reports_forColors (fun _ => reports_chases _ _ 10 n) _
    | rainbow => exact reports_frames _ _ _
    | rainbowCycle => exact reports_rainbowCycle _ 5 n
    | theaterChaseRainbow => exact reports_chases _ _ 256 n
    | pulsing => exact reports_segment (reports_frames _ _ (2 * n)) _ rounds
    | strobe => exact reports_segment (reports_strobe _ 12 7) _ rounds
    | snowSparkle => exact reports_segment (reports_snowSparkle _ 100 1000 n) _ rounds
    | bouncingBalls => exact fun start => reports_bounce _ _ _ start _ rounds _

theorem agree_play {S σ : Type} [Surface S] [Stage σ] {k rounds rounds' : Nat} (enough : k < rounds)
    (enough' : k < rounds') : Agree S σ k (p.play rounds n) (p.play rounds' n) := by
  unfold play
  dsimp only
  split
  · exact .refl _
  · cases p with
    | colorWipe | theaterChase | rainbow | rainbowCycle | theaterChaseRainbow => exact .refl _
    | pulsing | strobe | snowSparkle => exact agree_segment _ _ enough enough'
    | bouncingBalls =>
      exact .clock fun start => agree_bounce _ _ _ start _ enough enough' _

end Program

end LedStrip
