import LedStrip.Cli.Session
import LedStrip.Proofs.Animation.Programs

/-!
# The show

The programs of the command line, one after the other and over and over.  The show stops when it is
told that it is over (`Cli.stops_loop`).  If there are enough cycles, all that it does is to take
turns (`Cli.Turns`): it asks, announces a program, plays it, and goes on with the next one.  How many
cycles there are, and how many rounds a program may take, makes no difference then
(`Cli.agree_loop`).
-/

namespace LedStrip

/-- The program that an act starts. -/
def Act.started? : Act → Option Program
  | reported (.programStarted p) => some p
  | _ => none

namespace Cli

open Play

/-! ## Stopping -/

section Stopping

variable (rounds n : Nat) (programs : List Program)

theorem leaves_playAll : (playAll rounds n programs).Leaves fun _ => True := by
  cases programs <;> trivial

theorem stops_playAll : (playAll rounds n programs).Stops fun _ => True := by
  induction programs with
  | nil => trivial
  | cons p programs ih =>
    refine ⟨trivial, ?_⟩
    exact ((p.stops_play rounds n).imp fun _ _ => leaves_playAll rounds n programs).bind fun _ => ih

theorem leaves_loop (cycles : Nat) : (loop rounds n programs cycles).Leaves fun _ => True := by
  cases cycles <;> trivial

theorem stops_loop (cycles : Nat) : (loop rounds n programs cycles).Stops fun _ => True := by
  induction cycles with
  | zero => trivial
  | succ cycles ih =>
    refine ⟨trivial, Stops.bind ?_ fun complete => ?_⟩
    · refine (stops_playAll rounds n programs).imp fun complete _ => ?_
      cases complete with
      | false => trivial
      | true => exact leaves_loop rounds n programs cycles
    · cases complete with
      | false => trivial
      | true => exact ih

end Stopping

section Performances

variable {S σ : Type} [Surface S] [Stage σ]

/-! ## One program, one cycle -/

/-- The scene in which a program is played: it was announced after a check. -/
def introduced (p : Program) (s : Scene S σ) : Scene S σ := s.checked.report (.programStarted p)

section Steps

variable {rounds n cycles : Nat} {p : Program} {programs : List Program} {s : Scene S σ}

theorem playAll_of_off (off : (Stage.running s.stage).1 = false) :
    (playAll rounds n (p :: programs)).acts s = [.checked false] ∧
      ((playAll rounds n (p :: programs)).perform s).2 = .ok false := by
  rw [playAll, acts_running, perform_running, off]
  exact ⟨rfl, rfl⟩

theorem acts_playAll_of_on (on : (Stage.running s.stage).1 = true) :
    (playAll rounds n (p :: programs)).acts s =
      .checked true :: .reported (.programStarted p) ::
        ((p.play rounds n).bind fun _ => playAll rounds n programs).acts (introduced p s) := by
  rw [playAll, acts_running, on]
  rfl

theorem perform_playAll_of_on (on : (Stage.running s.stage).1 = true) :
    (playAll rounds n (p :: programs)).perform s =
      ((p.play rounds n).bind fun _ => playAll rounds n programs).perform (introduced p s) := by
  rw [playAll, perform_running, on]
  rfl

/-- What is left of the loop when a cycle was complete or not. -/
def again (rounds n : Nat) (programs : List Program) (cycles : Nat) (complete : Bool) : Play Unit :=
  if complete then loop rounds n programs cycles else .skip

theorem loop_of_off (off : (Stage.running s.stage).1 = false) :
    (loop rounds n programs (cycles + 1)).acts s = [.checked false] := by
  rw [loop, acts_running, off]
  rfl

theorem loop_of_on (on : (Stage.running s.stage).1 = true) :
    (loop rounds n programs (cycles + 1)).acts s =
      .checked true ::
        ((playAll rounds n programs).bind (again rounds n programs cycles)).acts s.checked := by
  rw [loop, acts_running, on]
  rfl

end Steps

/-! ## Turns -/

/-- The acts of a show that goes through `programs` over and over and has the programs `left` to
play in this cycle.  Before each program and before each cycle it asks whether it is still on.
Behind the announcement of a program come the acts of that program, in the scene as it is by then.
The first answer no ends the show, and so does a program that fails. -/
inductive Turns (rounds n : Nat) (programs : List Program) :
    List Program → Scene S σ → List Act → Prop
  | ended {left : List Program} {s : Scene S σ} (off : (Stage.running s.stage).1 = false) :
      Turns rounds n programs left s [.checked false]
  | cycle {s : Scene S σ} {acts : List Act} (on : (Stage.running s.stage).1 = true)
      (rest : Turns rounds n programs programs s.checked acts) :
      Turns rounds n programs [] s (.checked true :: acts)
  | plays {p : Program} {left : List Program} {s : Scene S σ} {acts : List Act}
      (on : (Stage.running s.stage).1 = true)
      (complete : ((p.play rounds n).perform (introduced p s)).2 = .ok ())
      (rest : Turns rounds n programs left ((p.play rounds n).perform (introduced p s)).1 acts) :
      Turns rounds n programs (p :: left) s
        (.checked true :: .reported (.programStarted p) ::
          ((p.play rounds n).acts (introduced p s) ++ acts))
  | fails {p : Program} {left : List Program} {s : Scene S σ} {e : Error}
      (on : (Stage.running s.stage).1 = true)
      (failed : ((p.play rounds n).perform (introduced p s)).2 = .error e) :
      Turns rounds n programs (p :: left) s
        (.checked true :: .reported (.programStarted p) :: (p.play rounds n).acts (introduced p s))

section Turns

variable {rounds n k cycles i : Nat} {p : Program} {programs left : List Program}

/-- The rest of a cycle is played in turns if what follows the cycle is. -/
theorem turns_playAll
    (next : ∀ t : Scene S (Cued σ), t.EndsWithin k →
      Turns rounds n programs [] t ((loop rounds n programs cycles).acts t))
    {s : Scene S (Cued σ)} (ends : s.EndsWithin k) :
    Turns rounds n programs left s
      (((playAll rounds n left).bind (again rounds n programs cycles)).acts s) := by
  induction left generalizing s with
  | nil => exact next s ends
  | cons p left ih =>
    rcases ends.check with ⟨off, -⟩ | ⟨j, rfl, on, later⟩
    · rw [acts_bind_of_ok (playAll_of_off off).2, (playAll_of_off off).1]
      exact .ended off
    · -- A program uses checks up and adds none, so the bound holds behind it as well.
      have ends' : (introduced p s).EndsWithin (j + 1) := later.mono (Nat.le_succ j)
      cases result : ((p.play rounds n).perform (introduced p s)).2 with
      | ok =>
        rw [acts_bind, acts_playAll_of_on on, perform_playAll_of_on on, acts_bind_of_ok result,
          perform_bind_of_ok result, List.cons_append, List.cons_append, List.append_assoc,
          ← acts_bind]
        exact .plays on result (ih (ends'.perform _))
      | error e =>
        rw [acts_bind, acts_playAll_of_on on, perform_playAll_of_on on, acts_bind_of_error result,
          perform_bind_of_error result, List.append_nil]
        exact .fails on result

/-- With enough cycles the whole show is played in turns. -/
theorem turns_loop (enough : k < cycles) {s : Scene S (Cued σ)} (ends : s.EndsWithin k) :
    Turns rounds n programs [] s ((loop rounds n programs cycles).acts s) := by
  induction cycles generalizing k s with
  | zero => cases enough
  | succ cycles ih =>
    rcases ends.check with ⟨off, -⟩ | ⟨j, rfl, on, later⟩
    · rw [loop_of_off off]
      exact .ended off
    · rw [loop_of_on on]
      exact .cycle on (turns_playAll (fun t ends => ih (Nat.lt_of_succ_lt_succ enough) ends) later)

variable {s : Scene S σ} {acts : List Act}

theorem started_play (p : Program) (s : Scene S σ) :
    ((p.play rounds n).acts s).filterMap Act.started? = [] := by
  apply List.filterMap_eq_nil_iff.2
  intro a happens
  cases a with
  | reported e =>
    obtain rfl := (p.reports_play rounds n).acts s e happens
    rfl
  | checked | timed | drew | painted | shown | refused | slept => rfl

/-- The program that is next at a place in the list, and the place behind it. -/
theorem next_of_place {q : Program} (place : q :: left = programs.drop k) :
    k < programs.length ∧ programs[k % programs.length]? = some q ∧
      left = programs.drop (k + 1) := by
  have here : programs[k]? = some q := by
    rw [← List.head?_drop, ← place]
    rfl
  have below : k < programs.length := (List.getElem?_eq_some_iff.1 here).1
  refine ⟨below, ?_, ?_⟩
  · rw [Nat.mod_eq_of_lt below, here]
  · rw [← List.drop_drop, ← place]
    rfl

/-- From the place in the list where a show is, its programs are started in the order of the list,
over and over. -/
theorem Turns.order (turns : Turns rounds n programs left s acts) (place : left = programs.drop k)
    (inside : k ≤ programs.length) (started : (acts.filterMap Act.started?)[i]? = some p) :
    programs[(k + i) % programs.length]? = some p := by
  induction turns generalizing k i with
  | ended => cases started
  | cycle on rest ih =>
    -- The place behind the last program is the first one again.
    obtain rfl : k = programs.length :=
      Nat.le_antisymm inside (List.drop_eq_nil_iff.1 place.symm)
    rw [Nat.add_mod_left, ← Nat.zero_add i]
    exact ih List.drop_zero.symm (Nat.zero_le _) started
  | @plays q left s acts on complete rest ih =>
    obtain ⟨below, here, place'⟩ := next_of_place place
    have start : (Act.reported (.programStarted q)).started? = some q := rfl
    rw [List.filterMap_cons_none rfl, List.filterMap_cons_some start, List.filterMap_append,
      started_play, List.nil_append] at started
    cases i with
    | zero => exact here.trans started
    | succ i =>
      rw [Nat.add_comm i 1, ← Nat.add_assoc]
      exact ih place' below started
  | @fails q left s e on failed =>
    obtain ⟨-, here, -⟩ := next_of_place place
    have start : (Act.reported (.programStarted q)).started? = some q := rfl
    rw [List.filterMap_cons_none rfl, List.filterMap_cons_some start, started_play] at started
    cases i with
    | zero => exact here.trans started
    | succ i => cases started

/-- A show in turns goes on until it is over or something cannot be shown. -/
theorem Turns.checked (turns : Turns rounds n programs left s acts)
    (fine : ∀ e, .refused e ∉ acts) : .checked false ∈ acts := by
  induction turns with
  | ended => exact List.mem_cons_self
  | cycle on rest ih =>
    exact List.mem_cons_of_mem _ (ih fun e refused => fine e (List.mem_cons_of_mem _ refused))
  | plays on complete rest ih =>
    refine List.mem_cons_of_mem _ (List.mem_cons_of_mem _ (List.mem_append_right _ (ih ?_)))
    exact fun e refused =>
      fine e (List.mem_cons_of_mem _ (List.mem_cons_of_mem _ (List.mem_append_right _ refused)))
  | fails on failed =>
    exact absurd (List.mem_cons_of_mem _ (List.mem_cons_of_mem _ (refused_of_error failed)))
      (fine _)

end Turns

/-! ## Enough cycles and rounds -/

section Enough

variable {k rounds rounds' cycles cycles' : Nat} (n : Nat) (programs : List Program)
  (enough : k < rounds) (enough' : k < rounds')

include enough enough'

theorem agree_playAll :
    Agree S σ k (playAll rounds n programs) (playAll rounds' n programs) := by
  induction programs generalizing k with
  | nil => exact .refl _
  | cons p programs ih =>
    refine .running (.refl _) ?_
    rintro j rfl
    refine .report _ (.bind ?_ fun _ => ?_)
    · exact p.agree_play n (by omega) (by omega)
    · exact ih (by omega) (by omega)

theorem agree_loop (more : k < cycles) (more' : k < cycles') :
    Agree S σ k (loop rounds n programs cycles) (loop rounds' n programs cycles') := by
  induction cycles generalizing k cycles' with
  | zero => cases more
  | succ cycles ih =>
    obtain ⟨cycles', rfl⟩ : ∃ c, cycles' = c + 1 := ⟨cycles' - 1, by omega⟩
    refine .running (.refl _) ?_
    rintro j rfl
    refine .bind (agree_playAll n programs (by omega) (by omega)) fun complete => ?_
    cases complete with
    | false => exact .refl _
    | true => exact ih (by omega) (by omega) (by omega) (by omega)

theorem agree_reel (o : Options) (more : k < cycles) (more' : k < cycles') :
    Agree S σ k (reel o cycles rounds n) (reel o cycles' rounds' n) :=
  .bind (agree_loop n o.programs enough enough' more more') fun _ => .refl _

end Enough

end Performances

end Cli

end LedStrip
