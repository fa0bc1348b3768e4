import LedStrip.Proofs.Simulator.Answers
import LedStrip.Proofs.Strip.Run

/-!
# What the simulator keeps

A simulator while a strip uses it and after the strip is gone, with the limit changed in between
from outside.  The `Ledger` tells what there should be to see: all snapshots that were ever taken,
and how many of them are kept.  Every act keeps the two together (`Follows.step`), so every run
does (`Follows.run`).
-/

namespace LedStrip

/-- Of an event that a frame was recorded: its number and the bytes. -/
def Event.recorded? : Event → Option (Nat × List (List UInt8))
  | .frameRecorded number wire => some (number, wire)
  | _ => none

/-- Everything that a strip shows: for each channel its words, and what each of them is sent as, one
after the other. -/
def Strip.snapshot {β : Type} (s : Strip β) : Frame where
  leds := s.channels.map Channel.pixels
  wire := s.channels.map fun c =>
    c.pixels.toList.flatMap fun word =>
      (c.config.stripType.slots word c.brightness).take c.config.stripType.bytesPerLed

namespace Simulator

/-! ## The bench -/

/-- A simulator, with the strip that uses it as long as there is one. -/
inductive Bench where
  | inUse (s : Strip Simulator)
  | left (s : Simulator)

/-- What can happen on a bench. -/
inductive Act where
  | move (m : Strip.Move)
  /-- Change how many frames are kept. -/
  | limit (n : Nat)
  /-- Give the strip up. -/
  | drop

namespace Bench

/-- The simulator, whoever uses it. -/
def simulator : Bench → Simulator
  | inUse s => s.backend
  | left s => s

/-- Change the simulator from outside. -/
def adjust (f : Simulator → Simulator) : Bench → Bench
  | inUse s => inUse { s with backend := f s.backend }
  | left s => left (f s)

/-- Do one thing.  What is asked of a strip that is gone does nothing. -/
def step : Bench → Act → Step Bench Unit
  | inUse s, .move m => ⟨inUse (s.perform m).state, (), (s.perform m).log⟩
  | left s, .move (.answer call code) => .silent (left (Scripted.answerWith call code s)) ()
  | left s, .move _ => .silent (left s) ()
  | b, .limit n => .silent (b.adjust (·.withFrameLimit n)) ()
  | inUse s, .drop => s.release.lift left
  | left s, .drop => .silent (left s) ()

/-- Do one thing after the other. -/
def run (b : Bench) : List Act → Step Bench Unit
  | [] => .silent b ()
  | a :: rest =>
    let first := b.step a
    (first.state.run rest).after first.log

/-- The snapshot that an act takes, if it is a rendering that succeeds. -/
def shown? : Bench → Act → Option Frame
  | inUse s, .move (.ask q) =>
    if q.call? = some .render then (s.handle q).result.toOption.map fun _ => s.snapshot else none
  | _, _ => none

end Bench

/-! ## The ledger -/

/-- All snapshots so far, how many of them are kept, and how many may be. -/
structure Ledger where
  history : List Frame
  kept : Nat
  limit : Nat

namespace Ledger

/-- Enter an act. -/
def enter (l : Ledger) (b : Bench) (a : Act) : Ledger :=
  match b.shown? a, a with
  | some frame, _ =>
    { l with history := l.history ++ [frame], kept := min (l.kept + 1) l.limit }
  | none, .limit n => { l with kept := min l.kept n, limit := n }
  | none, _ => l

/-- Enter one act after the other, as they happen on a bench. -/
def follow (l : Ledger) (b : Bench) : List Act → Ledger
  | [] => l
  | a :: rest => (l.enter b a).follow (b.step a).state rest

/-- Nothing is entered yet. -/
def empty : Ledger := ⟨[], 0, defaultFrameLimit⟩

end Ledger

/-! ## One act -/

theorem recorded?_ignoredWrites (length : Nat) (indices : List Nat) :
    (Event.ignoredWrites length indices).filterMap Event.recorded? = [] := by
  rw [Event.ignoredWrites, List.filterMap_map]
  exact List.filterMap_eq_nil_iff.2 fun _ _ => rfl

theorem snapshot_eq (s : Strip Simulator) : s.snapshot = .of s.channels.toList := by
  have leds : s.snapshot.leds = (Frame.of s.channels.toList).leds :=
    ext_get fun i => (get_map _ _ i).trans (Frame.leds_of s.channels i).symm
  have wire : s.snapshot.wire = (Frame.of s.channels.toList).wire :=
    ext_get fun i => (get_map _ _ i).trans (Frame.wire_of s.channels i).symm
  rw [show s.snapshot = ⟨s.snapshot.leds, s.snapshot.wire⟩ from rfl, leds, wire]

/-- What was recorded so far. -/
def recording (s : Simulator) : Recent Frame × Nat := (s.recent, s.frameCount)

/-- A rendering that succeeds records a snapshot under the number of those before it. -/
theorem render_of_ok {s : Strip Simulator} (fine : s.render.result = .ok ()) :
    s.render.state.backend = s.backend.record s.snapshot ∧
      s.render.log = [.frameRecorded s.backend.frameCount s.snapshot.wire.toList] := by
  have code : s.backend.renderCode = 0 :=
    (Driver.check_eq_ok_iff ..).1 ((result_answer ..).symm.trans fine)
  rw [snapshot_eq]
  exact ⟨(state_answer ..).trans (if_pos code), (log_answer ..).trans (if_pos code)⟩

/-- A rendering that fails records nothing. -/
theorem render_of_error {s : Strip Simulator} {e : Error} (failed : s.render.result = .error e) :
    s.render.state.backend = s.backend ∧ s.render.log = [] := by
  have code : s.backend.renderCode ≠ 0 := by
    intro zero
    cases ((Driver.check_eq_ok_iff ..).2 zero).symm.trans ((result_answer ..).symm.trans failed)
  exact ⟨(state_answer ..).trans (if_neg code), (log_answer ..).trans (if_neg code)⟩

theorem recording_wait (s : Strip Simulator) :
    s.wait.state.backend.recording = s.backend.recording ∧ s.wait.log = [] := by
  have state : s.wait.state.backend = _ := state_answer ..
  have log : s.wait.log = _ := log_answer ..
  rw [state, log]
  split <;> exact ⟨rfl, rfl⟩

theorem recorded?_log_handle (s : Strip Simulator) {q : Strip.Request} (quiet : q.call? = none) :
    (s.handle q).log.filterMap Event.recorded? = [] := by
  cases q with
  | write w => exact recorded?_ignoredWrites ..
  | brightness b => rfl
  | activate i =>
    simp only [Strip.handle]
    split <;> rfl
  | «show» => cases quiet
  | wait => cases quiet
  | writeTo i w =>
    simp only [Strip.handle, Strip.onChannel]
    split
    · exact recorded?_ignoredWrites ..
    · rfl
  | brightnessOf i b =>
    simp only [Strip.handle, Strip.onChannel]
    split <;> rfl
  | showFrom i =>
    simp only [Strip.handle, Strip.onChannel]
    split
    · next h => cases quiet.symm.trans (if_pos h)
    · rfl

namespace Bench

variable {b : Bench} {a : Act}

theorem shown?_eq_some {frame : Frame} (shown : b.shown? a = some frame) :
    ∃ s q, b = inUse s ∧ a = .move (.ask q) ∧ q.call? = some .render ∧
      s.render.result = .ok () ∧ frame = s.snapshot := by
  unfold shown? at shown
  split at shown
  · next s q =>
    split at shown
    · next call =>
      rw [s.handle_of_render call] at shown
      cases result : s.render.result with
      | error e =>
        rw [result] at shown
        cases shown
      | ok =>
        rw [result] at shown
        exact ⟨s, q, rfl, rfl, call, result, (Option.some.inj shown).symm⟩
    · cases shown
  · cases shown

theorem step_of_shown {frame : Frame} (shown : b.shown? a = some frame) :
    (b.step a).state.simulator = b.simulator.record frame ∧
      (b.step a).log.filterMap Event.recorded? =
        [(b.simulator.frameCount, frame.wire.toList)] := by
  obtain ⟨s, q, rfl, rfl, call, fine, rfl⟩ := shown?_eq_some shown
  obtain ⟨state, log⟩ := render_of_ok fine
  change (s.handle q).state.backend = _ ∧ (s.handle q).log.filterMap _ = _
  rw [s.handle_of_render call, state, log]
  exact ⟨rfl, rfl⟩

theorem handle_of_unshown {s : Strip Simulator} {q : Strip.Request}
    (unshown : (inUse s).shown? (.move (.ask q)) = none) :
    (s.handle q).state.backend.recording = s.backend.recording ∧
      (s.handle q).log.filterMap Event.recorded? = [] := by
  rcases s.handle_cases q with ⟨call, render⟩ | ⟨-, wait⟩ | ⟨quiet, backend⟩
  · simp only [shown?] at unshown
    rw [if_pos call, render] at unshown
    cases result : s.render.result with
    | error e =>
      obtain ⟨state, log⟩ := render_of_error result
      rw [render, state, log]
      exact ⟨rfl, rfl⟩
    | ok =>
      rw [result] at unshown
      cases unshown
  · obtain ⟨state, log⟩ := recording_wait s
    rw [wait, state, log]
    exact ⟨rfl, rfl⟩
  · rw [backend, recorded?_log_handle s quiet]
    exact ⟨rfl, rfl⟩

/-- Whatever neither renders with success nor changes the limit leaves the recording alone. -/
theorem step_of_unshown (unshown : b.shown? a = none) (other : ∀ n, a ≠ .limit n) :
    (b.step a).state.simulator.recording = b.simulator.recording ∧
      (b.step a).log.filterMap Event.recorded? = [] := by
  cases a with
  | limit n => exact absurd rfl (other n)
  | drop => cases b <;> exact ⟨rfl, rfl⟩
  | move m =>
    cases m with
    | ask q =>
      cases b with
      | inUse s => exact handle_of_unshown unshown
      | left s => exact ⟨rfl, rfl⟩
    | read q => cases b <;> exact ⟨rfl, rfl⟩
    | answer call code => cases b <;> cases call <;> exact ⟨rfl, rfl⟩

theorem step_limit (b : Bench) (n : Nat) :
    (b.step (.limit n)).state.simulator = b.simulator.withFrameLimit n ∧
      (b.step (.limit n)).log = [] ∧ b.shown? (.limit n) = none := by
  cases b <;> exact ⟨rfl, rfl, rfl⟩

end Bench

/-! ## Any number of acts -/

/-- The simulator shows what the ledger tells. -/
structure Follows (s : Simulator) (l : Ledger) : Prop where
  count : s.frameCount = l.history.length
  frames : s.frames = newest l.kept l.history
  limit : s.recent.limit = l.limit
  /-- Nothing is kept that was not recorded. -/
  bound : l.kept ≤ l.history.length

namespace Follows

variable {s t : Simulator} {b : Bench} {l : Ledger}

theorem record (follows : Follows s l) (frame : Frame) :
    Follows (s.record frame)
      { l with history := l.history ++ [frame], kept := min (l.kept + 1) l.limit } where
  count := by
    rw [List.length_append, ← follows.count]
    rfl
  frames := by rw [frames_record, follows.frames, follows.limit, newest_append_newest]
  limit := (Recent.limit_push ..).trans follows.limit
  bound := by
    have bound := follows.bound
    change min (l.kept + 1) l.limit ≤ (l.history ++ [frame]).length
    rw [List.length_append, List.length_singleton]
    omega

theorem withFrameLimit (follows : Follows s l) (n : Nat) :
    Follows (s.withFrameLimit n) { l with kept := min l.kept n, limit := n } where
  count := follows.count
  frames := by rw [frames_withFrameLimit, follows.frames, newest_newest]
  limit := rfl
  bound := Nat.le_trans (Nat.min_le_left ..) follows.bound

theorem of_recording (follows : Follows s l) (same : t.recording = s.recording) : Follows t l := by
  obtain ⟨recent, count⟩ := Prod.mk.inj same
  refine ⟨count.trans follows.count, ?_, ?_, follows.bound⟩
  · rw [← follows.frames, Simulator.frames, Simulator.frames, recent]
  · rw [← follows.limit, recent]

/-- What an act does to the simulator is what the ledger enters; a frame is reported under the
number of frames before it. -/
theorem step (follows : Follows b.simulator l) (a : Act) :
    Follows (b.step a).state.simulator (l.enter b a) ∧
      (l.enter b a).history = l.history ++ (b.shown? a).toList ∧
      (b.step a).log.filterMap Event.recorded? =
        (b.shown? a).toList.map fun frame => (l.history.length, frame.wire.toList) := by
  -- An act records a frame, or changes the limit, or leaves the recording alone.
  cases shown : b.shown? a with
  | some frame =>
    obtain ⟨state, log⟩ := Bench.step_of_shown shown
    have entered : l.enter b a = { l with
        history := l.history ++ [frame], kept := min (l.kept + 1) l.limit } := by
      simp only [Ledger.enter, shown]
    rw [entered, state, log, follows.count]
    exact ⟨follows.record frame, rfl, rfl⟩
  | none =>
    by_cases change : ∃ n, a = .limit n
    · obtain ⟨n, rfl⟩ := change
      obtain ⟨state, log, -⟩ := b.step_limit n
      have entered : l.enter b (.limit n) = { l with kept := min l.kept n, limit := n } := by
        simp only [Ledger.enter, shown]
      rw [entered, state, log]
      exact ⟨follows.withFrameLimit n, (List.append_nil _).symm, rfl⟩
    · obtain ⟨recording, log⟩ := Bench.step_of_unshown shown fun n same => change ⟨n, same⟩
      have entered : l.enter b a = l := by
        cases a with
        | limit n => exact absurd ⟨n, rfl⟩ change
        | move m => simp only [Ledger.enter, shown]
        | drop => simp only [Ledger.enter, shown]
      rw [entered, log]
      exact ⟨follows.of_recording recording, (List.append_nil _).symm, rfl⟩

theorem run (follows : Follows b.simulator l) (acts : List Act) :
    Follows (b.run acts).state.simulator (l.follow b acts) ∧
      ∃ added, (l.follow b acts).history = l.history ++ added ∧
        (b.run acts).log.filterMap Event.recorded? =
          (added.zipIdx l.history.length).map fun (frame, k) => (k, frame.wire.toList) := by
  induction acts generalizing b l with
  | nil => exact ⟨follows, [], (List.append_nil _).symm, rfl⟩
  | cons a rest ih =>
    obtain ⟨first, history, log⟩ := follows.step a
    obtain ⟨still, added, history', log'⟩ := ih first
    refine ⟨still, (b.shown? a).toList ++ added, ?_, ?_⟩
    · rw [Ledger.follow, history', history, List.append_assoc]
    · change ((b.step a).log ++ ((b.step a).state.run rest).log).filterMap _ = _
      rw [List.filterMap_append, log, log', history, List.zipIdx_append, List.map_append,
        List.length_append]
      cases b.shown? a <;> rfl

end Follows

/-- The recording of any strip, whatever happens to it and to the limit: all frames that were ever
shown are counted, and reported under their numbers; the newest of them are kept, each as it was
when it was shown; and nothing but a rendering that succeeds or a change of the limit makes any
difference to them. -/
theorem recording_law {config : StripConfig} (valid : config.validate = .ok ())
    (acts : List Act) :
    ∃ s, (Strip.create config fresh).result = .ok s ∧
      let run := (Bench.inUse s).run acts
      let ledger := Ledger.empty.follow (.inUse s) acts
      let simulator := run.state.simulator
      simulator.frameCount = ledger.history.length ∧
      simulator.frames = ledger.history.drop (ledger.history.length - ledger.kept) ∧
      ledger.kept ≤ ledger.history.length ∧
      simulator.lastFrame? = simulator.frames.getLast? ∧
      (simulator.lastFrame? = none ↔ ledger.kept = 0) ∧
      run.log.filterMap Event.recorded? =
        ledger.history.zipIdx.map (fun (frame, k) => (k, frame.wire.toList)) ∧
      ∀ a, run.state.shown? a = none → (∀ n, a ≠ .limit n) →
        (run.state.step a).state.simulator.frames = simulator.frames := by
  obtain ⟨active, first⟩ := StripConfig.exists_firstUsed_of_valid valid
  have works : (Strip.create config fresh).result =
      .ok (.blank config active (Backend.init config fresh).state) :=
    (Strip.create_of_valid valid first fresh).2
  refine ⟨_, works, ?_⟩
  intro run ledger simulator
  have begun : Follows (Bench.inUse
      (.blank config active (Backend.init config fresh).state)).simulator Ledger.empty :=
    ⟨rfl, rfl, rfl, Nat.le_refl 0⟩
  obtain ⟨follows, added, history, log⟩ := begun.run acts
  have last : simulator.lastFrame? = simulator.frames.getLast? := Recent.last?_eq ..
  refine ⟨follows.count, follows.frames, follows.bound, last, ?_, ?_, fun a unshown other => ?_⟩
  · rw [last, List.getLast?_eq_none_iff, ← List.length_eq_zero_iff, follows.frames,
      length_newest, Nat.min_eq_right follows.bound]
  · rw [show ledger.history = added from history]
    exact log
  · have same := (Bench.step_of_unshown unshown other).1
    exact congrArg Recent.toList (Prod.mk.inj same).1

/-- A lowered limit gives a frame up for good: raised again, it keeps only what is shown later. -/
theorem recording_law_raised :
    let config := StripConfig.single 1 18
    let acts : List Act :=
      [.move (.ask .show), .move (.ask .show), .limit 1, .limit 5, .move (.ask .show)]
    config.validate = .ok () ∧
      ∃ s, (Strip.create config fresh).result = .ok s ∧
        ((Bench.inUse s).run acts).state.simulator.frameCount = 3 ∧
        ((Bench.inUse s).run acts).state.simulator.frames.length = 2 := by
  intro config acts
  have valid : config.validate = .ok () := rfl
  obtain ⟨s, works, count, frames, -⟩ := recording_law valid acts
  have first : config.firstUsed? = some 0 := by decide
  have begun := works
  rw [(Strip.create_of_valid valid first fresh).2] at begun
  obtain rfl := Except.ok.inj begun
  refine ⟨valid, _, works, count.trans rfl, ?_⟩
  rw [frames]
  rfl

end Simulator

end LedStrip
