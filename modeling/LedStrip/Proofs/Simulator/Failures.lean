import LedStrip.Proofs.Simulator.Recording

/-!
# What fails leaves nothing behind

A move that fails, because the strip refuses it or because its simulator was told to answer with a
failure, changes neither of them (`perform_of_failed`).  So the moves that failed can be taken out
of a run: the others return what they returned, and the strip and the recording end up the same
(`run_succeeded`).
-/

namespace LedStrip.Strip

/-- Whether a reply is an error. -/
def Reply.failed : Reply → Bool
  | .done (.error _) | .channel (.error _) => true
  | _ => false

/-- Whether a move settles how the backend answers from then on. -/
def Move.settles : Move → Bool
  | .answer _ _ => true
  | _ => false

/-- Moves with their replies, without those that failed. -/
def succeeded (moves : List Move) (replies : List Reply) : List (Move × Reply) :=
  (moves.zip replies).filter fun p => !p.2.failed

/-! ## One move -/

/-- What a strip refuses without asking its backend changes nothing. -/
theorem handle_of_error {β : Type} [Backend β] (s : Strip β) {q : Request}
    (quiet : q.call? = none) {e : Error} (failed : (s.handle q).result = .error e) :
    (s.handle q).state = s ∧ (s.handle q).log = [] := by
  cases q with
  | write w => cases failed
  | brightness b => cases failed
  | activate i =>
    simp only [handle] at failed ⊢
    cases h : s.activate i with
    | ok t => rw [h] at failed; cases failed
    | error e' => exact ⟨rfl, rfl⟩
  | «show» => cases quiet
  | wait => cases quiet
  | writeTo i w =>
    simp only [handle, onChannel] at failed ⊢
    split_ifs at failed ⊢
    exact ⟨rfl, rfl⟩
  | brightnessOf i b =>
    simp only [handle, onChannel] at failed ⊢
    split_ifs at failed ⊢
    · cases failed
    · exact ⟨rfl, rfl⟩
  | showFrom i =>
    by_cases h : i < channelCount
    · simp [Request.call?, h] at quiet
    · simp only [handle, onChannel, dif_neg h]
      exact ⟨rfl, rfl⟩

theorem wait_of_error {s : Strip Simulator} {e : Error} (failed : s.wait.result = .error e) :
    s.wait.state.backend = s.backend ∧ s.wait.log = [] := by
  have code : s.backend.waitCode ≠ 0 := by
    intro zero
    have fine : s.wait.result = .ok () :=
      (Simulator.result_answer ..).trans ((Driver.check_eq_ok_iff ..).2 zero)
    rw [fine] at failed
    cases failed
  exact ⟨(Simulator.state_answer ..).trans (if_neg code),
    (Simulator.log_answer ..).trans (if_neg code)⟩

/-- A move that fails changes nothing and reports nothing. -/
theorem perform_of_failed (s : Strip Simulator) {m : Move}
    (failed : (s.perform m).result.failed = true) :
    (s.perform m).state = s ∧ (s.perform m).log = [] := by
  cases m with
  | read q => exact ⟨rfl, rfl⟩
  | answer call code => cases failed
  | ask q =>
    simp only [perform] at failed ⊢
    cases result : (s.handle q).result with
    | ok => rw [result] at failed; cases failed
    | error e =>
      rcases s.handle_cases q with ⟨-, h⟩ | ⟨-, h⟩ | ⟨quiet, -⟩
      · rw [h] at result ⊢
        obtain ⟨backend, log⟩ := Simulator.render_of_error result
        refine ⟨?_, log⟩
        show { s with backend := s.render.state.backend } = s
        rw [backend]
      · rw [h] at result ⊢
        obtain ⟨backend, log⟩ := wait_of_error result
        refine ⟨?_, log⟩
        show { s with backend := s.wait.state.backend } = s
        rw [backend]
      · exact s.handle_of_error quiet result

theorem not_failed_of_settles (s : Strip Simulator) {m : Move} (h : m.settles = true) :
    (s.perform m).result.failed = false := by
  cases m with
  | ask q => cases h
  | read q => cases h
  | answer call code => rfl

/-- To settle an answer touches neither the channels nor the recording. -/
theorem perform_of_settles (s : Strip Simulator) {m : Move} (h : m.settles = true) :
    (s.perform m).state.channels = s.channels ∧
      (s.perform m).state.backend.recording = s.backend.recording := by
  cases m with
  | ask q => cases h
  | read q => cases h
  | answer call code => cases call <;> exact ⟨rfl, rfl⟩

/-! ## Any number of moves -/

theorem succeeded_cons (m : Move) (moves : List Move) (r : Reply) (replies : List Reply) :
    succeeded (m :: moves) (r :: replies) =
      if r.failed then succeeded moves replies else (m, r) :: succeeded moves replies := by
  cases h : r.failed <;> simp [succeeded, h]

/-- Without the moves that failed a run is the same, but for their replies. -/
theorem run_succeeded (s : Strip Simulator) (moves : List Move) :
    let left := succeeded moves (s.run moves).result
    s.run (left.map Prod.fst) = ⟨(s.run moves).state, left.map Prod.snd, (s.run moves).log⟩ := by
  induction moves generalizing s with
  | nil => rfl
  | cons m rest ih =>
    dsimp only
    rw [result_run_cons, state_run_cons, succeeded_cons]
    have log : (s.run (m :: rest)).log = (s.perform m).log ++ ((s.perform m).state.run rest).log :=
      rfl
    rw [log]
    cases failed : (s.perform m).result.failed with
    | true =>
      obtain ⟨same, silent⟩ := s.perform_of_failed failed
      rw [same, silent, List.nil_append]
      exact ih s
    | false =>
      have tail := ih (s.perform m).state
      simp only [Bool.false_eq_true, if_false, List.map_cons, run, tail]

/-- A move that settles an answer is never taken out. -/
theorem settles_succeeded (s : Strip Simulator) (moves : List Move) :
    ((succeeded moves (s.run moves).result).map Prod.fst).filter Move.settles =
      moves.filter Move.settles := by
  induction moves generalizing s with
  | nil => rfl
  | cons m rest ih =>
    rw [result_run_cons, succeeded_cons]
    cases h : m.settles with
    | true => simp [s.not_failed_of_settles h, h, ih]
    | false => split_ifs <;> simp [h, ih]

/-- Moves that only fail or settle answers leave the channels and the recording as they are. -/
theorem run_of_failed_or_settles (s : Strip Simulator) {moves : List Move}
    (idle : ∀ p ∈ succeeded moves (s.run moves).result, p.1.settles = true) :
    (s.run moves).state.channels = s.channels ∧
      (s.run moves).state.backend.recording = s.backend.recording := by
  induction moves generalizing s with
  | nil => exact ⟨rfl, rfl⟩
  | cons m rest ih =>
    rw [result_run_cons, succeeded_cons] at idle
    rw [state_run_cons]
    cases failed : (s.perform m).result.failed with
    | true =>
      rw [failed, if_pos rfl, (s.perform_of_failed failed).1] at idle
      rw [(s.perform_of_failed failed).1]
      exact ih s idle
    | false =>
      rw [failed, if_neg (by decide)] at idle
      obtain ⟨channels, recording⟩ := s.perform_of_settles (idle _ List.mem_cons_self)
      obtain ⟨channels', recording'⟩ :=
        ih (s.perform m).state fun p hp => idle p (List.mem_cons_of_mem _ hp)
      exact ⟨channels'.trans channels, recording'.trans recording⟩

/-! ## Trying again -/

theorem state_run_append (s : Strip Simulator) (moves rest : List Move) :
    (s.run (moves ++ rest)).state = ((s.run moves).state.run rest).state := by
  induction moves generalizing s with
  | nil => rfl
  | cons m moves ih => exact ih (s.perform m).state

/-- A strip that is shown once its simulator answers with success again records itself. -/
theorem show_recorded (s : Strip Simulator) :
    (s.run [.answer .render 0, .ask .show]).state.backend.recording =
      (s.backend.record s.snapshot).recording := by
  have fine : (s.perform (.answer .render 0)).state.render.result = .ok () :=
    Simulator.result_answer ..
  have recorded := congrArg Simulator.recording (Simulator.render_of_ok fine).1
  exact recorded

/-- However often showing failed in between, the frame is the one of the first attempt. -/
theorem show_retried (s : Strip Simulator) {moves : List Move}
    (idle : ∀ p ∈ succeeded moves (s.run moves).result, p.1.settles = true) :
    (s.run (moves ++ [.answer .render 0, .ask .show])).state.backend.recording =
      (s.backend.record s.snapshot).recording := by
  obtain ⟨channels, recording⟩ := s.run_of_failed_or_settles idle
  have same : (s.run moves).state.snapshot = s.snapshot := by
    simp only [snapshot, channels]
  obtain ⟨recent, count⟩ := Prod.mk.inj recording
  rw [state_run_append, show_recorded, same]
  simp only [Simulator.recording, Simulator.record, recent, count]

/-! ## Setting up -/

theorem exists_create {config : StripConfig} (valid : config.validate = .ok ()) {b : Simulator}
    (code : b.initCode = 0) : ∃ s, (create config b).result = .ok s := by
  obtain ⟨active, first⟩ := StripConfig.exists_firstUsed_of_valid valid
  have up : (Backend.init config b).result = .ok () :=
    (Simulator.result_answer ..).trans ((Driver.check_eq_ok_iff ..).2 code)
  have result := (create_of_valid valid first b).2
  rw [up] at result
  exact ⟨_, result⟩

/-- A strip that cannot be set up leaves the simulator as it was. -/
theorem create_of_error {config : StripConfig} {b : Simulator} {e : Error}
    (failed : (create config b).result = .error e) : create config b = .silent b (.error e) := by
  cases valid : config.validate with
  | error e' =>
    rw [create_of_invalid valid] at failed ⊢
    cases failed
    rfl
  | ok =>
    by_cases code : b.initCode = 0
    · obtain ⟨s, works⟩ := exists_create valid code
      rw [works] at failed
      cases failed
    · obtain ⟨active, first⟩ := StripConfig.exists_firstUsed_of_valid valid
      have refused : Backend.init config b =
          .silent b (.error (.driver .init (.ofRaw b.initCode))) := by
        have all := b.answer_eq .init b.initCode { b with config := some config }
          [.simulatorReady config.ledCount config.freq config.dma]
        rw [Driver.check_of_ne_zero code, if_neg code, if_neg code] at all
        exact all
      unfold create at failed ⊢
      rw [valid, first] at failed ⊢
      dsimp only at failed ⊢
      rw [refused] at failed ⊢
      cases failed
      rfl

/-- Whatever fails in the use of a simulator may as well not have been tried.  With the moves that
failed taken out of a run, the others return the same, and the strip, its recording and what is
reported are the same, also once the strip is given up; what is recorded in the end by a rendering
that failed any number of times is what was to be shown at first; and a strip that cannot be set up
leaves the simulator as it was. -/
theorem failures_erasable (config : StripConfig) (b : Simulator) :
    (config.validate = .ok () → b.initCode = 0 →
      ∃ s, (create config b).result = .ok s ∧ ∀ moves : List Move,
        let run := s.run moves
        let left := succeeded moves run.result
        let again := s.run (left.map Prod.fst)
        (left.map Prod.fst).filter Move.settles = moves.filter Move.settles ∧
        again.result = left.map Prod.snd ∧ again.state = run.state ∧ again.log = run.log ∧
        lifetime config b (left.map Prod.fst) = lifetime config b moves ∧
        ∀ retries : List Move,
          (∀ p ∈ succeeded retries (run.state.run retries).result, p.1.settles = true) →
          let shown := (run.state.run (retries ++ [.answer .render 0, .ask .show])).state.backend
          shown.frames = newest run.state.backend.recent.limit
            (run.state.backend.frames ++ [run.state.snapshot]) ∧
          shown.frameCount = run.state.backend.frameCount + 1) ∧
    ∀ e, (create config b).result = .error e →
      (create config b).state = b ∧ (create config b).log = [] ∧
        ∀ moves, lifetime config b moves = b := by
  refine ⟨fun valid code => ?_, fun e failed => ?_⟩
  · obtain ⟨s, works⟩ := exists_create valid code
    refine ⟨s, works, fun moves => ?_⟩
    intro run left again
    have same : again = ⟨run.state, left.map Prod.snd, run.log⟩ := s.run_succeeded moves
    refine ⟨s.settles_succeeded moves, ?_, ?_, ?_, ?_, fun retries idle => ?_⟩
    · rw [same]
    · rw [same]
    · rw [same]
    · rw [lifetime_of_ok works, lifetime_of_ok works]
      show again.state.release.state = _
      rw [same]
    · obtain ⟨recent, count⟩ := Prod.mk.inj (run.state.show_retried idle)
      refine ⟨?_, count⟩
      rw [← Simulator.frames_record, Simulator.frames, recent]
      rfl
  · refine ⟨?_, ?_, fun moves => ?_⟩
    · rw [create_of_error failed]
      rfl
    · rw [create_of_error failed]
      rfl
    · rw [lifetime_of_error failed, create_of_error failed]
      rfl

/-- Two renderings fail, and there is no third channel to switch to or to look at: nothing of this
shows in the frame that is recorded in the end.  Settings without LEDs are refused as well. -/
theorem failures_erasable_retried :
    let config := StripConfig.single 1 18
    let retries : List Move :=
      [.answer .render (-1), .ask .show, .ask (.activate 2), .read (.channel 2), .ask .show]
    let recovery : List Move := [.answer .render 0, .ask .show]
    config.validate = .ok () ∧ Simulator.fresh.initCode = 0 ∧
      (∃ s, (create config Simulator.fresh).result = .ok s ∧
        (s.run (.answer .render (-1) :: recovery)).state = (s.run (retries ++ recovery)).state ∧
        (∀ p ∈ succeeded retries (s.run retries).result, p.1.settles = true) ∧
        (s.run (retries ++ recovery)).state.backend.frames = [s.snapshot]) ∧
      (create .default Simulator.fresh).result = .error .noChannels ∧
      (create .default Simulator.fresh).state = Simulator.fresh := by
  intro config retries recovery
  have valid : config.validate = .ok () := rfl
  have code : Simulator.fresh.initCode = 0 := rfl
  obtain ⟨s, works, told⟩ := (failures_erasable config Simulator.fresh).1 valid code
  have first : config.firstUsed? = some 0 := by decide
  have begun := works
  rw [(create_of_valid valid first Simulator.fresh).2] at begun
  obtain rfl := Except.ok.inj begun
  obtain ⟨-, -, same, -⟩ := told (retries ++ recovery)
  obtain ⟨-, -, -, -, -, retried⟩ := told []
  have none : (create .default Simulator.fresh).result = .error .noChannels := rfl
  have before := ((failures_erasable .default Simulator.fresh).2 _ none).1
  have idle : ∀ p ∈ [(Move.answer .render (-1), Reply.done (.ok ()))], p.1.settles = true := by
    intro p hp
    rw [List.mem_singleton.1 hp]
    rfl
  refine ⟨valid, code, ⟨_, works, same, idle, ?_⟩, none, before⟩
  apply (retried retries idle).1.trans
  rw [newest, Nat.sub_eq_zero_of_le]
  · rfl
  · show 1 ≤ Simulator.defaultFrameLimit
    decide

end LedStrip.Strip
