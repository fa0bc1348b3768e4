import LedStrip.Proofs.Driver.Pointers
import LedStrip.Proofs.Strip.Run

/-!
# The calls of a strip

Which calls of the device a strip makes in its life.  Each move makes the calls that it asks for,
whatever they answer (`calls_perform`), so the calls of a run are those of its moves, in order
(`calls_run`).  Releasing the strip gives the controller up twice and releases the device once
(`calls_release`).
-/

namespace LedStrip.Driver

/-- Which call this is, if it is one that answers with a code. -/
def Record.call? : Record → Option Call
  | .init .. => some .init
  | .render .. => some .render
  | .wait _ => some .wait
  | .fini => none

namespace Controller

/-- The controller of a strip in use: it is set up, and its pointers are backed. -/
structure Up (c : Controller) : Prop where
  backed : Backed c.registers c.device
  initialized : c.initialized = true

/-! ## Calls of the controller -/

variable {c : Controller}

theorem up_render (up : Up c) (channels : List Channel) : Up (c.render channels).state := by
  refine ⟨backed_render up.backed channels, ?_⟩
  rw [render_eq up.backed]
  exact (initialized_transferAll channels c _).trans up.initialized

theorem up_wait (up : Up c) : Up c.wait.state := ⟨up.backed.keep rfl rfl, up.initialized⟩

theorem fini_of_initialized (initialized : c.initialized = true) :
    c.fini.state.device.calls = c.device.calls ++ [.fini] := by
  unfold fini
  rw [if_pos initialized]
  rfl

theorem fini_of_not_initialized (down : c.initialized = false) : c.fini.state = c := by
  unfold fini
  rw [if_neg (Bool.eq_false_iff.1 down)]
  rfl

/-- The answers of the device are no calls. -/
theorem calls_answerWith (up : Up c) (call : Call) (code : Int32) :
    Up (Scripted.answerWith call code c) ∧
      (Scripted.answerWith call code c).device.calls = c.device.calls := by
  cases call <;> exact ⟨⟨up.backed.keep rfl rfl, up.initialized⟩, rfl⟩

/-! ## Calls of a strip -/

/-- A strip makes these calls, of the one kind if any, and a rendering sends all its channels. -/
structure Makes (s : Strip Controller) (call : Option Call) (made : List Record) : Prop where
  kinds : made.map Record.call? = call.toList.map some
  sent {rendered : List Rendered} {code : Int32} : .render rendered code ∈ made →
    rendered = (s.backend.handOver s.channels.toList).sent

/-- A request makes exactly the call that it leads to. -/
theorem calls_handle {s : Strip Controller} (up : Up s.backend) (q : Strip.Request) :
    Up (s.handle q).state.backend ∧
      ∃ made, (s.handle q).state.backend.device.calls = s.backend.device.calls ++ made ∧
        Makes s q.call? made := by
  rcases s.handle_cases q with ⟨call, render⟩ | ⟨call, wait⟩ | ⟨call, idle⟩
  · rw [render, call]
    refine ⟨up_render up _, _, calls_render up.backed s.channels.toList, rfl, fun mem => ?_⟩
    cases List.mem_singleton.1 mem
    rfl
  · rw [wait, call]
    refine ⟨up_wait up, [.wait s.backend.device.waitCode], rfl, rfl, fun mem => ?_⟩
    cases List.mem_singleton.1 mem
  · rw [idle, call]
    exact ⟨up, [], (List.append_nil _).symm, rfl, fun mem => absurd mem List.not_mem_nil⟩

theorem calls_perform {s : Strip Controller} (up : Up s.backend) (m : Strip.Move) :
    Up (s.perform m).state.backend ∧
      ∃ made, (s.perform m).state.backend.device.calls = s.backend.device.calls ++ made ∧
        Makes s m.call? made := by
  have nothing : Makes s none [] := ⟨rfl, fun mem => absurd mem List.not_mem_nil⟩
  cases m with
  | ask q => exact calls_handle up q
  | read q => exact ⟨up, [], (List.append_nil _).symm, nothing⟩
  | answer call code =>
    obtain ⟨still, calls⟩ := calls_answerWith up call code
    exact ⟨still, [], calls.trans (List.append_nil _).symm, nothing⟩

/-- A run makes the calls that its moves lead to, in order. -/
theorem calls_run {s : Strip Controller} (up : Up s.backend) (moves : List Strip.Move) :
    Up (s.run moves).state.backend ∧
      ∃ made, (s.run moves).state.backend.device.calls = s.backend.device.calls ++ made ∧
        made.map Record.call? = (moves.filterMap Strip.Move.call?).map some := by
  induction moves generalizing s with
  | nil => exact ⟨up, [], (List.append_nil _).symm, rfl⟩
  | cons m rest ih =>
    obtain ⟨first, made, calls, ⟨kinds, -⟩⟩ := calls_perform up m
    obtain ⟨still, others, calls', kinds'⟩ := ih first
    rw [Strip.state_run_cons]
    refine ⟨still, made ++ others, ?_, ?_⟩
    · rw [calls', calls, List.append_assoc]
    · rw [List.map_append, kinds, kinds']
      cases call : m.call? <;> simp [call]

/-- The strip releases the device and then gives the controller up; the device is called once. -/
theorem calls_release {s : Strip Controller} (up : Up s.backend) :
    s.release.state.device.calls = s.backend.device.calls ++ [.fini] := by
  have again : s.backend.fini.state.fini.state = s.backend.fini.state :=
    fini_of_not_initialized (initialized_fini s.backend)
  change s.backend.fini.state.fini.state.device.calls = _
  rw [again]
  exact fini_of_initialized up.initialized

/-! ## A whole life -/

section

variable {config : StripConfig} (b : Behaviour) (moves : List Strip.Move)

theorem calls_of_invalid {e : Error} (invalid : config.validate = .error e) :
    (Strip.lifetime config (of (Device.fresh.behaving b)) moves).device.calls = [] := by
  have created := Strip.create_of_invalid invalid (of (Device.fresh.behaving b))
  have nothing := Strip.lifetime_of_error (congrArg Step.result created) moves
  rw [nothing, created]
  rfl

theorem calls_of_failed (valid : config.validate = .ok ()) (failed : b.initCode ≠ 0) :
    (Strip.lifetime config (of (Device.fresh.behaving b)) moves).device.calls =
      [.init (.of config) b.initCode] := by
  obtain ⟨active, first⟩ := StripConfig.exists_firstUsed_of_valid valid
  obtain ⟨state, result⟩ := Strip.create_of_valid valid first (of (Device.fresh.behaving b))
  have refused := init_of_failed (c := of (Device.fresh.behaving b))
    (Registers.result_load_of_valid valid _) failed
  have answer : (Backend.init config (of (Device.fresh.behaving b))).result =
      .error (.driver .init (.ofRaw b.initCode)) :=
    (congrArg Step.result refused).trans (check_of_ne_zero failed .init)
  rw [answer] at result
  rw [Strip.lifetime_of_error result, state]
  change ((of (Device.fresh.behaving b)).init config).state.fini.state.device.calls = _
  rw [refused, fini_of_not_initialized rfl]
  rfl

theorem calls_of_done (valid : config.validate = .ok ()) (done : b.initCode = 0) :
    ∃ made, (Strip.lifetime config (of (Device.fresh.behaving b)) moves).device.calls =
        .init (.of config) 0 :: (made ++ [.fini]) ∧
      made.map Record.call? = (moves.filterMap Strip.Move.call?).map some := by
  obtain ⟨active, first⟩ := StripConfig.exists_firstUsed_of_valid valid
  have result := (Strip.create_of_valid valid first (of (Device.fresh.behaving b))).2
  obtain ⟨fine, initialized, ⟨arrays, frame⟩, -⟩ := init_of_done (c := of (Device.fresh.behaving b))
    (Registers.result_load_of_valid valid _) done
  have works := result.trans (congrArg _ fine)
  have up : Up ((of (Device.fresh.behaving b)).init config).state :=
    ⟨backed_init (sound_of b).backed config, initialized⟩
  have begun : ((of (Device.fresh.behaving b)).init config).state.device.calls =
      [.init (.of config) 0] := by
    rw [frame]
    rfl
  obtain ⟨still, made, run, kinds⟩ := calls_run (s := .blank config active _) up moves
  refine ⟨made, ?_, kinds⟩
  rw [Strip.lifetime_of_ok works]
  refine (calls_release still).trans ?_
  rw [run]
  exact congrArg (· ++ made ++ [.fini]) begun

end

/-- All calls that a strip makes: none when its configuration is not valid; the set-up alone when
that fails; and else the set-up, one call for each rendering and each wait that is asked for, in
order and whatever they answer, and one release.  The set-up gets the settings as they are, which
the controller has no reason to refuse. -/
theorem calls_lifetime (config : StripConfig) (b : Behaviour) (moves : List Strip.Move) :
    let fresh := of (Device.fresh.behaving b)
    let calls := (Strip.lifetime config fresh moves).device.calls
    match config.validate with
    | .error _ => calls = []
    | .ok () =>
      (fresh.init config).result = check .init b.initCode ∧
      if b.initCode = 0 then
        ∃ made, calls = .init (.of config) 0 :: (made ++ [.fini]) ∧
          made.map Record.call? = (moves.filterMap Strip.Move.call?).map some
      else calls = [.init (.of config) b.initCode] := by
  intro fresh calls
  cases valid : config.validate with
  | error e => exact calls_of_invalid b moves valid
  | ok =>
    refine ⟨result_init_of_valid valid fresh, ?_⟩
    by_cases done : b.initCode = 0
    · rw [if_pos done]
      exact calls_of_done b moves valid done
    · rw [if_neg done]
      exact calls_of_failed b moves valid done

end Controller

end LedStrip.Driver
