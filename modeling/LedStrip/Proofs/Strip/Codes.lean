import LedStrip.Proofs.Driver.Controller
import LedStrip.Proofs.Simulator.Answers
import LedStrip.Proofs.Strip.Request

/-!
# Codes reach the caller

The backends that there are answer each driver call with a code that is settled before the call
(`Coded`).  Nothing on the way back to whoever asked a strip for the call changes it: what is
returned is the outcome of the code (`result_create_of_valid`, `result_handle_of_call`), and the
number of a failure can be read off it again (`codes_survive`).
-/

namespace LedStrip

open Driver (Call Code check check_of_ne_zero)

/-- A backend whose driver calls end as a code says. -/
class Coded (β : Type) [Backend β] where
  /-- The code that a call of this kind is answered with. -/
  code : Call → β → Int32
  init {config : StripConfig} (valid : config.validate = .ok ()) (b : β) :
    (Backend.init config b).result = check .init (code .init b)
  render (channels : List Channel) (b : β) :
    (Backend.render channels b).result = check .render (code .render b)
  wait (b : β) : (Backend.wait b).result = check .wait (code .wait b)

instance : Coded Simulator where
  code
    | .init, s => s.initCode
    | .render, s => s.renderCode
    | .wait, s => s.waitCode
  init _ _ := Simulator.result_answer ..
  render _ _ := Simulator.result_answer ..
  wait _ := Simulator.result_answer ..

instance : Coded Driver.Controller where
  code call c := c.device.code call
  init valid c := Driver.Controller.result_init_of_valid valid c
  render channels c := c.result_render channels
  wait _ := rfl

namespace Strip

section

variable {β : Type} [Backend β] [Coded β]

/-- A strip with a valid configuration is set up exactly when the code says so. -/
theorem result_create_of_valid {config : StripConfig} (valid : config.validate = .ok ()) (b : β) :
    (create config b).result.map (fun _ => ()) = check .init (Coded.code .init b) := by
  obtain ⟨active, first⟩ := StripConfig.exists_firstUsed_of_valid valid
  rw [(create_of_valid valid first b).2, ← Coded.init valid b]
  cases (Backend.init config b).result <;> rfl

/-- A request that leads to a call returns the outcome of the call. -/
theorem result_handle_of_call (s : Strip β) {q : Request} {call : Call}
    (asked : q.call? = some call) :
    (s.handle q).result = check call (Coded.code call s.backend) := by
  rcases s.handle_cases q with ⟨render, same⟩ | ⟨wait, same⟩ | ⟨idle, -⟩
  · cases render.symm.trans asked
    rw [same]
    exact Coded.render s.channels.toList s.backend
  · cases wait.symm.trans asked
    rw [same]
    exact Coded.wait s.backend
  · cases idle.symm.trans asked

end

/-- Whoever asks a strip with such a backend for a call that fails is told which call it was, and
the number that it was answered with. -/
structure NamesFailures (β : Type) [Backend β] [Coded β] : Prop where
  create : ∀ (config : StripConfig) (b : β) (code : Int32), config.validate = .ok () →
    Coded.code .init b = code → code ≠ 0 →
    ∃ meaning, (create config b).result = .error (.driver .init meaning) ∧ meaning.raw = code
  handle : ∀ (s : Strip β) (q : Request) (call : Call) (code : Int32), q.call? = some call →
    Coded.code call s.backend = code → code ≠ 0 →
    ∃ meaning, (s.handle q).result = .error (.driver call meaning) ∧ meaning.raw = code

theorem namesFailures (β : Type) [Backend β] [Coded β] : NamesFailures β where
  create config b code valid answer failed := by
    have result := result_create_of_valid valid b
    rw [answer, check_of_ne_zero failed] at result
    cases created : (create config b).result with
    | ok s =>
      rw [created] at result
      cases result
    | error e =>
      rw [created] at result
      cases result
      exact ⟨.ofRaw code, rfl, Driver.raw_ofRaw code⟩
  handle s q call code asked answer failed := by
    rw [s.result_handle_of_call asked, answer, check_of_ne_zero failed]
    exact ⟨.ofRaw code, rfl, Driver.raw_ofRaw code⟩

/-- Codes are decoded without loss.  Every number comes back from its meaning, and no two numbers
mean the same; the numbers that are not documented mean themselves, and a meaning comes back from
its number unless it keeps a documented one as unknown.  Only zero is a success, and any other
number reaches whoever asked for the call, on the simulator and on the driver. -/
theorem codes_survive :
    (∀ code, (Code.ofRaw code).raw = code) ∧
    Function.Injective Code.ofRaw ∧
    (∀ code, Code.ofRaw code = .other code ↔ ¬(code = -1 ∨ -28119 ≤ code ∧ code ≤ -28110)) ∧
    (∀ c, Code.ofRaw c.raw = c ↔
      ¬∃ code, c = .other code ∧ (code = -1 ∨ -28119 ≤ code ∧ code ≤ -28110)) ∧
    (∀ call code, check call code = .ok () ↔ code = 0) ∧
    NamesFailures Simulator ∧ NamesFailures Driver.Controller := by
  refine ⟨Driver.raw_ofRaw, Driver.ofRaw_injective, Driver.ofRaw_eq_other_iff, fun c => ?_,
    Driver.check_eq_ok_iff, namesFailures Simulator, namesFailures Driver.Controller⟩
  rw [Driver.ofRaw_raw_eq_iff, not_exists]
  exact forall_congr' fun code => not_and.symm

/-- At both ends of the block: its last number from a rendering that a channel was asked for, the
one beyond it from a wait, and its first one from a set-up. -/
theorem codes_survive_edges :
    let config := StripConfig.single 1 18
    let simulated : Strip Simulator :=
      blank config 0 (Simulator.fresh.withRenderCode (-28119))
    let device := Driver.Device.fresh
    let driven : Strip Driver.Controller :=
      blank config 0 (.of { device with waitCode := -28120 })
    (∃ meaning, (simulated.handle (.showFrom 1)).result = .error (.driver .render meaning) ∧
      meaning.raw = -28119) ∧
    (∃ meaning, (driven.handle .wait).result = .error (.driver .wait meaning) ∧
      meaning.raw = -28120) ∧
    (∃ meaning, (create config (Driver.Controller.of { device with initCode := -28110 })).result =
        .error (.driver .init meaning) ∧ meaning.raw = -28110) ∧
    Code.ofRaw (-28119) ≠ .other (-28119) ∧ Code.ofRaw (-28120) = .other (-28120) := by
  intro config simulated device driven
  obtain ⟨-, -, unknown, -, -, onSimulator, onDriver⟩ := codes_survive
  refine ⟨?_, ?_, ?_, ?_, ?_⟩
  · exact onSimulator.handle simulated (.showFrom 1) .render (-28119) rfl rfl (by decide)
  · exact onDriver.handle driven .wait .wait (-28120) rfl rfl (by decide)
  · exact onDriver.create config _ (-28110) rfl rfl (by decide)
  · exact fun same => (unknown (-28119)).1 same (by decide)
  · exact (unknown (-28120)).2 (by decide)

end Strip

end LedStrip
