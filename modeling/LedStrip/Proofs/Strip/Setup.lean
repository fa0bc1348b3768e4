import LedStrip.Proofs.Config.Rules
import LedStrip.Proofs.Config.Validation
import LedStrip.Proofs.Strip.Request
import LedStrip.Simulator

/-!
# What stands in front of the backend

Setting up a strip validates its configuration before the backend hears of it.  A backend that is
watched records the configurations that it was set up for, and apart from that nothing shows the
watching (`create_watched`); so a configuration reaches the backend when it is valid, as it is, and
otherwise the backend is not called at all (`validation_gates`).
-/

namespace LedStrip

/-! ## Watched backends -/

/-- A backend with a record of the configurations that it was set up for. -/
structure Watched (β : Type) where
  backend : β
  inits : List StripConfig

namespace Watched

variable {β : Type}

/-- The record goes on while the backend changes. -/
def follow (w : Watched β) (b : β) : Watched β := { w with backend := b }

instance [Backend β] : Backend (Watched β) where
  init config w := (Backend.init config w.backend).lift fun b => ⟨b, w.inits ++ [config]⟩
  render channels w := (Backend.render channels w.backend).lift w.follow
  wait w := (Backend.wait w.backend).lift w.follow
  fini w := (Backend.fini w.backend).lift w.follow
  discard w := (Backend.discard w.backend).lift w.follow

end Watched

/-! ## The channel that is drawn on -/

namespace StripConfig

/-- The first channel with LEDs is the smallest one. -/
theorem firstUsed_eq_some_iff {c : StripConfig} {i : ChannelIndex} :
    c.firstUsed? = some i ↔
      0 < (c.channels.get i).count.toNat ∧ ∀ j < i, (c.channels.get j).count.toNat = 0 := by
  rw [firstUsed?, List.find?_eq_some_iff_getElem, ChannelConfig.isUsed_iff]
  simp only [List.getElem_finRange, Bool.not_eq_true', ← Bool.not_eq_true,
    ChannelConfig.isUsed_iff, Nat.not_lt, Nat.le_zero]
  refine and_congr_right fun _ => ⟨?_, fun before => ⟨i, ?_, rfl, fun j lt => before _ lt⟩⟩
  · rintro ⟨k, inside, rfl, before⟩ j lt
    exact before j lt
  · rw [List.length_finRange]
    exact i.isLt

end StripConfig

namespace Strip

variable {β : Type} [Backend β]

theorem create_watched (config : StripConfig) (b : β) (inits : List StripConfig) :
    create config (⟨b, inits⟩ : Watched β) =
      let record := inits ++ if config.validate.isOk then [config] else []
      let step := create config b
      ⟨⟨step.state, record⟩, step.result.map fun s => s.withBackend ⟨s.backend, record⟩,
        step.log⟩ := by
  rcases valid : config.validate with e | ⟨⟩
  · rw [create_of_invalid valid, create_of_invalid valid]
    simp [Step.silent, Except.isOk, Except.toBool, Except.map]
  · obtain ⟨active, first⟩ := StripConfig.exists_firstUsed_of_valid valid
    unfold create
    rw [valid, first]
    dsimp only
    rcases asked : (Backend.init config b).result with e | ⟨⟩
    · have watched : (Backend.init config (⟨b, inits⟩ : Watched β)).result = .error e := asked
      rw [watched]
      rfl
    · have watched : (Backend.init config (⟨b, inits⟩ : Watched β)).result = .ok () := asked
      rw [watched]
      rfl

/-- A strip that was set up is the blank one, on the backend as its setup left it. -/
theorem of_create {config : StripConfig} {b : β} {s : Strip β}
    (works : (create config b).result = .ok s) :
    config.validate = .ok () ∧ ∃ active, config.firstUsed? = some active ∧
      s = blank config active (Backend.init config b).state := by
  rcases valid : config.validate with e | ⟨⟩
  · rw [create_of_invalid valid] at works
    cases works
  · obtain ⟨active, first⟩ := StripConfig.exists_firstUsed_of_valid valid
    rw [(create_of_valid valid first b).2] at works
    rcases answer : (Backend.init config b).result with e | ⟨⟩ <;> rw [answer] at works
    · cases works
    · exact ⟨rfl, active, first, (Except.ok.inj works).symm⟩

/-- Exactly the valid configurations reach the backend. -/
theorem validation_gates (config : StripConfig) :
    (config.validate = .ok () ↔
      (400000 ≤ config.freq.toNat ∧ config.freq.toNat ≤ 800000) ∧ config.dma.toNat ≤ 14 ∧
      (∀ i, (config.channels.get i).count.toNat ≤ 65536 ∧
        (config.channels.get i).gpio ∈ StripConfig.gpios.get i ∧
        (0 < (config.channels.get i).count.toNat → (config.channels.get i).gpio ≠ 0)) ∧
      ∃ i, 0 < (config.channels.get i).count.toNat) ∧
    (∀ e, config.validate = .error e ↔ ∃ before broken after,
      StripConfig.Rule.all = before ++ broken :: after ∧ (∀ r ∈ before, config.Keeps r) ∧
      ¬config.Keeps broken ∧ e = broken.fault config) ∧
    (config.validate = .ok () → config.firstUsed? ≠ none) ∧
    ∀ {β : Type} [Backend β] (b : β) (inits : List StripConfig),
      let watched := (create config (⟨b, inits⟩ : Watched β)).state
      watched.inits = inits ++ (if config.validate.isOk then [config] else []) ∧
      watched.backend = (create config b).state ∧
      (∀ e, config.validate = .error e → create config b = .silent b (.error e)) ∧
      (config.validate = .ok () →
        (create config b).result.map (fun _ => ()) = (Backend.init config b).result) ∧
      ∀ s, (create config b).result = .ok s →
        s.backend = (Backend.init config b).state ∧ s.freq = config.freq ∧ s.dma = config.dma ∧
        0 < (config.channels.get s.active).count.toNat ∧
        (∀ j < s.active, (config.channels.get j).count.toNat = 0) ∧
        ∀ i, (s.channels.get i).config = config.channels.get i ∧
          (s.channels.get i).pixels.toList =
            List.replicate (config.channels.get i).count.toNat 0 := by
  refine ⟨?_, StripConfig.validate_eq_error_iff, fun valid none => ?_, fun b inits => ?_⟩
  · rw [StripConfig.validate_eq_ok_iff_keeps, StripConfig.forall_keeps_iff]
    exact Iff.rfl
  · obtain ⟨active, first⟩ := StripConfig.exists_firstUsed_of_valid valid
    cases none.symm.trans first
  · intro watched
    have state : watched = _ := congrArg Step.state (create_watched config b inits)
    refine ⟨?_, ?_, fun e invalid => create_of_invalid invalid b, fun valid => ?_,
      fun s works => ?_⟩
    · rw [state]
    · rw [state]
    · obtain ⟨active, first⟩ := StripConfig.exists_firstUsed_of_valid valid
      rw [(create_of_valid valid first b).2]
      cases (Backend.init config b).result <;> rfl
    · obtain ⟨-, active, first, rfl⟩ := of_create works
      obtain ⟨used, before⟩ := StripConfig.firstUsed_eq_some_iff.1 first
      refine ⟨rfl, rfl, rfl, used, before, fun i => ?_⟩
      have channel : (blank config active (Backend.init config b).state).channels.get i =
          .blank (config.channels.get i) := get_map Channel.blank config.channels i
      rw [channel]
      exact ⟨rfl, Array.toList_replicate⟩

/-- Four LEDs on the second channel only, which a simulator is set up for; with a frequency that is
too high and a DMA channel that there is not, it is the frequency that is reported. -/
theorem validation_gates_second :
    let config : StripConfig := { StripConfig.default with channels := #v[.unused, .of 4 13] }
    let wrong : StripConfig := (config.withFreq 800001).withDma 15
    config.validate = .ok () ∧
      (create config (⟨Simulator.fresh, []⟩ : Watched Simulator)).state.inits = [config] ∧
      (∃ s, (create config Simulator.fresh).result = .ok s ∧ s.active = 1 ∧
        (s.channels.get 1).pixels.toList = [0, 0, 0, 0]) ∧
      wrong.validate = .error (.invalidFrequency 800001) ∧
      (create wrong (⟨Simulator.fresh, []⟩ : Watched Simulator)).state.inits = [] := by
  intro config wrong
  obtain ⟨exact, -, -, gate⟩ := validation_gates config
  obtain ⟨-, first, -, gate'⟩ := validation_gates wrong
  have valid : config.validate = .ok () := exact.2 (by decide)
  have broken : ¬wrong.Keeps .frequency := by decide
  have invalid : wrong.validate = .error (.invalidFrequency 800001) :=
    (first _).2 ⟨[], .frequency, _, rfl, fun _ mem => absurd mem List.not_mem_nil, broken, rfl⟩
  obtain ⟨inits, -, -, works, black⟩ := gate Simulator.fresh []
  have inits' := (gate' Simulator.fresh []).1
  rcases created : (create config Simulator.fresh).result with e | s
  · have answered := works valid
    rw [created] at answered
    cases answered
  · obtain ⟨-, -, -, used, -, channels⟩ := black s created
    refine ⟨valid, ?_, ⟨s, rfl, ?_, (channels 1).2⟩, invalid, ?_⟩
    · rw [inits, valid]
      rfl
    · have second : ∀ i, 0 < (config.channels.get i).count.toNat → i = 1 := by decide
      exact second _ used
    · rw [inits', invalid]
      rfl

end Strip

end LedStrip
