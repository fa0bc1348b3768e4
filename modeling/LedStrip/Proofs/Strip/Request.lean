import LedStrip.Proofs.Config.Validation
import LedStrip.Strip.Request
import Mathlib.Tactic.SplitIfs

/-!
# What a request does

A request either makes one call of the backend, or it changes the strip alone and the backend not at
all (`handle_cases`).  In the second case nothing depends on what the backend is
(`handle_withBackend`), so strips on different backends can be compared by what they show,
`face`.
-/

namespace LedStrip.Strip

variable {β γ : Type}

/-! ## Strips on other backends -/

/-- The same strip on another backend. -/
def withBackend (s : Strip β) (b : γ) : Strip γ := ⟨b, s.freq, s.dma, s.channels, s.active⟩

/-- What a strip shows, whatever its backend is. -/
def face (s : Strip β) : Strip Unit := s.withBackend ()

theorem face_eq_face_iff {s : Strip β} {t : Strip γ} :
    s.face = t.face ↔ t = s.withBackend t.backend := by
  obtain ⟨b, freq, dma, channels, active⟩ := s
  obtain ⟨b', freq', dma', channels', active'⟩ := t
  simp only [face, withBackend, mk.injEq, true_and]
  exact ⟨fun ⟨h₁, h₂, h₃, h₄⟩ => ⟨h₁.symm, h₂.symm, h₃.symm, h₄.symm⟩,
    fun ⟨h₁, h₂, h₃, h₄⟩ => ⟨h₁.symm, h₂.symm, h₃.symm, h₄.symm⟩⟩

theorem activate_withBackend (s : Strip β) (b : γ) (i : Nat) :
    (s.withBackend b).activate i = (s.activate i).map fun t => t.withBackend b := by
  unfold activate
  by_cases h : i < channelCount
  · rw [dif_pos h, dif_pos h]
    change (if (s.channels.get ⟨i, h⟩).config.isUsed = true then _ else _) = _
    split_ifs <;> rfl
  · rw [dif_neg h, dif_neg h]
    rfl

/-- A change of one channel that keeps the number of its LEDs keeps that of every channel. -/
theorem length_modify (s : Strip β) (i j : ChannelIndex) {f : Channel → Channel}
    (keeps : ∀ c : Channel, (f c).pixels.length = c.pixels.length) :
    ((s.modify i f).channels.get j).pixels.length = (s.channels.get j).pixels.length := by
  rw [channels_modify]
  split_ifs
  · exact keeps _
  · rfl

/-! ## Calls of the backend -/

/-- The driver call that a request leads to, if it leads to one. -/
def Request.call? : Request → Option Driver.Call
  | .show => some .render
  | .showFrom i => if i < channelCount then some .render else none
  | .wait => some .wait
  | _ => none

section

variable [Backend β] [Backend γ]

/-- A request renders, or waits, or leaves the backend alone. -/
theorem handle_cases (s : Strip β) (q : Request) :
    (q.call? = some .render ∧ s.handle q = s.render) ∨
    (q.call? = some .wait ∧ s.handle q = s.wait) ∨
    (q.call? = none ∧ (s.handle q).state.backend = s.backend) := by
  cases q with
  | write w => exact .inr (.inr ⟨rfl, rfl⟩)
  | brightness b => exact .inr (.inr ⟨rfl, rfl⟩)
  | activate i =>
    refine .inr (.inr ⟨rfl, ?_⟩)
    simp only [handle, activate]
    split_ifs <;> rfl
  | «show» => exact .inl ⟨rfl, rfl⟩
  | wait => exact .inr (.inl ⟨rfl, rfl⟩)
  | writeTo i w =>
    refine .inr (.inr ⟨rfl, ?_⟩)
    simp only [handle, onChannel]
    split_ifs <;> rfl
  | brightnessOf i b =>
    refine .inr (.inr ⟨rfl, ?_⟩)
    simp only [handle, onChannel]
    split_ifs <;> rfl
  | showFrom i =>
    by_cases h : i < channelCount
    · exact .inl ⟨if_pos h, dif_pos h⟩
    · refine .inr (.inr ⟨if_neg h, ?_⟩)
      simp only [handle, onChannel, dif_neg h]
      rfl

theorem handle_of_render (s : Strip β) {q : Request} (call : q.call? = some .render) :
    s.handle q = s.render := by
  rcases s.handle_cases q with ⟨-, render⟩ | ⟨wait, -⟩ | ⟨idle, -⟩
  · exact render
  · cases call.symm.trans wait
  · cases call.symm.trans idle

theorem handle_of_wait (s : Strip β) {q : Request} (call : q.call? = some .wait) :
    s.handle q = s.wait := by
  rcases s.handle_cases q with ⟨render, -⟩ | ⟨-, wait⟩ | ⟨idle, -⟩
  · cases call.symm.trans render
  · exact wait
  · cases call.symm.trans idle

theorem backend_handle (s : Strip β) {q : Request} (quiet : q.call? = none) :
    (s.handle q).state.backend = s.backend := by
  rcases s.handle_cases q with ⟨render, -⟩ | ⟨wait, -⟩ | ⟨-, idle⟩
  · cases quiet.symm.trans render
  · cases quiet.symm.trans wait
  · exact idle

/-- No request changes how many LEDs a channel has. -/
theorem length_handle (s : Strip β) (q : Request) (j : ChannelIndex) :
    ((s.handle q).state.channels.get j).pixels.length = (s.channels.get j).pixels.length := by
  have write (w : PixelBuffer.Write) (c : Channel) :
      (c.write w).pixels.length = c.pixels.length := PixelBuffer.length_apply ..
  cases q with
  | write w => exact s.length_modify s.active j (write w)
  | brightness b => exact s.length_modify s.active j fun _ => rfl
  | activate i =>
    simp only [handle, activate]
    split_ifs <;> rfl
  | «show» => rfl
  | wait => rfl
  | writeTo i w =>
    simp only [handle, onChannel]
    split_ifs with h
    · exact s.length_modify ⟨i, h⟩ j (write w)
    · rfl
  | brightnessOf i b =>
    simp only [handle, onChannel]
    split_ifs with h
    · exact s.length_modify ⟨i, h⟩ j fun _ => rfl
    · rfl
  | showFrom i =>
    simp only [handle, onChannel]
    split_ifs <;> rfl

/-- A request that does not call the backend does the same on every backend. -/
theorem handle_withBackend (s : Strip β) (b : γ) {q : Request} (quiet : q.call? = none) :
    (s.withBackend b).handle q = (s.handle q).lift fun t => t.withBackend b := by
  cases q with
  | write w => rfl
  | brightness b => rfl
  | activate i =>
    simp only [handle, activate_withBackend]
    cases s.activate i <;> rfl
  | «show» => cases quiet
  | wait => cases quiet
  | writeTo i w =>
    simp only [handle, onChannel]
    split_ifs <;> rfl
  | brightnessOf i b =>
    simp only [handle, onChannel]
    split_ifs <;> rfl
  | showFrom i =>
    by_cases h : i < channelCount
    · simp [Request.call?, h] at quiet
    · simp only [handle, onChannel, dif_neg h]
      rfl

/-! ## Setting up -/

/-- A strip that was just set up: all LEDs are off. -/
def blank (config : StripConfig) (active : ChannelIndex) (b : β) : Strip β :=
  ⟨b, config.freq, config.dma, config.channels.map .blank, active⟩

/-- A strip is set up exactly when its configuration is valid and the backend takes it; it draws on
the first channel that is used. -/
theorem create_of_valid {config : StripConfig} (valid : config.validate = .ok ())
    {active : ChannelIndex} (first : config.firstUsed? = some active) (b : β) :
    (create config b).state = (Backend.init config b).state ∧
      (create config b).result = (Backend.init config b).result.map fun _ =>
        blank config active (Backend.init config b).state := by
  unfold create
  rw [valid, first]
  dsimp only
  split
  · next e failed => simp [failed, Except.map]
  · next done => simp [done, Except.map, blank]

theorem create_of_invalid {config : StripConfig} {e : Error} (invalid : config.validate = .error e)
    (b : β) : create config b = .silent b (.error e) := by
  unfold create
  rw [invalid]

end

end LedStrip.Strip
