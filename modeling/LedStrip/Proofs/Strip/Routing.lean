import LedStrip.Proofs.Config.Validation
import LedStrip.Proofs.Strip.Run

/-!
# Which channel a move is for

A strip is one thing to the caller but has two channels, and the same request goes to one or the
other depending on what was asked before.  `activeAfter` and `delivered` say from the moves alone
which channel is active and what each channel is asked to do; no strip is involved.  A strip does
exactly that: `active_perform` and `channels_perform` for one move, `run_eq` for any number of them.
-/

namespace LedStrip

/-- The settings of a channel with another brightness. -/
def ChannelConfig.dim (config : ChannelConfig) (b : UInt8) : ChannelConfig :=
  { config with brightness := b }

namespace StripConfig

/-- The same settings with other brightness values. -/
def dimmed (config : StripConfig) (level : ChannelIndex → UInt8) : StripConfig :=
  { config with channels := .ofFn fun c => (config.channels.get c).dim (level c) }

theorem get_dimmed (config : StripConfig) (level : ChannelIndex → UInt8) (c : ChannelIndex) :
    (config.dimmed level).channels.get c = (config.channels.get c).dim (level c) :=
  get_ofFn ..

/-- Validation does not look at the brightness. -/
theorem validate_dimmed (config : StripConfig) (level : ChannelIndex → UInt8) :
    (config.dimmed level).validate = config.validate := by
  have channel (c : ChannelIndex) : validateChannel c ((config.dimmed level).channels.get c) =
      validateChannel c (config.channels.get c) := by
    rw [get_dimmed]
    rfl
  have used : (config.dimmed level).firstUsed? = config.firstUsed? := by
    simp only [firstUsed?, get_dimmed]
    rfl
  simp only [validate, channel, used]
  rfl

theorem ext_get {a b : StripConfig} (freq : a.freq = b.freq) (dma : a.dma = b.dma)
    (channels : ∀ c : ChannelIndex, a.channels.get c = b.channels.get c) : a = b := by
  obtain ⟨f, d, cs⟩ := a
  obtain ⟨f', d', cs'⟩ := b
  obtain rfl : cs = cs' := LedStrip.ext_get channels
  obtain rfl : f = f' := freq
  obtain rfl : d = d' := dma
  rfl

end StripConfig

namespace Strip

/-! ## What the moves say -/

section

variable {α : Type} (used : ChannelIndex → Bool)

/-- The channel that a move makes the active one, if that is a channel with LEDs. -/
def Move.chosen? : Move → Option ChannelIndex
  | .ask (.activate i) =>
    if h : i < channelCount then if used ⟨i, h⟩ then some ⟨i, h⟩ else none else none
  | _ => none

/-- The channel that is active after some moves: the one that was chosen last. -/
def activeAfter (active : ChannelIndex) (moves : List Move) : ChannelIndex :=
  (moves.filterMap (Move.chosen? used)).getLast?.getD active

/-- What a move draws, and on which channel. -/
def Move.write? (active : ChannelIndex) : Move → Option (ChannelIndex × PixelBuffer.Write)
  | .ask (.write w) => some (active, w)
  | .ask (.writeTo i w) => if h : i < channelCount then some (⟨i, h⟩, w) else none
  | _ => none

/-- The brightness that a move gives, and to which channel. -/
def Move.brightness? (active : ChannelIndex) : Move → Option (ChannelIndex × UInt8)
  | .ask (.brightness b) => some (active, b)
  | .ask (.brightnessOf i b) => if h : i < channelCount then some (⟨i, h⟩, b) else none
  | _ => none

/-- What a move brings to one channel. -/
def brought (what : ChannelIndex → Move → Option (ChannelIndex × α)) (c active : ChannelIndex)
    (m : Move) : Option α :=
  (what active m).bind fun (i, a) => if i = c then some a else none

/-- What moves bring to one channel, in order: each of them is made while the channel is active
that those before it chose. -/
def delivered (what : ChannelIndex → Move → Option (ChannelIndex × α)) (c : ChannelIndex) :
    ChannelIndex → List Move → List α
  | _, [] => []
  | active, m :: rest =>
    (brought what c active m).toList ++ delivered what c (activeAfter used active [m]) rest

theorem activeAfter_singleton (active : ChannelIndex) (m : Move) :
    activeAfter used active [m] = (m.chosen? used).getD active := by
  simp only [activeAfter, List.filterMap_cons, List.filterMap_nil]
  cases m.chosen? used <;> rfl

theorem activeAfter_cons (active : ChannelIndex) (m : Move) (rest : List Move) :
    activeAfter used active (m :: rest) = activeAfter used (activeAfter used active [m]) rest := by
  rw [activeAfter_singleton, activeAfter, activeAfter, List.filterMap_cons]
  cases m.chosen? used with
  | none => rfl
  | some i => simp [List.getLast?_cons]

/-- The channel that is active has LEDs if it had at first. -/
theorem used_activeAfter {active : ChannelIndex} (first : used active = true) (moves : List Move) :
    used (activeAfter used active moves) = true := by
  unfold activeAfter
  cases last : (moves.filterMap (Move.chosen? used)).getLast? with
  | none => exact first
  | some i =>
    obtain ⟨m, -, chosen⟩ := List.mem_filterMap.1 (List.mem_of_getLast? last)
    unfold Move.chosen? at chosen
    split at chosen
    · split_ifs at chosen with inside has
      obtain rfl := Option.some.inj chosen
      exact has
    · cases chosen

end

/-! ## One move -/

/-- A channel after some writes and changes of brightness. -/
def receive (c : Channel) (writes : List PixelBuffer.Write) (levels : List UInt8) : Channel :=
  ⟨levels.foldl .dim c.config, writes.foldl (fun p w => w.apply p) c.pixels⟩

theorem isUsed_receive (c : Channel) (writes : List PixelBuffer.Write) (levels : List UInt8) :
    (receive c writes levels).config.isUsed = c.config.isUsed := by
  simp only [receive]
  induction levels generalizing c with
  | nil => rfl
  | cons b levels ih => exact ih ⟨c.config.dim b, c.pixels⟩

theorem receive_append (c : Channel) (writes writes' : List PixelBuffer.Write)
    (levels levels' : List UInt8) :
    receive c (writes ++ writes') (levels ++ levels') =
      receive (receive c writes levels) writes' levels' := by
  simp only [receive, List.foldl_append]

variable {β : Type} [Backend β] [Scripted β]

/-- Whether a channel has LEDs. -/
def lit (s : Strip β) (c : ChannelIndex) : Bool := (s.channels.get c).config.isUsed

/-- A move changes which channel is active, if it chooses one, and never the signal. -/
theorem active_perform (s : Strip β) (m : Move) :
    (s.perform m).state.active = activeAfter s.lit s.active [m] ∧
      (s.perform m).state.freq = s.freq ∧ (s.perform m).state.dma = s.dma := by
  rw [activeAfter_singleton]
  cases m with
  | ask q =>
    cases q with
    | activate i =>
      simp only [perform, handle, activate, Move.chosen?]
      by_cases inside : i < channelCount
      · rw [dif_pos inside, dif_pos inside]
        by_cases has : (s.channels.get ⟨i, inside⟩).config.isUsed = true
        · have lit : s.lit ⟨i, inside⟩ = true := has
          rw [if_pos has, if_pos lit]
          exact ⟨rfl, rfl, rfl⟩
        · have dark : ¬s.lit ⟨i, inside⟩ = true := has
          rw [if_neg has, if_neg dark]
          exact ⟨rfl, rfl, rfl⟩
      · rw [dif_neg inside, dif_neg inside]
        exact ⟨rfl, rfl, rfl⟩
    | writeTo i w | brightnessOf i b | showFrom i =>
      simp only [perform, handle, onChannel]
      split_ifs <;> exact ⟨rfl, rfl, rfl⟩
    | _ => exact ⟨rfl, rfl, rfl⟩
  | _ => exact ⟨rfl, rfl, rfl⟩

theorem channels_perform (s : Strip β) (m : Move) (c : ChannelIndex) :
    (s.perform m).state.channels.get c =
      receive (s.channels.get c) (brought Move.write? c s.active m).toList
        (brought Move.brightness? c s.active m).toList := by
  cases m with
  | ask q =>
    cases q with
    | write w =>
      refine (channels_modify ..).trans ?_
      simp only [brought, Move.write?, Option.bind_some]
      split_ifs <;> rfl
    | brightness b =>
      refine (channels_modify ..).trans ?_
      simp only [brought, Move.brightness?, Option.bind_some]
      split_ifs <;> rfl
    | activate i =>
      simp only [perform, handle, activate]
      split_ifs <;> rfl
    | «show» => rfl
    | wait => rfl
    | writeTo i w =>
      by_cases inside : i < channelCount
      · simp only [perform, handle, onChannel, brought, Move.write?, dif_pos inside,
          Option.bind_some]
        refine (channels_modify ..).trans ?_
        split_ifs <;> rfl
      · simp only [perform, handle, onChannel, brought, Move.write?, dif_neg inside]
        rfl
    | brightnessOf i b =>
      by_cases inside : i < channelCount
      · simp only [perform, handle, onChannel, brought, Move.brightness?, dif_pos inside,
          Option.bind_some]
        refine (channels_modify ..).trans ?_
        split_ifs <;> rfl
      · simp only [perform, handle, onChannel, brought, Move.brightness?, dif_neg inside]
        rfl
    | showFrom i =>
      simp only [perform, handle, onChannel]
      split_ifs <;> rfl
  | read q => rfl
  | answer call code => rfl

/-! ## Any number of moves -/

theorem lit_perform (s : Strip β) (m : Move) : (s.perform m).state.lit = s.lit := by
  funext c
  rw [lit, channels_perform, isUsed_receive]
  rfl

/-- What a strip is after some moves, told from the moves. -/
theorem run_eq (s : Strip β) (moves : List Move) :
    (s.run moves).state.active = activeAfter s.lit s.active moves ∧
    ((s.run moves).state.freq = s.freq ∧ (s.run moves).state.dma = s.dma) ∧
    ∀ c, (s.run moves).state.channels.get c =
      receive (s.channels.get c) (delivered s.lit Move.write? c s.active moves)
        (delivered s.lit Move.brightness? c s.active moves) := by
  induction moves generalizing s with
  | nil => exact ⟨rfl, ⟨rfl, rfl⟩, fun c => rfl⟩
  | cons m rest ih =>
    obtain ⟨active, ⟨freq, dma⟩, channels⟩ := ih (s.perform m).state
    obtain ⟨active', freq', dma'⟩ := s.active_perform m
    rw [lit_perform, active'] at active channels
    rw [state_run_cons]
    refine ⟨?_, ⟨freq.trans freq', dma.trans dma'⟩, fun c => ?_⟩
    · rw [active, ← activeAfter_cons]
    · rw [channels, channels_perform, ← receive_append]
      rfl

theorem foldl_dim (config : ChannelConfig) (levels : List UInt8) :
    levels.foldl .dim config = config.dim (levels.getLast?.getD config.brightness) := by
  induction levels generalizing config with
  | nil => rfl
  | cons b levels ih =>
    rw [List.foldl_cons, ih, List.getLast?_cons]
    rfl

/-- What a strip is told from what was asked of it: the active channel has LEDs and is the one that
was chosen last; each channel has the LEDs that just its own writes make of dark ones, and the
brightness it was given last; nothing else of the settings ever changes, so they stay valid. -/
theorem moves_routed {β : Type} [Backend β] [Scripted β] {config : StripConfig}
    (valid : config.validate = .ok ()) {b : β} (up : (Backend.init config b).result = .ok ()) :
    ∃ s first, (create config b).result = .ok s ∧ config.firstUsed? = some first ∧
      ∀ moves : List Move,
        let lit (c : ChannelIndex) := (config.channels.get c).isUsed
        let t := (s.run moves).state
        let level (c : ChannelIndex) :=
          (delivered lit Move.brightness? c first moves).getLast?.getD
            (config.channels.get c).brightness
        t.active = activeAfter lit first moves ∧
        lit t.active = true ∧
        (∀ c, (t.channels.get c).pixels = (delivered lit Move.write? c first moves).foldl
          (fun p w => w.apply p) (.blank (config.channels.get c).count.toNat)) ∧
        (∀ c, (t.channels.get c).brightness = level c) ∧
        t.config = config.dimmed level ∧
        t.config.validate = .ok () := by
  obtain ⟨first, found⟩ := StripConfig.exists_firstUsed_of_valid valid
  have works := (create_of_valid valid found b).2
  rw [up] at works
  refine ⟨_, first, works, found, fun moves => ?_⟩
  intro lit t level
  have begun (c : ChannelIndex) :
      (blank config first (Backend.init config b).state).channels.get c =
        .blank (config.channels.get c) :=
    get_map ..
  have same : (blank config first (Backend.init config b).state).lit = lit :=
    funext fun c => congrArg (·.config.isUsed) (begun c)
  obtain ⟨active, ⟨freq, dma⟩, channels⟩ :=
    run_eq (blank config first (Backend.init config b).state) moves
  rw [same] at active channels
  have settings (c : ChannelIndex) :
      (t.channels.get c).config = (config.channels.get c).dim (level c) := by
    rw [channels, receive, foldl_dim, begun]
    rfl
  have all : t.config = config.dimmed level :=
    StripConfig.ext_get freq dma fun c => by
      rw [StripConfig.get_dimmed, ← settings c]
      exact get_map ..
  refine ⟨active, ?_, fun c => ?_, fun c => ?_, all, ?_⟩
  · rw [active]
    refine used_activeAfter lit ?_ moves
    exact List.find?_some found
  · rw [channels, receive, begun]
    rfl
  · rw [Channel.brightness, settings]
    rfl
  · rw [all, StripConfig.validate_dimmed, valid]

/-- A switch to a channel that does not exist leaves the first one active, the next one does not;
the view of the first channel is not affected by it. -/
theorem moves_routed_switched :
    let config : StripConfig := { StripConfig.default with channels := #v[.of 2 18, .of 1 13] }
    let moves : List Move :=
      [.ask (.activate 2), .ask (.write (.setWord 0 7)), .ask (.activate 1),
        .ask (.write (.setWord 0 8)), .ask (.brightness 9), .ask (.writeTo 0 (.setWord 1 6))]
    config.validate = .ok () ∧ (Backend.init config Simulator.fresh).result = .ok () ∧
      ∃ s, (create config Simulator.fresh).result = .ok s ∧
        let t := (s.run moves).state
        t.active = 1 ∧ (t.channels.get 0).pixels = ⟨#[7, 6]⟩ ∧ (t.channels.get 1).pixels = ⟨#[8]⟩ ∧
        (t.channels.get 0).brightness = 255 ∧ (t.channels.get 1).brightness = 9 := by
  intro config moves
  have valid : config.validate = .ok () := rfl
  obtain ⟨s, first, works, found, told⟩ := moves_routed valid (b := Simulator.fresh) rfl
  obtain rfl : 0 = first := Option.some.inj found
  obtain ⟨active, -, pixels, brightness, -⟩ := told moves
  exact ⟨valid, rfl, s, works, active, pixels 0, pixels 1, brightness 0, brightness 1⟩

end Strip

end LedStrip
