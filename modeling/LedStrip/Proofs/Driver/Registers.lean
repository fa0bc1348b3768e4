import LedStrip.Driver.Registers
import LedStrip.Proofs.Config.Validation

/-!
# What taking over a configuration does

If all counts fit the driver's integers, the registers hold the configuration and point to no LEDs
(`load_of_counts_le`), whatever they held before.  Otherwise taking over stops half way: then a
channel points to no LEDs any more, or to the same ones with the same count as before
(`leds_load`).
-/

namespace LedStrip.Driver

/-! ## One channel -/

namespace ChannelRegisters

/-- The settings of a channel in the driver's terms, before LEDs are made for it. -/
def of (c : ChannelConfig) : ChannelRegisters where
  gpio := c.gpio.toNat
  invert := if c.invert then 1 else 0
  count := c.count.toNat
  brightness := c.brightness.toNat
  stripType := c.stripType.raw.toNat
  leds := none

theorem load_of_count_le {c : ChannelConfig} (fits : c.count.toNat ≤ maxCount)
    (r : ChannelRegisters) (index : ChannelIndex) : r.load index c = (of c, .ok ()) := by
  unfold load
  rw [if_neg (Nat.not_lt.2 fits)]
  rfl

theorem load_of_count_gt {c : ChannelConfig} (large : maxCount < c.count.toNat)
    (r : ChannelRegisters) (index : ChannelIndex) :
    (r.load index c).2 = .error (.invalidCount index c.count.toNat) ∧
      (r.load index c).1.leds = r.leds ∧ (r.load index c).1.count = r.count := by
  unfold load
  rw [if_pos large]
  exact ⟨rfl, rfl, rfl⟩

/-- Taking over a channel leaves it without LEDs, or with the same ones. -/
theorem leds_load (r : ChannelRegisters) (index : ChannelIndex) (c : ChannelConfig) :
    (r.load index c).1.leds = none ∨
      (r.load index c).1.leds = r.leds ∧ (r.load index c).1.count = r.count := by
  by_cases fits : c.count.toNat ≤ maxCount
  · rw [load_of_count_le fits]
    exact .inl rfl
  · exact .inr (load_of_count_gt (Nat.lt_of_not_le fits) r index).2

end ChannelRegisters

/-! ## All channels -/

namespace Registers

variable {config : StripConfig}

/-- A configuration in the driver's terms, before LEDs are made. -/
def of (config : StripConfig) : Registers :=
  ⟨config.freq, config.dma.toNat, config.channels.map .of⟩

theorem ext_channels {r r' : Registers} (freq : r.freq = r'.freq) (dma : r.dma = r'.dma)
    (channels : ∀ i : ChannelIndex, r.channels.get i = r'.channels.get i) : r = r' := by
  have same : r.channels = r'.channels := ext_get channels
  cases r
  cases r'
  simp_all

/-- What is taken over channel by channel, as long as every count fits. -/
theorem loadChannels_of_counts_le (indices : List ChannelIndex)
    (fits : ∀ i ∈ indices, (config.channels.get i).count.toNat ≤ ChannelRegisters.maxCount)
    (r : Registers) :
    (r.loadChannels config indices).2 = .ok () ∧
      (r.loadChannels config indices).1.freq = r.freq ∧
      (r.loadChannels config indices).1.dma = r.dma ∧
      ∀ j : ChannelIndex, (r.loadChannels config indices).1.channels.get j =
        if j ∈ indices then .of (config.channels.get j) else r.channels.get j := by
  induction indices generalizing r with
  | nil => simp [loadChannels]
  | cons i rest ih =>
    rw [List.forall_mem_cons] at fits
    simp only [loadChannels, ChannelRegisters.load_of_count_le fits.1]
    obtain ⟨done, freq, dma, channels⟩ :=
      ih fits.2 { r with channels := r.channels.set i (.of (config.channels.get i)) i.isLt }
    refine ⟨done, freq, dma, fun j => ?_⟩
    rw [channels j, get_set]
    by_cases same : i = j
    · simp [same]
    · simp [same, Ne.symm same]

/-- A configuration whose counts fit is taken over as a whole. -/
theorem load_of_counts_le
    (fits : ∀ i : ChannelIndex, (config.channels.get i).count.toNat ≤ ChannelRegisters.maxCount)
    (r : Registers) : r.load config = (of config, .ok ()) := by
  obtain ⟨done, freq, dma, channels⟩ := loadChannels_of_counts_le
    (List.finRange channelCount) (fun i _ => fits i)
    { r with freq := config.freq, dma := config.dma.toNat }
  refine Prod.ext (ext_channels freq dma fun i => ?_) done
  refine (channels i).trans ?_
  rw [if_pos (List.mem_finRange i)]
  simp [of]

theorem load_of_valid (valid : config.validate = .ok ()) (r : Registers) :
    r.load config = (of config, .ok ()) := by
  apply load_of_counts_le
  intro i
  have small := StripConfig.count_le_of_valid valid i
  have room : StripConfig.maxCount ≤ ChannelRegisters.maxCount := by decide
  omega

theorem result_load_of_valid (valid : config.validate = .ok ()) (r : Registers) :
    (r.load config).2 = .ok () :=
  congrArg Prod.snd (load_of_valid valid r)

theorem counts_le_of_loadChannels {indices : List ChannelIndex} {r : Registers}
    (done : (r.loadChannels config indices).2 = .ok ()) :
    ∀ i ∈ indices, (config.channels.get i).count.toNat ≤ ChannelRegisters.maxCount := by
  induction indices generalizing r with
  | nil => simp
  | cons i rest ih =>
    by_cases fits : (config.channels.get i).count.toNat ≤ ChannelRegisters.maxCount
    · simp only [loadChannels, ChannelRegisters.load_of_count_le fits] at done
      exact List.forall_mem_cons.2 ⟨fits, ih done⟩
    · have refused :=
        (ChannelRegisters.load_of_count_gt (Nat.lt_of_not_le fits) (r.channels.get i) i).1
      simp only [loadChannels, refused, reduceCtorEq] at done

/-- When taking over succeeds, the registers hold the configuration and nothing else. -/
theorem load_of_ok {r : Registers} (done : (r.load config).2 = .ok ()) :
    (r.load config).1 = of config := by
  have fits := counts_le_of_loadChannels done
  rw [load_of_counts_le fun i => fits i (List.mem_finRange i)]

theorem leds_loadChannels (r : Registers) (indices : List ChannelIndex) (j : ChannelIndex) :
    ((r.loadChannels config indices).1.channels.get j).leds = none ∨
      ((r.loadChannels config indices).1.channels.get j).leds = (r.channels.get j).leds ∧
      ((r.loadChannels config indices).1.channels.get j).count = (r.channels.get j).count := by
  induction indices generalizing r with
  | nil => exact .inr ⟨rfl, rfl⟩
  | cons i rest ih =>
    by_cases fits : (config.channels.get i).count.toNat ≤ ChannelRegisters.maxCount
    · simp only [loadChannels, ChannelRegisters.load_of_count_le fits]
      rcases ih { r with channels := r.channels.set i (.of (config.channels.get i)) i.isLt } with
        forgotten | ⟨leds, count⟩
      · exact .inl forgotten
      · rw [leds, count, get_set]
        by_cases same : i = j
        · exact .inl (by rw [if_pos same]; rfl)
        · exact .inr (by rw [if_neg same]; exact ⟨rfl, rfl⟩)
    · obtain ⟨refused, leds, count⟩ :=
        ChannelRegisters.load_of_count_gt (Nat.lt_of_not_le fits) (r.channels.get i) i
      simp only [loadChannels, refused]
      rw [get_set]
      by_cases same : i = j
      · subst same
        exact .inr (by rw [if_pos rfl]; exact ⟨leds, count⟩)
      · exact .inr (by rw [if_neg same]; exact ⟨rfl, rfl⟩)

/-- Even if it stops half way, taking over makes no channel point to other LEDs than before. -/
theorem leds_load (r : Registers) (config : StripConfig) (j : ChannelIndex) :
    ((r.load config).1.channels.get j).leds = none ∨
      ((r.load config).1.channels.get j).leds = (r.channels.get j).leds ∧
      ((r.load config).1.channels.get j).count = (r.channels.get j).count :=
  leds_loadChannels _ _ j

/-! ## Forgetting -/

theorem leds_of (config : StripConfig) (i : ChannelIndex) :
    ((of config).channels.get i).leds = none := by
  simp [of, ChannelRegisters.of]

theorem leds_forget (r : Registers) (i : ChannelIndex) : (r.forget.channels.get i).leds = none := by
  simp [forget, ChannelRegisters.forget]

theorem leds_blank (i : ChannelIndex) : (blank.channels.get i).leds = none := by
  simp [blank, ChannelRegisters.blank]

end Registers

end LedStrip.Driver
