import LedStrip.Proofs.Config.Validation

/-!
# The rules of a valid configuration

Validation is a list of rules that are checked one after the other: the frequency, the DMA channel,
for each channel the number of its LEDs and then its pin, and last that there are LEDs
(`validate_eq_forM`).  So a configuration is valid when it keeps all rules
(`validate_eq_ok_iff_keeps`), and otherwise the error is that of the first rule that it breaks
(`validate_eq_error_iff`).
-/

namespace LedStrip

theorem ChannelConfig.isUsed_iff (channel : ChannelConfig) :
    channel.isUsed = true ↔ 0 < channel.count.toNat := by
  rw [isUsed, bne_iff_ne, Nat.pos_iff_ne_zero]
  exact not_congr UInt64.toNat_inj.symm

namespace StripConfig

/-! ## Rules -/

/-- What validation checks. -/
inductive Rule
  | frequency
  | dma
  | count (i : ChannelIndex)
  | pin (i : ChannelIndex)
  | used
  deriving DecidableEq, Repr

namespace Rule

/-- The rules in the order in which they are checked, those of the channels one channel after the
other. -/
def all : List Rule :=
  [.frequency, .dma] ++ (List.finRange channelCount).flatMap (fun i => [.count i, .pin i]) ++
    [.used]

/-- The error for a configuration that breaks a rule. -/
def fault (c : StripConfig) : Rule → Error
  | frequency => .invalidFrequency c.freq
  | dma => .invalidDma c.dma
  | count i => .invalidCount i (c.channels.get i).count.toNat
  | pin i => .invalidGpio i (c.channels.get i).gpio
  | used => .noChannels

end Rule

/-- The settings that a rule allows. -/
def Keeps (c : StripConfig) : Rule → Prop
  | .frequency => 400000 ≤ c.freq.toNat ∧ c.freq.toNat ≤ 800000
  | .dma => c.dma.toNat ≤ 14
  | .count i => (c.channels.get i).count.toNat ≤ 65536
  | .pin i => (c.channels.get i).gpio ∈ gpios.get i ∧
      (0 < (c.channels.get i).count.toNat → (c.channels.get i).gpio ≠ 0)
  | .used => ∃ i, 0 < (c.channels.get i).count.toNat

instance (c : StripConfig) : DecidablePred c.Keeps
  | .frequency => inferInstanceAs (Decidable (_ ∧ _))
  | .dma => inferInstanceAs (Decidable (_ ≤ _))
  | .count _ => inferInstanceAs (Decidable (_ ≤ _))
  | .pin _ => inferInstanceAs (Decidable (_ ∧ (_ → _)))
  | .used => inferInstanceAs (Decidable (∃ _, _))

/-- Check one rule. -/
def check (c : StripConfig) (r : Rule) : Except Error Unit :=
  if c.Keeps r then .ok () else .error (r.fault c)

variable {c : StripConfig}

theorem check_of_keeps {r : Rule} (kept : c.Keeps r) : c.check r = .ok () := if_pos kept

theorem check_of_not_keeps {r : Rule} (broken : ¬c.Keeps r) : c.check r = .error (r.fault c) :=
  if_neg broken

/-! ## Checking one rule after the other -/

theorem forM_check_of_keeps {rules : List Rule} (kept : ∀ r ∈ rules, c.Keeps r) :
    forM rules c.check = .ok () := by
  induction rules with
  | nil => rfl
  | cons r rules ih =>
    obtain ⟨here, rest⟩ := List.forall_mem_cons.1 kept
    rw [List.forM_cons, check_of_keeps here]
    exact ih rest

/-- Either all rules are kept, or one is broken behind rules that are kept. -/
theorem keeps_or_broken (c : StripConfig) (rules : List Rule) :
    (∀ r ∈ rules, c.Keeps r) ∨ ∃ before broken after, rules = before ++ broken :: after ∧
      (∀ r ∈ before, c.Keeps r) ∧ ¬c.Keeps broken := by
  induction rules with
  | nil => exact .inl fun _ mem => absurd mem List.not_mem_nil
  | cons r rules ih =>
    by_cases here : c.Keeps r
    · rcases ih with rest | ⟨before, broken, after, rfl, kept, fails⟩
      · exact .inl (List.forall_mem_cons.2 ⟨here, rest⟩)
      · exact .inr ⟨r :: before, broken, after, rfl, List.forall_mem_cons.2 ⟨here, kept⟩, fails⟩
    · exact .inr ⟨[], r, rules, rfl, fun _ mem => absurd mem List.not_mem_nil, here⟩

theorem forM_check_of_broken {before after : List Rule} {broken : Rule}
    (kept : ∀ r ∈ before, c.Keeps r) (fails : ¬c.Keeps broken) :
    forM (before ++ broken :: after) c.check = .error (broken.fault c) := by
  rw [List.forM_append, forM_check_of_keeps kept, List.forM_cons, check_of_not_keeps fails]
  rfl

/-! ## Validation -/

theorem pinFits_iff (i : ChannelIndex) :
    pinFits i (c.channels.get i) = true ↔ c.Keeps (.pin i) := by
  simp only [pinFits, Keeps, ← ChannelConfig.isUsed_iff, Bool.and_eq_true, Bool.not_eq_true',
    Bool.and_eq_false_imp, List.contains_iff_mem, beq_eq_false_iff_ne]

theorem firstUsed_isSome_iff : c.firstUsed?.isSome = true ↔ c.Keeps .used := by
  simp only [firstUsed?, List.find?_isSome, List.mem_finRange, true_and, ChannelConfig.isUsed_iff,
    Keeps]

theorem validateChannel_eq_forM (i : ChannelIndex) :
    validateChannel i (c.channels.get i) = forM [.count i, .pin i] c.check := by
  simp only [List.forM_cons, List.forM_nil, check, ← pinFits_iff]
  unfold validateChannel
  by_cases large : maxCount < (c.channels.get i).count.toNat
  · rw [if_pos large, if_neg (show ¬c.Keeps (.count i) from Nat.not_le.2 large)]
    rfl
  · rw [if_neg large, if_pos (show c.Keeps (.count i) from Nat.le_of_not_lt large)]
    split_ifs <;> rfl

/-- Validation checks the rules one after the other. -/
theorem validate_eq_forM (c : StripConfig) : c.validate = forM Rule.all c.check := by
  have frequency : c.check .frequency =
      if c.freq < minFreq ∨ maxFreq < c.freq then .error (.invalidFrequency c.freq)
      else .ok () := by
    have outside : (c.freq < minFreq ∨ maxFreq < c.freq) ↔ ¬c.Keeps .frequency := by
      rw [UInt32.lt_iff_toNat_lt, UInt32.lt_iff_toNat_lt, Keeps,
        Decidable.not_and_iff_not_or_not, Nat.not_le, Nat.not_le]
      rfl
    simp only [check, outside, ite_not, Rule.fault]
  have dma : c.check .dma = if maxDma < c.dma then .error (.invalidDma c.dma) else .ok () := by
    have outside : maxDma < c.dma ↔ ¬c.Keeps .dma := by
      rw [UInt8.lt_iff_toNat_lt, Keeps, Nat.not_le]
      rfl
    simp only [check, outside, ite_not, Rule.fault]
  have used : c.check .used = if c.firstUsed?.isNone then .error .noChannels else .ok () := by
    have none : c.firstUsed?.isNone = true ↔ ¬c.Keeps .used := by
      rw [← firstUsed_isSome_iff, Option.isNone_iff_eq_none, Option.not_isSome_iff_eq_none]
    simp only [check, none, ite_not, Rule.fault]
  have rules : Rule.all = .frequency :: .dma :: ([.count 0, .pin 0] ++
    ([.count 1, .pin 1] ++ [.used])) := rfl
  rw [rules, List.forM_cons, List.forM_cons, List.forM_append, List.forM_append,
    ← validateChannel_eq_forM, ← validateChannel_eq_forM, List.forM_cons, List.forM_nil]
  simp only [frequency, dma, used]
  unfold validate
  split_ifs <;> rfl

/-- Each channel is checked like the other. -/
theorem forall_keeps_iff : (∀ r ∈ Rule.all, c.Keeps r) ↔ c.Keeps .frequency ∧ c.Keeps .dma ∧
    (∀ i, c.Keeps (.count i) ∧ c.Keeps (.pin i)) ∧ c.Keeps .used := by
  simp only [Rule.all, List.forall_mem_append, List.forall_mem_cons, List.forall_mem_flatMap,
    List.not_mem_nil, List.mem_finRange, false_imp_iff, implies_true, true_imp_iff, and_true,
    and_assoc]

theorem validate_eq_ok_iff_keeps : c.validate = .ok () ↔ ∀ r ∈ Rule.all, c.Keeps r := by
  rw [validate_eq_forM]
  refine ⟨fun valid => ?_, forM_check_of_keeps⟩
  rcases c.keeps_or_broken Rule.all with kept | ⟨before, broken, after, split, kept, fails⟩
  · exact kept
  · rw [split, forM_check_of_broken kept fails] at valid
    cases valid

/-- The error is that of the first rule that is broken. -/
theorem validate_eq_error_iff (e : Error) : c.validate = .error e ↔
    ∃ before broken after, Rule.all = before ++ broken :: after ∧ (∀ r ∈ before, c.Keeps r) ∧
      ¬c.Keeps broken ∧ e = broken.fault c := by
  constructor
  · intro invalid
    rcases c.keeps_or_broken Rule.all with kept | ⟨before, broken, after, split, kept, fails⟩
    · rw [validate_eq_ok_iff_keeps.2 kept] at invalid
      cases invalid
    · refine ⟨before, broken, after, split, kept, fails, ?_⟩
      rw [validate_eq_forM, split, forM_check_of_broken kept fails] at invalid
      exact (Except.error.inj invalid).symm
  · rintro ⟨before, broken, after, split, kept, fails, rfl⟩
    rw [validate_eq_forM, split, forM_check_of_broken kept fails]

end StripConfig

end LedStrip
