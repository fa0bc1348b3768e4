import LedStrip.Config
import Mathlib.Order.Fin.Basic
import Mathlib.Tactic.SplitIfs

/-!
# Configurations channel by channel

What there is once for each channel is a vector, read by channel index.  How the ways to make such
vectors read, and what validation accepts.

`validate` stops at the first fault, so it accepts a configuration exactly when each of its checks
passes.  Two consequences carry the rest: the counts of a valid configuration are small
(`count_le_of_valid`), and one of its channels is used (`exists_firstUsed_of_valid`).
-/

namespace LedStrip

/-! ## Vectors by index -/

section Vectors

variable {α β : Type} {n : Nat}

@[simp] theorem get_set (xs : Vector α n) (i j : Fin n) (x : α) :
    (xs.set i x i.isLt).get j = if i = j then x else xs.get j := by
  refine (Vector.getElem_set i.isLt j.isLt).trans ?_
  simp only [Fin.ext_iff]
  rfl

@[simp] theorem get_map (f : α → β) (xs : Vector α n) (i : Fin n) :
    (xs.map f).get i = f (xs.get i) :=
  Vector.getElem_map f i.isLt

@[simp] theorem get_ofFn (f : Fin n → α) (i : Fin n) : (Vector.ofFn f).get i = f i :=
  Vector.getElem_ofFn i.isLt

@[simp] theorem get_replicate (x : α) (i : Fin n) : (Vector.replicate n x).get i = x :=
  Vector.getElem_replicate i.isLt

theorem getElem?_toList (xs : Vector α n) (i : Fin n) : xs.toList[i.val]? = some (xs.get i) := by
  rw [Vector.getElem?_toList, Vector.getElem?_eq_getElem i.isLt]
  rfl

theorem getElem?_map_toList (f : α → β) (xs : Vector α n) (i : Fin n) :
    (xs.toList.map f)[i.val]? = some (f (xs.get i)) :=
  (List.getElem?_map ..).trans (congrArg (Option.map f) (getElem?_toList xs i))

theorem ext_get {xs ys : Vector α n} (same : ∀ i, xs.get i = ys.get i) : xs = ys :=
  Vector.ext fun i h => same ⟨i, h⟩

end Vectors

namespace StripConfig

/-! ## What validation accepts -/

theorem validateChannel_eq_ok_iff (i : ChannelIndex) (channel : ChannelConfig) :
    validateChannel i channel = .ok () ↔
      channel.count.toNat ≤ maxCount ∧ pinFits i channel = true := by
  unfold validateChannel
  split_ifs with large fits
  · simp [Nat.not_le.2 large]
  · simp [Nat.le_of_not_lt large, fits]
  · simp [fits]

/-- A configuration is valid when no check of it fails. -/
theorem validate_eq_ok_iff (config : StripConfig) :
    config.validate = .ok () ↔
      (minFreq ≤ config.freq ∧ config.freq ≤ maxFreq) ∧ config.dma ≤ maxDma ∧
      (∀ i : ChannelIndex, validateChannel i (config.channels.get i) = .ok ()) ∧
      config.firstUsed?.isSome = true := by
  unfold validate
  simp only [bind, Except.bind, throw, throwThe, MonadExceptOf.throw, pure, Except.pure,
    Fin.forall_fin_two]
  by_cases freq : config.freq < minFreq ∨ maxFreq < config.freq
  · rw [if_pos freq, UInt32.le_iff_toNat_le, UInt32.le_iff_toNat_le]
    rw [UInt32.lt_iff_toNat_lt, UInt32.lt_iff_toNat_lt] at freq
    simp only [reduceCtorEq, false_iff]
    omega
  by_cases dma : maxDma < config.dma
  · simp [freq, dma, UInt8.not_le.2 dma]
  rw [if_neg freq, if_neg dma]
  rw [not_or, UInt32.not_lt, UInt32.not_lt] at freq
  rw [UInt8.not_lt] at dma
  rcases first : validateChannel 0 (config.channels.get 0) with e | ⟨⟩
  · simp
  rcases second : validateChannel 1 (config.channels.get 1) with e | ⟨⟩
  · simp
  cases used : config.firstUsed? <;> simp [freq, dma]

theorem count_le_of_valid {config : StripConfig} (valid : config.validate = .ok ())
    (i : ChannelIndex) : (config.channels.get i).count.toNat ≤ maxCount :=
  ((validateChannel_eq_ok_iff i _).1 ((validate_eq_ok_iff config).1 valid |>.2.2.1 i)).1

theorem exists_firstUsed_of_valid {config : StripConfig} (valid : config.validate = .ok ()) :
    ∃ i, config.firstUsed? = some i :=
  Option.isSome_iff_exists.1 ((validate_eq_ok_iff config).1 valid).2.2.2

end StripConfig

end LedStrip
