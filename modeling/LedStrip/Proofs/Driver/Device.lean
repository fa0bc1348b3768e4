import LedStrip.Driver.Device
import LedStrip.Proofs.Driver.Registers

/-!
# What the device keeps

The arrays of the device are read through `array?`, and each operation on them has one equation in
its terms: a set-up puts blank arrays at new handles (`channels_allocateAll`, `array?_allocateAll`),
a store copies words onto the front of one array (`array?_store`).  `Backed` says that registers
point only to arrays of the last set-up and tell their lengths.
-/

namespace LedStrip.Driver

/-- A channel after LEDs were made for it, if any were. -/
def ChannelRegisters.allotted (r : ChannelRegisters) (h : Handle) : Option Nat → ChannelRegisters
  | none => r
  | some n => { r with count := n, leds := some h }

namespace Device

theorem lookup_cons (k h : Handle) (p : PixelBuffer) (arrays : List (Handle × PixelBuffer)) :
    List.lookup h ((k, p) :: arrays) = if h = k then some p else List.lookup h arrays := by
  by_cases same : h = k
  · simp [same]
  · rw [if_neg same, List.lookup_cons, beq_false_of_ne same]

/-! ## Setting up -/

/-- How many LEDs the device makes for a channel of these registers, if any array. -/
def allotment (d : Device) (r : Registers) (i : ChannelIndex) : Option Nat :=
  Allocation.size? (d.allocation.get i) (r.channels.get i).count

section

variable (d : Device) (r : Registers)

theorem allocate_eq (i : ChannelIndex) :
    d.allocate r i =
      match d.allotment r i with
      | none => (d, r)
      | some n =>
        let h : Handle := ⟨d.generation, i⟩
        ({ d with arrays := (h, .blank n) :: d.arrays },
          { r with channels := r.channels.set i ((r.channels.get i).allotted h n) i.isLt }) :=
  rfl

theorem channels_allocate (i j : ChannelIndex) :
    (d.allocate r i).2.channels.get j =
      if i = j then
        (r.channels.get j).allotted ⟨d.generation, j⟩ (d.allotment r j)
      else r.channels.get j := by
  rw [allocate_eq]
  by_cases same : i = j
  · subst same
    rw [if_pos rfl]
    cases d.allotment r i with
    | none => rfl
    | some n =>
      dsimp only
      rw [get_set, if_pos rfl]
  · rw [if_neg same]
    cases d.allotment r i with
    | none => rfl
    | some n =>
      dsimp only
      rw [get_set, if_neg same]

theorem array?_allocate (i : ChannelIndex) (h : Handle) :
    (d.allocate r i).1.array? h =
      if h = ⟨d.generation, i⟩ then
        (d.allotment r i).elim (d.array? h) fun n => some (.blank n)
      else d.array? h := by
  rw [allocate_eq]
  cases d.allotment r i with
  | none => simp
  | some n => exact lookup_cons ..

/-- Making LEDs changes nothing of the device but its arrays. -/
theorem allocate_frame (i : ChannelIndex) :
    ∃ arrays, (d.allocate r i).1 = { d with arrays := arrays } := by
  rw [allocate_eq]
  cases d.allotment r i with
  | none => exact ⟨d.arrays, rfl⟩
  | some n => exact ⟨_, rfl⟩

theorem allocateAll_frame (indices : List ChannelIndex) :
    ∃ arrays, (d.allocateAll r indices).1 = { d with arrays := arrays } := by
  induction indices generalizing d r with
  | nil => exact ⟨d.arrays, rfl⟩
  | cons i rest ih =>
    obtain ⟨first, hfirst⟩ := allocate_frame d r i
    obtain ⟨arrays, hrest⟩ := ih (d.allocate r i).1 (d.allocate r i).2
    refine ⟨arrays, hrest.trans ?_⟩
    rw [hfirst]

/-- What one channel gets does not depend on the others. -/
theorem allotment_allocate {i j : ChannelIndex} (apart : i ≠ j) :
    (d.allocate r i).1.allotment (d.allocate r i).2 j = d.allotment r j := by
  obtain ⟨arrays, frame⟩ := allocate_frame d r i
  rw [allotment, channels_allocate, if_neg apart, frame]
  rfl

theorem channels_allocateAll {indices : List ChannelIndex} (nodup : indices.Nodup)
    (j : ChannelIndex) :
    (d.allocateAll r indices).2.channels.get j =
      if j ∈ indices then
        (r.channels.get j).allotted ⟨d.generation, j⟩ (d.allotment r j)
      else r.channels.get j := by
  induction indices generalizing d r with
  | nil => simp [allocateAll]
  | cons i rest ih =>
    obtain ⟨fresh, nodup⟩ := List.nodup_cons.1 nodup
    obtain ⟨first, hfirst⟩ := allocate_frame d r i
    change ((d.allocate r i).1.allocateAll (d.allocate r i).2 rest).2.channels.get j = _
    rw [ih _ _ nodup, channels_allocate]
    by_cases same : i = j
    · subst same
      simp [fresh]
    · rw [allotment_allocate d r same, hfirst]
      simp [same, Ne.symm same]

theorem array?_allocateAll {indices : List ChannelIndex} (nodup : indices.Nodup) (h : Handle) :
    (d.allocateAll r indices).1.array? h =
      if h.generation = d.generation ∧ h.channel ∈ indices then
        (d.allotment r h.channel).elim (d.array? h) fun n => some (.blank n)
      else d.array? h := by
  induction indices generalizing d r with
  | nil => simp [allocateAll]
  | cons i rest ih =>
    obtain ⟨fresh, nodup⟩ := List.nodup_cons.1 nodup
    obtain ⟨first, hfirst⟩ := allocate_frame d r i
    change ((d.allocate r i).1.allocateAll (d.allocate r i).2 rest).1.array? h = _
    rw [ih _ _ nodup, array?_allocate]
    obtain ⟨generation, channel⟩ := h
    by_cases same : i = channel
    · subst same
      simp [fresh, hfirst]
    · rw [allotment_allocate d r same]
      simp [hfirst, Ne.symm same]

end

/-! ## Storing -/

section

variable (d : Device)

theorem lookup_map (f : PixelBuffer → PixelBuffer) (h k : Handle)
    (arrays : List (Handle × PixelBuffer)) :
    (arrays.map fun (k', q) => (k', if k' = h then f q else q)).lookup k =
      if k = h then (arrays.lookup k).map f else arrays.lookup k := by
  induction arrays with
  | nil => simp
  | cons entry rest ih =>
    obtain ⟨k', q⟩ := entry
    rw [List.map_cons, lookup_cons, lookup_cons, ih]
    by_cases here : k = k'
    · subst here
      by_cases same : k = h <;> simp [same]
    · simp [here]

/-- A store to a kept array with room for all the words copies them onto its front. -/
theorem array?_store {h : Handle} {p : PixelBuffer} (kept : d.array? h = some p)
    (words : List UInt32) (k : Handle) :
    (d.store h p.length words).array? k =
      if k = h then some (p.copy words) else d.array? k := by
  have room : (words.take p.length).length ≤ p.length := List.length_take_le ..
  have copied : p.copy (words.take p.length) = p.copy words := by
    simp [PixelBuffer.copy, List.take_take, Nat.min_comm]
  simp only [store, kept, if_pos room]
  refine (lookup_map (·.copy (words.take p.length)) h k d.arrays).trans ?_
  by_cases same : k = h
  · subst same
    rw [if_pos rfl, if_pos rfl, ← copied]
    exact congrArg _ kept
  · rw [if_neg same, if_neg same]
    rfl

theorem store_frame {h : Handle} {p : PixelBuffer} (kept : d.array? h = some p)
    (words : List UInt32) :
    ∃ arrays, d.store h p.length words = { d with arrays := arrays } := by
  have room : (words.take p.length).length ≤ p.length := List.length_take_le ..
  simp only [store, kept, if_pos room]
  exact ⟨_, rfl⟩

/-- The code that a call of this kind is answered with. -/
def code : Call → Int32
  | .init => d.initCode
  | .render => d.renderCode
  | .wait => d.waitCode

/-- A store leaves the answers alone, also where it is a fault. -/
theorem code_store (h : Handle) (count : Nat) (words : List UInt32) (call : Call) :
    (d.store h count words).code call = d.code call := by
  simp only [store]
  split
  · split <;> cases call <;> rfl
  · cases call <;> rfl

end

end Device

/-! ## Arrays that registers point to -/

/-- Registers point only to arrays that the device made at its last set-up and keeps, and they tell
how long these are. -/
def Backed (r : Registers) (d : Device) : Prop :=
  ∀ (i : ChannelIndex) (h : Handle), (r.channels.get i).leds = some h →
    h = ⟨d.generation, i⟩ ∧ ∃ p, d.array? h = some p ∧ (p.length : Int) = (r.channels.get i).count

namespace Backed

variable {r : Registers} {d : Device}

/-- Registers that point to nothing are backed by any device. -/
theorem of_leds_none (unset : ∀ i : ChannelIndex, (r.channels.get i).leds = none) : Backed r d := by
  intro i h pointed
  rw [unset i] at pointed
  cases pointed

/-- Pointers may be dropped, and all but the arrays and the number of set-ups may change. -/
theorem weaken {r' : Registers} {d' : Device} (backed : Backed r d)
    (pointers : ∀ i : ChannelIndex, (r'.channels.get i).leds = none ∨
      (r'.channels.get i).leds = (r.channels.get i).leds ∧
      (r'.channels.get i).count = (r.channels.get i).count)
    (generation : d'.generation = d.generation) (arrays : d'.arrays = d.arrays) :
    Backed r' d' := by
  intro i h pointed
  rcases pointers i with unset | ⟨leds, count⟩
  · rw [unset] at pointed
    cases pointed
  · obtain ⟨here, p, kept, length⟩ := backed i h (leds ▸ pointed)
    refine ⟨generation ▸ here, p, ?_, count ▸ length⟩
    rw [← kept, Device.array?, Device.array?, arrays]

theorem keep {d' : Device} (backed : Backed r d) (generation : d'.generation = d.generation)
    (arrays : d'.arrays = d.arrays) : Backed r d' :=
  backed.weaken (fun _ => .inr ⟨rfl, rfl⟩) generation arrays

end Backed

end LedStrip.Driver
