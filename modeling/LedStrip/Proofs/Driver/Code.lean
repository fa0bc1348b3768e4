import LedStrip.Error

/-!
# What codes mean

A call went well exactly when it is answered with zero.  Any other answer is kept: a number is
documented, with a meaning of its own, or it is not, and means itself (`ofRaw_cases`).  So the
meaning of a number gives the number back (`raw_ofRaw`), and the number of a meaning gives the
meaning back unless it is a documented number that is taken for another one (`ofRaw_raw_eq_iff`).
-/

namespace LedStrip.Driver

theorem check_of_ne_zero {code : Int32} (failed : code ≠ 0) (call : Call) :
    check call code = .error (.driver call (.ofRaw code)) :=
  if_neg failed

theorem check_eq_ok_iff (call : Call) (code : Int32) : check call code = .ok () ↔ code = 0 := by
  constructor
  · intro fine
    by_cases zero : code = 0
    · exact zero
    · rw [check_of_ne_zero zero] at fine
      cases fine
  · intro zero
    exact if_pos zero

/-! ## Documented numbers -/

/-- The numbers that mean a failure by themselves: that of a DMA error, and those of the block. -/
def Code.Documented (code : Int32) : Prop := code = -1 ∨ -28119 ≤ code ∧ code ≤ -28110

theorem toInt_raw_block : ∀ d : Fin Code.block.length,
    (Code.block.get d).raw.toInt = Code.base.toInt - d.val := by
  decide

/-- The numbers of the block are those that have a place in it, counted down from the first one. -/
theorem documented_iff (code : Int32) :
    Code.Documented code ↔ code = -1 ∨
      code ≤ Code.base ∧ (Code.base.toInt - code.toInt).toNat < Code.block.length := by
  have first : Code.base.toInt = -28110 := rfl
  have last : (-28119 : Int32).toInt = -28119 := rfl
  have count : Code.block.length = 10 := rfl
  rw [Code.Documented, and_comm, Int32.le_iff_toInt_le (x := -28119), last, first, count]
  refine or_congr_right (and_congr_right fun below => ?_)
  have down : code.toInt ≤ -28110 := Int32.le_iff_toInt_le.1 below
  omega

/-- A number is that of a DMA error, or it has a place in the block, or it is not documented. -/
theorem ofRaw_cases (code : Int32) :
    (code = -1 ∧ Code.ofRaw code = .dma) ∨
    (Code.Documented code ∧ ∃ d : Fin Code.block.length,
      code.toInt = Code.base.toInt - d.val ∧ Code.ofRaw code = Code.block.get d) ∨
    (¬Code.Documented code ∧ Code.ofRaw code = .other code) := by
  rw [documented_iff, Code.ofRaw]
  by_cases dma : code = -1
  · exact .inl ⟨dma, if_pos dma⟩
  · rw [if_neg dma]
    by_cases below : code ≤ Code.base
    · rw [if_pos below]
      have down : code.toInt ≤ Code.base.toInt := Int32.le_iff_toInt_le.1 below
      by_cases listed : (Code.base.toInt - code.toInt).toNat < Code.block.length
      · refine .inr (.inl ⟨.inr ⟨below, listed⟩, ⟨_, listed⟩, ?_, ?_⟩)
        · dsimp only
          omega
        · rw [List.getElem?_eq_getElem listed]
          rfl
      · refine .inr (.inr ⟨fun known => listed (known.resolve_left dma).2, ?_⟩)
        rw [List.getElem?_eq_none (Nat.le_of_not_lt listed)]
        rfl
    · exact .inr (.inr ⟨fun known => below (known.resolve_left dma).1, if_neg below⟩)

/-! ## There and back -/

/-- No number is lost in what it means. -/
theorem raw_ofRaw (code : Int32) : (Code.ofRaw code).raw = code := by
  rcases ofRaw_cases code with ⟨dma, means⟩ | ⟨-, d, place, means⟩ | ⟨-, means⟩
  · rw [means, dma]
    rfl
  · rw [means]
    exact Int32.toInt_inj.1 ((toInt_raw_block d).trans place.symm)
  · rw [means]
    rfl

theorem ofRaw_injective : Function.Injective Code.ofRaw :=
  Function.LeftInverse.injective raw_ofRaw

theorem other_not_mem_block (code : Int32) : .other code ∉ Code.block := by
  simp [Code.block]

/-- A number is an unknown one exactly when it is not documented. -/
theorem ofRaw_eq_other_iff (code : Int32) :
    Code.ofRaw code = .other code ↔ ¬Code.Documented code := by
  rcases ofRaw_cases code with ⟨dma, means⟩ | ⟨known, d, -, means⟩ | ⟨unknown, means⟩
  · rw [means]
    exact iff_of_false (fun same => by cases same) (not_not_intro (.inl dma))
  · rw [means]
    refine iff_of_false (fun same => other_not_mem_block code ?_) (not_not_intro known)
    rw [← same]
    exact List.get_mem Code.block d
  · exact iff_of_true means unknown

/-- Meanings come back from their numbers, but for documented numbers taken for unknown ones. -/
theorem ofRaw_raw_eq_iff (c : Code) :
    Code.ofRaw c.raw = c ↔ ∀ code, c = .other code → ¬Code.Documented code := by
  cases c with
  | other code =>
    refine (ofRaw_eq_other_iff code).trans ⟨fun unknown code' same => ?_, fun all => all code rfl⟩
    cases same
    exact unknown
  | _ => exact iff_of_true rfl (fun _ same => by cases same)

end LedStrip.Driver
