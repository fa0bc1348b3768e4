import LedStrip.StripType
import Mathlib.Data.List.DropRight

/-!
# Names of strip types

Which texts name a strip type: what is left of the text when the blanks at its ends are removed has
to be the name of the type or one of its part numbers, but for the case of ASCII letters
(`StripType.parse_eq_ok_iff`).
-/

namespace LedStrip

/-! ## Blanks and letter case -/

namespace Text

/-- What is left of a text when the blanks at its ends are removed. -/
inductive Core : List Char → List Char → Prop
  | mk {before core after : List Char} : (∀ c ∈ before, isBlank c = true) →
    (∀ c ∈ after, isBlank c = true) → (∀ c ∈ core.head?, isBlank c = false) →
    (∀ c ∈ core.getLast?, isBlank c = false) → Core (before ++ (core ++ after)) core

/-- The same letters, but for the case of ASCII letters. -/
def SameLetters (cs ds : List Char) : Prop := List.Forall₂ (fun c d => c.toLower = d.toLower) cs ds

variable {before cs ds after core : List Char}

theorem head?_dropWhile (cs : List Char) :
    ∀ c ∈ (cs.dropWhile isBlank).head?, isBlank c = false := by
  intro c mem
  have solid := List.head?_dropWhile_not isBlank cs
  rwa [Option.mem_def.1 mem] at solid

theorem core_trim (cs : List Char) : Core cs (trim cs) := by
  have parts : cs = cs.takeWhile isBlank ++
      (trim cs ++ (cs.dropWhile isBlank).rtakeWhile isBlank) :=
    calc cs
      _ = cs.takeWhile isBlank ++ cs.dropWhile isBlank := List.takeWhile_append_dropWhile.symm
      _ = _ := congrArg _ List.rdropWhile_append_rtakeWhile.symm
  have first : ∀ c ∈ (trim cs).head?, isBlank c = false := by
    obtain ⟨after, whole⟩ := List.rdropWhile_prefix isBlank (l := cs.dropWhile isBlank)
    intro c mem
    refine head?_dropWhile cs c ?_
    rw [← whole, List.head?_append]
    exact Option.or_eq_some_iff.2 (.inl mem)
  have last : ∀ c ∈ (trim cs).getLast?, isBlank c = false := by
    rw [trim, List.getLast?_reverse]
    exact head?_dropWhile _
  have core : Core (cs.takeWhile isBlank ++
      (trim cs ++ (cs.dropWhile isBlank).rtakeWhile isBlank)) (trim cs) :=
    .mk (fun c => List.mem_takeWhile_imp) (fun c => List.mem_rtakeWhile_imp) first last
  rwa [← parts] at core

theorem trim_append (blank : ∀ c ∈ before, isBlank c = true)
    (blank' : ∀ c ∈ after, isBlank c = true) : trim (before ++ (cs ++ after)) = trim cs := by
  have reversed : ∀ c ∈ after.reverse, isBlank c = true :=
    fun c mem => blank' c (List.mem_reverse.1 mem)
  have none : after.dropWhile isBlank = [] := List.dropWhile_eq_nil_iff.2 blank'
  rw [trim, trim, List.dropWhile_append_of_pos blank, List.dropWhile_append]
  split_ifs with empty
  · rw [none, List.isEmpty_iff.1 empty]
  · rw [List.reverse_append, List.dropWhile_append_of_pos reversed]

theorem dropWhile_of_solid (solid : ∀ c ∈ core.head?, isBlank c = false) :
    core.dropWhile isBlank = core := by
  cases core with
  | nil => rfl
  | cons c cs => exact List.dropWhile_cons_of_neg (by simp [solid c rfl])

/-- There is but one thing left when the blanks at the ends are removed. -/
theorem Core.trim_eq (left : Core cs core) : trim cs = core := by
  obtain ⟨blank, blank', first, last⟩ := left
  have reversed : ∀ c ∈ core.reverse.head?, isBlank c = false := by
    rwa [List.head?_reverse]
  rw [trim_append blank blank', trim, dropWhile_of_solid first, dropWhile_of_solid reversed,
    List.reverse_reverse]

/-- Only capitals have another letter as their small one. -/
theorem toLower_cases (c : Char) : c.toLower = c ∨
    (65 ≤ c.toNat ∧ c.toNat ≤ 90) ∧ c.toLower.toNat = c.toNat + 32 := by
  unfold Char.toLower
  split_ifs with capital
  · have bounds : 65 ≤ c.toNat ∧ c.toNat ≤ 90 :=
      ⟨UInt32.le_iff_toNat_le.1 capital.1, UInt32.le_iff_toNat_le.1 capital.2⟩
    have shifted : (c.toNat + 32) % 4294967296 = c.toNat + 32 := by omega
    exact .inr ⟨bounds, (UInt32.toNat_add _ _).trans shifted⟩
  · exact .inl rfl

theorem isBlank_of_letter {c : Char} (letter : 65 ≤ c.toNat ∧ c.toNat ≤ 122) :
    isBlank c = false := by
  have outside : ∀ range ∈ blankRanges, range.2 < 65 ∨ 122 < range.1 := by decide
  rw [isBlank, List.any_eq_false]
  intro range mem within
  have apart := outside range mem
  simp only [Bool.and_eq_true, decide_eq_true_eq] at within
  omega

theorem isBlank_toLower (c : Char) : isBlank c.toLower = isBlank c := by
  rcases toLower_cases c with same | ⟨capital, small⟩
  · rw [same]
  · rw [isBlank_of_letter (by omega), isBlank_of_letter (by omega)]

theorem trim_lower (cs : List Char) : trim (lower cs) = lower (trim cs) := by
  have blank : isBlank ∘ Char.toLower = isBlank := funext isBlank_toLower
  simp only [trim, lower, List.dropWhile_map, blank, ← List.map_reverse]

theorem SameLetters.lower_eq (same : SameLetters cs ds) : lower cs = lower ds := by
  unfold lower
  induction same with
  | nil => rfl
  | cons equal _ ih => exact congrArg₂ List.cons equal ih

end Text

/-! ## Lookup -/

namespace StripType

variable {s s' : String} {core : List Char} {t : StripType}

/-- The spellings of a strip type in small letters: its name and the part numbers that stand for
it. -/
inductive Spelling : StripType → String → Prop
  | name (t : StripType) : Spelling t t.name
  | ws2812 : Spelling grb "ws2812"
  | sk6812 : Spelling grb "sk6812"
  | sk6812w : Spelling grbw "sk6812w"

theorem mem_aliases_iff {key : String} : (key, t) ∈ aliases ↔
    key = "ws2812" ∧ t = grb ∨ key = "sk6812" ∧ t = grb ∨ key = "sk6812w" ∧ t = grbw := by
  simp [aliases]

theorem ofName?_eq_some_iff {key : String} : ofName? key = some t ↔ Spelling t key := by
  constructor
  · unfold ofName?
    intro found
    split at found
    · next t' known =>
      obtain ⟨before, after, whole, -⟩ := List.lookup_eq_some_iff.1 known
      have mem : (key, t') ∈ aliases := whole ▸ List.mem_append_right before List.mem_cons_self
      cases found
      rcases mem_aliases_iff.1 mem with ⟨rfl, rfl⟩ | ⟨rfl, rfl⟩ | ⟨rfl, rfl⟩
      · exact .ws2812
      · exact .sk6812
      · exact .sk6812w
    · have same := List.find?_some found
      obtain rfl : t.name = key := beq_iff_eq.1 same
      exact .name t
  · intro spelling
    cases spelling with
    | name => cases t <;> rfl
    | ws2812 | sk6812 | sk6812w => rfl

theorem key_of_core (left : Text.Core s.toList core) :
    key s = String.ofList (core.map Char.toLower) := by
  rw [key, left.trim_eq]
  rfl

theorem parse_eq_ok_iff (left : Text.Core s.toList core) :
    parse s = .ok t ↔ Spelling t (String.ofList (core.map Char.toLower)) := by
  rw [← key_of_core left, ← ofName?_eq_some_iff, parse]
  cases ofName? (key s) <;> simp

/-- A refusal quotes the text. -/
theorem text_of_parse {e : Unknown} (refused : parse s = .error e) : e = ⟨s⟩ := by
  unfold parse at refused
  split at refused <;> cases refused
  rfl

theorem parse_name (t : StripType) : parse t.name = .ok t := by
  cases t <;> rfl

/-- The characters of all names and part numbers. -/
def letters : List Char := "rgbwsk1268".toList

theorem letters_plain {c : Char} (mem : c ∈ letters) :
    c.toNat < 128 ∧ Text.isBlank c = false := by
  have all : (letters.all fun c => c.toNat < 128 && !Text.isBlank c) = true := by decide
  simpa using List.all_eq_true.1 all c mem

theorem Spelling.mem_letters {key : String} (spelling : Spelling t key) :
    ∀ c ∈ key.toList, c ∈ letters := by
  have all : key.toList.all letters.contains = true := by
    cases spelling with
    | name => cases t <;> decide
    | ws2812 | sk6812 | sk6812w => decide
  exact fun c mem => List.contains_iff_mem.1 (List.all_eq_true.1 all c mem)

/-- A character beyond ASCII or a blank within a text is not skipped. -/
theorem parse_odd (left : Text.Core s.toList core)
    (odd : ∃ c ∈ core, 128 ≤ c.toNat ∨ Text.isBlank c = true) : parse s = .error ⟨s⟩ := by
  obtain ⟨c, mem, strange⟩ := odd
  rcases out : parse s with e | t
  · rw [text_of_parse out]
  have small : c.toLower ∈ letters := by
    refine ((parse_eq_ok_iff left).1 out).mem_letters _ ?_
    rw [String.toList_ofList]
    exact List.mem_map_of_mem mem
  have plain : c.toNat < 128 ∧ Text.isBlank c = false := by
    rcases Text.toLower_cases c with same | ⟨capital, -⟩
    · exact letters_plain (same ▸ small)
    · exact ⟨by omega, Text.isBlank_of_letter (by omega)⟩
  rcases strange with far | blank
  · exact absurd plain.1 (Nat.not_lt.2 far)
  · exact absurd (blank.symm.trans plain.2) (by decide)

/-- Blanks around a text and the case of its ASCII letters make no difference. -/
theorem key_congr {before after : List Char} (whole : s'.toList = before ++ (core ++ after))
    (blank : ∀ c ∈ before, Text.isBlank c = true) (blank' : ∀ c ∈ after, Text.isBlank c = true)
    (same : Text.SameLetters s.toList core) : key s' = key s := by
  rw [key, key, whole, Text.trim_append blank blank', ← Text.trim_lower, ← same.lower_eq,
    Text.trim_lower]

theorem parse_congr (same : key s' = key s) : (parse s').toOption = (parse s).toOption := by
  unfold parse
  rw [same]
  cases ofName? (key s) <;> rfl

end StripType

end LedStrip
