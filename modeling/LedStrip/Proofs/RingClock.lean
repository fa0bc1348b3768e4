import LedStrip.RingClock
import Mathlib.Tactic.SplitIfs

/-!
# The face of the clock

Green and blue tell the hour and the minute by one LED each.  Red tells the second by the LED of the
hand and its two neighbours on the ring (`next_eq`, `previous_eq`).  On a ring with room for the
whole dial these are three different LEDs (`around_apart`), so no level covers another one, and the
rest of the face does not depend on where between two ticks the hand is (`hands_shown`).
-/

namespace LedStrip

theorem TimeOfDay.second_lt {hour minute second nanosecond : Nat} {t : TimeOfDay}
    (time : ofParts? hour minute second nanosecond = some t) : t.second < 60 := by
  unfold ofParts? at time
  split at time
  · next parts =>
    cases time
    exact parts.2.2.1
  · cases time

namespace RingClock

/-! ## Neighbours on a ring -/

section

variable {n i : Nat} (on : i < n)

include on

theorem next_eq : next (n - 1) i = (i + 1) % n := by
  unfold next
  split
  · rw [Nat.mod_eq_of_lt (by omega)]
  · have last : i + 1 = n := by omega
    rw [last, Nat.mod_self]

theorem previous_eq : previous (n - 1) i = (i + (n - 1)) % n := by
  unfold previous
  split
  · have round : i + (n - 1) = i - 1 + n := by omega
    rw [round, Nat.add_mod_right, Nat.mod_eq_of_lt (by omega)]
  · have first : i = 0 := by omega
    rw [first, Nat.zero_add, Nat.mod_eq_of_lt (by omega)]

/-- With room for three LEDs, an LED and its neighbours are three different ones. -/
theorem around_apart (room : 2 < n) :
    i ≠ (i + 1) % n ∧ i ≠ (i + (n - 1)) % n ∧ (i + 1) % n ≠ (i + (n - 1)) % n := by
  rw [← next_eq on, ← previous_eq on, next, previous]
  split_ifs <;> omega

end

/-! ## The second hand -/

/-- In a leap second the hand stands still. -/
theorem slotMicros_of_leap {t : TimeOfDay} (leap : 1000000000 ≤ t.nanosecond) :
    slotMicros t = slotMicros { t with nanosecond := 999999999 } := by
  have last : min (t.nanosecond / 1000) 999999 = 999999 := Nat.min_eq_right (by omega)
  have last' : min (999999999 / 1000) 999999 = 999999 := rfl
  simp only [slotMicros, last, last']

section

variable {t : TimeOfDay} {n : Nat} (on : t.second / 5 < n)

include on

/-- Red by the places of the hand and its neighbours, the last one first. -/
theorem redAt_eq (i : Nat) :
    redAt t (n - 1) i = toByte
      (if i = (t.second / 5 + (n - 1)) % n then previousLevel (slotMicros t)
      else if i = (t.second / 5 + 1) % n then nextLevel (slotMicros t)
      else if i = t.second / 5 then handLevel (slotMicros t)
      else 0) := by
  rw [← next_eq on, ← previous_eq on]
  rfl

theorem redAt_previous :
    redAt t (n - 1) ((t.second / 5 + (n - 1)) % n) = toByte (previousLevel (slotMicros t)) := by
  rw [redAt_eq on, if_pos rfl]

theorem redAt_next (room : 2 < n) :
    redAt t (n - 1) ((t.second / 5 + 1) % n) = toByte (nextLevel (slotMicros t)) := by
  obtain ⟨-, -, apart⟩ := around_apart on room
  rw [redAt_eq on, if_neg apart, if_pos rfl]

theorem redAt_hand (room : 2 < n) :
    redAt t (n - 1) (t.second / 5) = toByte (handLevel (slotMicros t)) := by
  obtain ⟨next, previous, -⟩ := around_apart on room
  rw [redAt_eq on, if_neg previous, if_neg next, if_pos rfl]

theorem redAt_away {i : Nat}
    (away : i ∉ [t.second / 5, (t.second / 5 + 1) % n, (t.second / 5 + (n - 1)) % n]) :
    redAt t (n - 1) i = 0 := by
  simp only [List.mem_cons, List.not_mem_nil, or_false, not_or] at away
  obtain ⟨hand, next, previous⟩ := away
  rw [redAt_eq on, if_neg previous, if_neg next, if_neg hand]
  rfl

end

/-! ## The face -/

section

variable (t : TimeOfDay) (n : Nat)

theorem length_face : (face t n).length = n := by
  rw [face, List.length_map, List.length_range]

theorem getElem?_face {i : Nat} (on : i < n) : (face t n)[i]? = some (colorAt t (n - 1) i) := by
  rw [face, List.getElem?_map, List.getElem?_range on, Option.map_some]

theorem color_of_getElem?_face {i : Nat} {c : Color} (shown : (face t n)[i]? = some c) :
    c = colorAt t (n - 1) i := by
  obtain ⟨on, -⟩ := List.getElem?_eq_some_iff.1 shown
  rw [length_face] at on
  exact Option.some.inj (shown.symm.trans (getElem?_face t n on))

/-- But for red, only the hour of the dial and the slot of the minute count. -/
theorem colorAt_of_same {t' : TimeOfDay} (hour : t'.hour % 12 = t.hour % 12)
    (minute : t'.minute / 5 = t.minute / 5) (last i : Nat) :
    colorAt t' last i = { colorAt t last i with r := redAt t' last i } := by
  simp only [colorAt, hour, minute]

end

/-- The face at any time.  White is off, and green and blue are on at the LED of the hour and at
that of the minute.  On a ring of twelve or more, red is at most on at the LED of the second hand
and its two neighbours, each with a level of its own; so times that agree in hour, minute and slot
differ at most in the red of these three. -/
theorem hands_shown (t : TimeOfDay) (n : Nat) :
    (face t n).length = n ∧
    (∀ i c, (face t n)[i]? = some c →
      c.w = 0 ∧ c.g = (if i = t.hour % 12 then 200 else 0) ∧
        c.b = if i = t.minute / 5 then 200 else 0) ∧
    (12 ≤ n → t.second < 60 →
      let s := t.second / 5
      let next := (s + 1) % n
      let previous := (s + (n - 1)) % n
      let slot := slotMicros t
      (s ≠ next ∧ s ≠ previous ∧ next ≠ previous) ∧
      (face t n)[s]?.map Color.r = some (toByte (handLevel slot)) ∧
      (face t n)[next]?.map Color.r = some (toByte (nextLevel slot)) ∧
      (face t n)[previous]?.map Color.r = some (toByte (previousLevel slot)) ∧
      (∀ i c, (face t n)[i]? = some c → i ∉ [s, next, previous] → c.r = 0) ∧
      ∀ t' : TimeOfDay, t'.hour % 12 = t.hour % 12 → t'.minute / 5 = t.minute / 5 →
        t'.second / 5 = s → ∀ i c c', (face t n)[i]? = some c → (face t' n)[i]? = some c' →
          c' = { c with r := c'.r } ∧ (i ∉ [s, next, previous] → c' = c)) := by
  refine ⟨length_face t n, fun i c shown => ?_, fun dial clock => ?_⟩
  · rw [color_of_getElem?_face t n shown]
    exact ⟨rfl, rfl, rfl⟩
  · intro s next previous slot
    have on : s < n := by omega
    have room : 2 < n := by omega
    have red (i : Nat) (inside : i < n) : (face t n)[i]?.map Color.r = some (redAt t (n - 1) i) :=
      congrArg (Option.map Color.r) (getElem?_face t n inside)
    have inside (i : Nat) : i % n < n := Nat.mod_lt i (by omega)
    refine ⟨around_apart on room, ?_, ?_, ?_, fun i c shown away => ?_,
      fun t' hour minute second i c c' shown shown' => ?_⟩
    · rw [red s on, redAt_hand on room]
    · rw [red next (inside _), redAt_next on room]
    · rw [red previous (inside _), redAt_previous on]
    · rw [color_of_getElem?_face t n shown]
      exact redAt_away on away
    · have on' : t'.second / 5 < n := second ▸ on
      have same := colorAt_of_same t hour minute (n - 1) i
      rw [color_of_getElem?_face t n shown, color_of_getElem?_face t' n shown']
      refine ⟨same, fun away => ?_⟩
      have dark : redAt t (n - 1) i = 0 := redAt_away on away
      have dark' : redAt t' (n - 1) i = 0 := redAt_away on' (second ▸ away)
      rw [same, dark', ← dark]
      rfl

/-- A leap second before midnight on twelve LEDs: all hands are on the last LED, the next one is the
first, and three minutes before noon the face is the same but for the red of three LEDs. -/
theorem hands_shown_leap :
    ∃ t, TimeOfDay.ofParts? 23 59 59 1500000000 = some t ∧ 12 ≤ 12 ∧ t.second < 60 ∧
      let slot := slotMicros { t with nanosecond := 999999999 }
      (face t 12)[11]?.map Color.r = some (toByte (handLevel slot)) ∧
      (face t 12)[0]?.map Color.r = some (toByte (nextLevel slot)) ∧
      (face t 12)[10]?.map Color.r = some (toByte (previousLevel slot)) ∧
      (∀ c, (face t 12)[11]? = some c → c.g = 200 ∧ c.b = 200) ∧
      ∀ i c c', (face t 12)[i]? = some c → (face ⟨11, 57, 56, 0⟩ 12)[i]? = some c' →
        i ∉ [11, 0, 10] → c' = c := by
  have time : TimeOfDay.ofParts? 23 59 59 1500000000 = some ⟨23, 59, 59, 1500000000⟩ := rfl
  have clock := TimeOfDay.second_lt time
  obtain ⟨-, lit, reds⟩ := hands_shown ⟨23, 59, 59, 1500000000⟩ 12
  obtain ⟨-, hand, next, previous, -, same⟩ := reds (by decide) clock
  rw [slotMicros_of_leap (by decide)] at hand next previous
  refine ⟨_, time, by decide, clock, hand, next, previous, fun c shown => (lit 11 c shown).2, ?_⟩
  intro i c c' shown shown' away
  exact (same ⟨11, 57, 56, 0⟩ rfl rfl rfl i c c' shown shown').2 away

end RingClock

end LedStrip
