import LedStrip.Surface

/-!
# What strokes draw

Surfaces whose LEDs can be read (`Legible`), and what strokes on single LEDs make of them.  An LED
that no stroke is meant for stays as it is (`word?_paint_of_unmarked`).  An LED for which all
strokes have the same color gets it (`word?_paint_of_marked`).  So where strokes do not contradict
each other only the strokes count, not their order (`paint_eq_paint`).
-/

namespace LedStrip

/-- The row with these words. -/
def PixelBuffer.ofFn (n : Nat) (word : Nat → UInt32) : PixelBuffer :=
  ⟨Array.ofFn fun i : Fin n => word i.val⟩

@[simp] theorem PixelBuffer.length_ofFn (n : Nat) (word : Nat → UInt32) :
    (ofFn n word).length = n :=
  Array.size_ofFn

theorem PixelBuffer.word?_ofFn (n : Nat) (word : Nat → UInt32) (i : Nat) :
    (ofFn n word).word? i = if i < n then some (word i) else none := by
  refine Array.getElem?_ofFn.trans ?_
  split <;> rfl

/-! ## Strokes on a row -/

namespace Surface

open PixelBuffer (word?_of_length_le)

variable {p : PixelBuffer} {strokes strokes' : List Stroke} {i : Nat}

theorem length_paint (p : PixelBuffer) (strokes : List Stroke) :
    (paint p strokes).length = p.length := by
  unfold paint
  induction strokes generalizing p with
  | nil => rfl
  | cons stroke strokes ih =>
    rw [List.foldl_cons, ih]
    cases stroke with
    | set i c => exact p.length_set i c
    | fill c => exact p.length_fill c

theorem word?_paint_of_unmarked (unfilled : ∀ c, .fill c ∉ strokes)
    (unmarked : ∀ c, .set i c ∉ strokes) : (paint p strokes).word? i = p.word? i := by
  unfold paint
  induction strokes generalizing p with
  | nil => rfl
  | cons stroke strokes ih =>
    rw [List.foldl_cons, ih (fun c hc => unfilled c (List.mem_cons_of_mem _ hc))
      fun c hc => unmarked c (List.mem_cons_of_mem _ hc)]
    cases stroke with
    | fill c => exact absurd List.mem_cons_self (unfilled c)
    | set j c =>
      have elsewhere : j ≠ i := by
        rintro rfl
        exact unmarked c List.mem_cons_self
      exact (p.word?_set j i c).trans (if_neg fun h => elsewhere h.1)

/-- An LED for which all strokes have the same color has it in the end. -/
theorem word?_paint_of_marked {c : Color} (unfilled : ∀ c, .fill c ∉ strokes)
    (inside : i < p.length) (marked : .set i c ∈ strokes)
    (agree : ∀ c', .set i c' ∈ strokes → c' = c) :
    (paint p strokes).word? i = some c.pack := by
  induction strokes generalizing p with
  | nil => cases marked
  | cons stroke strokes ih =>
    have unfilled' : ∀ c, .fill c ∉ strokes := fun c hc => unfilled c (List.mem_cons_of_mem _ hc)
    by_cases again : .set i c ∈ strokes
    · have inside : i < (Surface.stroke p stroke).length := by
        rwa [← length_paint p [stroke]] at inside
      exact ih unfilled' inside again fun c' hc => agree c' (List.mem_cons_of_mem _ hc)
    · -- the first stroke is the only one on this LED
      obtain rfl : .set i c = stroke := (List.mem_cons.1 marked).resolve_right again
      have last : ∀ c', .set i c' ∉ strokes := by
        intro c' hc
        obtain rfl := agree c' (List.mem_cons_of_mem _ hc)
        exact again hc
      refine (word?_paint_of_unmarked (p := p.set i c) unfilled' last).trans ?_
      exact (p.word?_set i i c).trans (if_pos ⟨rfl, inside⟩)

/-- An LED has the color of the last stroke on it. -/
theorem word?_paint_of_last {before after : List Stroke} {c : Color} (inside : i < p.length)
    (unfilled : ∀ c, .fill c ∉ after) (unmarked : ∀ c, .set i c ∉ after) :
    (paint p (before ++ .set i c :: after)).word? i = some c.pack := by
  have split : paint p (before ++ .set i c :: after) =
      paint ((paint p before).set i c) after := List.foldl_append
  rw [split, word?_paint_of_unmarked unfilled unmarked, PixelBuffer.word?_set, length_paint,
    if_pos ⟨rfl, inside⟩]

/-- Strokes that do not contradict each other draw the same in any order, and however often. -/
theorem paint_eq_paint (p : PixelBuffer) (unfilled : ∀ c, .fill c ∉ strokes)
    (unfilled' : ∀ c, .fill c ∉ strokes')
    (same : ∀ i c, .set i c ∈ strokes ↔ .set i c ∈ strokes')
    (agree : ∀ i c c', .set i c ∈ strokes → .set i c' ∈ strokes → c' = c) :
    paint p strokes = paint p strokes' := by
  apply PixelBuffer.ext_of_lt
  · rw [length_paint, length_paint]
  intro i inside
  rw [length_paint] at inside
  by_cases marked : ∃ c, .set i c ∈ strokes
  · obtain ⟨c, marked⟩ := marked
    rw [word?_paint_of_marked unfilled inside marked fun c' => agree i c c' marked,
      word?_paint_of_marked unfilled' inside ((same i c).1 marked) fun c' marked' =>
        agree i c c' marked ((same i c').2 marked')]
  · have unmarked : ∀ c, .set i c ∉ strokes := fun c hc => marked ⟨c, hc⟩
    rw [word?_paint_of_unmarked unfilled unmarked,
      word?_paint_of_unmarked unfilled' fun c hc => unmarked c ((same i c).2 hc)]

theorem set_mem_map_set {indices : List Nat} {color : Nat → Color} {c : Color} :
    .set i c ∈ indices.map (fun i => Stroke.set i (color i)) ↔ i ∈ indices ∧ color i = c := by
  simp only [List.mem_map, Stroke.set.injEq]
  constructor
  · rintro ⟨_, member, rfl, colored⟩
    exact ⟨member, colored⟩
  · rintro ⟨member, colored⟩
    exact ⟨i, member, rfl, colored⟩

theorem fill_not_mem_map_set {indices : List Nat} {color : Nat → Color} (c : Color) :
    .fill c ∉ indices.map fun i => Stroke.set i (color i) := by
  simp

/-- Strokes on several LEDs, each with a color of its own. -/
theorem word?_paint_map_set (p : PixelBuffer) (indices : List Nat) (color : Nat → Color) (i : Nat) :
    (paint p (indices.map fun i => .set i (color i))).word? i =
      if i ∈ indices ∧ i < p.length then some (color i).pack else p.word? i := by
  by_cases marked : i ∈ indices
  · by_cases inside : i < p.length
    · rw [if_pos ⟨marked, inside⟩]
      apply word?_paint_of_marked fill_not_mem_map_set inside
      · exact set_mem_map_set.2 ⟨marked, rfl⟩
      · exact fun c' hc => (set_mem_map_set.1 hc).2.symm
    · rw [if_neg fun h => inside h.2, word?_of_length_le (Nat.le_of_not_lt inside),
        word?_of_length_le]
      rw [length_paint]
      exact Nat.le_of_not_lt inside
  · rw [if_neg fun h => marked h.1]
    exact word?_paint_of_unmarked fill_not_mem_map_set fun c hc => marked (set_mem_map_set.1 hc).1

/-- To fill a row is to set its LEDs one after the other. -/
theorem fillEach_eq_fill (p : PixelBuffer) (c : Color) : fillEach p c = fill p c := by
  have strokes : fillEach p c = paint p ((List.range p.length).map fun i => .set i c) := by
    unfold fillEach paint
    rw [List.foldl_map]
    rfl
  rw [strokes]
  apply PixelBuffer.ext_of_lt
  · rw [length_paint]
    exact (p.length_fill c).symm
  intro i inside
  rw [length_paint] at inside
  rw [word?_paint_map_set, if_pos ⟨List.mem_range.2 inside, inside⟩]
  exact ((p.word?_fill c i).trans (if_pos inside)).symm

end Surface

/-! ## Surfaces that can be read -/

/-- A surface whose LEDs can be read: drawing on it draws on a row of LEDs. -/
class Legible (S : Type) [Surface S] where
  leds : S → PixelBuffer
  length_leds (s : S) : (leds s).length = Surface.length s
  leds_set (s : S) (i : Nat) (c : Color) : leds (Surface.set s i c) = (leds s).set i c
  leds_fill (s : S) (c : Color) : leds (Surface.fill s c) = (leds s).fill c

namespace Legible

theorem leds_paint {S : Type} [Surface S] [Legible S] (s : S) (strokes : List Stroke) :
    leds (Surface.paint s strokes) = Surface.paint (leds s) strokes := by
  unfold Surface.paint
  induction strokes generalizing s with
  | nil => rfl
  | cons stroke strokes ih =>
    rw [List.foldl_cons, List.foldl_cons, ih]
    congr 1
    cases stroke with
    | set i c => exact leds_set s i c
    | fill c => exact leds_fill s c

instance : Legible PixelBuffer where
  leds p := p
  length_leds _ := rfl
  leds_set _ _ _ := rfl
  leds_fill _ _ := rfl

section Strips

variable {β : Type}

theorem pixels_modify (s : Strip β) (i : ChannelIndex) (w : PixelBuffer.Write) :
    ((s.modify i (·.write w)).channels.get i).pixels = w.apply (s.channels.get i).pixels := by
  rw [Strip.channels_modify, if_pos rfl]
  rfl

variable [Backend β]

instance : Legible (Strip β) where
  leds := Strip.pixels
  length_leds _ := rfl
  leds_set s i c := pixels_modify s s.active (.set i c)
  leds_fill s c := pixels_modify s s.active (.fill c)

instance : Legible (ChannelView β) where
  leds v := (v.strip.channels.get v.index).pixels
  length_leds _ := rfl
  leds_set v i c := pixels_modify v.strip v.index (.set i c)
  leds_fill v c := pixels_modify v.strip v.index (.fill c)

end Strips

section Wrapped

variable {S : Type} [Surface S] [Legible S]

theorem leds_foldl_set (s : S) (c : Color) (indices : List Nat) :
    leds (indices.foldl (fun s i => Surface.set s i c) s) =
      indices.foldl (fun p i => p.set i c) (leds s) := by
  induction indices generalizing s with
  | nil => rfl
  | cons i indices ih => rw [List.foldl_cons, List.foldl_cons, ih, leds_set]

instance : Legible (FilledEach S) where
  leds f := leds f.surface
  length_leds f := length_leds f.surface
  leds_set f i c := leds_set f.surface i c
  leds_fill f c := by
    refine (leds_foldl_set f.surface c _).trans ?_
    rw [← length_leds]
    exact Surface.fillEach_eq_fill (leds f.surface) c

instance : Legible (Faulty S) where
  leds f := leds f.surface
  length_leds f := length_leds f.surface
  leds_set f i c := leds_set f.surface i c
  leds_fill f c := leds_fill f.surface c

end Wrapped

end Legible

end LedStrip
