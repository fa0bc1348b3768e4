import LedStrip.Proofs.Strip.Run

/-!
# What writes leave

A row of LEDs after any number of writes.  A write puts words on some LEDs (`Write.word?`), and what
an LED holds in the end is the word that was put on it last (`word?_run`).  A write to many LEDs
does what the single writes do that it stands for, one after the other (`run_singles`), and only
single writes past the end are reported (`log_run`).
-/

namespace LedStrip

namespace PixelBuffer

/-! ## Runs -/

/-- Perform writes one after the other; each reports where it misses. -/
def run (p : PixelBuffer) : List Write → Step PixelBuffer Unit
  | [] => .silent p ()
  | w :: rest => ((w.apply p).run rest).after (Event.ignoredWrites p.length (w.ignored p.length))

section Runs

variable (p : PixelBuffer) (ws : List Write)

@[simp] theorem length_run : (p.run ws).state.length = p.length := by
  induction ws generalizing p with
  | nil => rfl
  | cons w ws ih => exact (ih (w.apply p)).trans (p.length_apply w)

theorem log_run_eq_flatMap :
    (p.run ws).log = ws.flatMap fun w => Event.ignoredWrites p.length (w.ignored p.length) := by
  induction ws generalizing p with
  | nil => rfl
  | cons w ws ih =>
    have rest := ih (w.apply p)
    rw [length_apply] at rest
    exact congrArg (Event.ignoredWrites p.length (w.ignored p.length) ++ ·) rest

end Runs

/-! ## The last writer -/

/-- The word that a write puts on an LED, if it is meant for that LED. -/
def Write.word? (i : Nat) : Write → Option UInt32
  | .set j c => if j = i then some c.pack else none
  | .setWord j word => if j = i then some word else none
  | .fill c => some c.pack
  | .clear => some 0
  | .copy words => words[i]?
  | .setRange start cs => if start ≤ i then (cs[i - start]?).map Color.pack else none

section LastWriter

variable {p : PixelBuffer} {i : Nat}

theorem word?_apply (inside : i < p.length) (w : Write) :
    (w.apply p).word? i = (w.word? i).or (p.word? i) := by
  have single (j : Nat) (word : UInt32) :
      (p.setWord j word).word? i = (if j = i then some word else none).or (p.word? i) := by
    rw [word?_setWord]
    by_cases here : j = i
    · rw [if_pos ⟨here, inside⟩, if_pos here, Option.some_or]
    · rw [if_neg fun h => here h.1, if_neg here, Option.none_or]
  cases w with
  | set j c => exact single j c.pack
  | setWord j word => exact single j word
  | fill c => exact (p.word?_fill c i).trans (if_pos inside)
  | clear => exact (p.word?_clear i).trans (if_pos inside)
  | copy words =>
    refine (p.word?_copy words i).trans ?_
    by_cases short : i < words.length
    · rw [if_pos (by omega), Write.word?, List.getElem?_eq_getElem short, Option.some_or]
    · rw [if_neg (by omega), Write.word?, List.getElem?_eq_none (Nat.le_of_not_lt short),
        Option.none_or]
  | setRange start cs =>
    refine (p.word?_setRange start cs i).trans ?_
    by_cases behind : start ≤ i
    · rw [Write.word?, if_pos behind]
      by_cases short : i < start + cs.length
      · rw [if_pos ⟨behind, short, inside⟩, List.getElem?_eq_getElem (by omega),
          Option.map_some, Option.some_or]
      · rw [if_neg fun h => short h.2.1, List.getElem?_eq_none (by omega), Option.map_none,
          Option.none_or]
    · rw [if_neg fun h => behind h.1, Write.word?, if_neg behind, Option.none_or]

/-- An LED holds the word that was put on it last, or what it held before. -/
theorem word?_run (inside : i < p.length) (ws : List Write) :
    (p.run ws).state.word? i = ((ws.filterMap (Write.word? i)).getLast?).or (p.word? i) := by
  induction ws generalizing p with
  | nil => exact Option.none_or.symm
  | cons w ws ih =>
    have rest := ih (p := w.apply p) (by rwa [length_apply])
    rw [word?_apply inside] at rest
    refine rest.trans ?_
    rw [List.filterMap_cons]
    cases w.word? i with
    | none => rw [Option.none_or]
    | some word =>
      rw [Option.some_or, List.getLast?_cons, Option.some_or]
      cases (ws.filterMap (Write.word? i)).getLast? <;> rfl

end LastWriter

/-! ## Single writes -/

/-- Single writes of items to one LED after the other. -/
def Write.inTurn {α : Type} (single : Nat → α → Write) (start : Nat) (items : List α) :
    List Write :=
  (items.zipIdx start).map fun (a, i) => single i a

/-- The single writes that a write to a row of this length stands for. -/
def Write.singles (length : Nat) : Write → List Write
  | .fill c => inTurn .set 0 (List.replicate length c)
  | .clear => inTurn .setWord 0 (List.replicate length 0)
  | .copy words => inTurn .setWord 0 (words.take length)
  | .setRange start cs => inTurn .set start cs
  | single => [single]

/-- The LED that a single write is meant for. -/
def Write.target? : Write → Option Nat
  | .set i _ | .setWord i _ => some i
  | _ => none

namespace Write

section InTurn

variable {α : Type} {single : Nat → α → Write}

theorem inTurn_cons (start : Nat) (a : α) (items : List α) :
    inTurn single start (a :: items) = single start a :: inTurn single (start + 1) items :=
  rfl

theorem word?_inTurn (word : α → UInt32)
    (meant : ∀ j a i, (single j a).word? i = if j = i then some (word a) else none)
    (start : Nat) (items : List α) (i : Nat) :
    (inTurn single start items).filterMap (Write.word? i) =
      (if start ≤ i then (items[i - start]?).map word else none).toList := by
  induction items generalizing start with
  | nil => split <;> rfl
  | cons a items ih =>
    rw [inTurn_cons, List.filterMap_cons, meant, ih]
    by_cases here : start = i
    · subst here
      have passed : ¬start + 1 ≤ start := by omega
      rw [if_pos rfl, if_pos (Nat.le_refl start), if_neg passed, Nat.sub_self]
      rfl
    · by_cases behind : start ≤ i
      · have next : i - start = i - (start + 1) + 1 := by omega
        rw [if_neg here, if_pos behind, if_pos (by omega), next, List.getElem?_cons_succ]
      · rw [if_neg here, if_neg behind, if_neg (by omega)]

theorem targets_inTurn (meant : ∀ i a, (single i a).target? = some i) (start : Nat)
    (items : List α) :
    (inTurn single start items).filterMap target? = List.range' start items.length := by
  induction items generalizing start with
  | nil => rfl
  | cons a items ih =>
    rw [inTurn_cons, List.filterMap_cons, meant, ih]
    rfl

end InTurn

variable {n : Nat}

/-- Of the single writes, the last one to an LED puts there what the whole write does. -/
theorem getLast?_singles {i : Nat} (inside : i < n) (w : Write) :
    ((w.singles n).filterMap (Write.word? i)).getLast? = w.word? i := by
  have last (o : Option UInt32) : o.toList.getLast? = o := by cases o <;> rfl
  have alone (w : Write) : ([w].filterMap (Write.word? i)).getLast? = w.word? i := by
    rw [List.filterMap_cons, List.filterMap_nil]
    cases w.word? i <;> rfl
  cases w with
  | set j c => exact alone _
  | setWord j word => exact alone _
  | fill c =>
    rw [singles, word?_inTurn Color.pack (fun _ _ _ => rfl), last]
    simp [inside, Write.word?]
  | clear =>
    rw [singles, word?_inTurn id (fun _ _ _ => rfl), last]
    simp [inside, Write.word?]
  | copy words =>
    rw [singles, word?_inTurn id (fun _ _ _ => rfl), last]
    simp [inside, Write.word?]
  | setRange start cs =>
    rw [singles, word?_inTurn Color.pack (fun _ _ _ => rfl), last]
    rfl

theorem ignored_eq (w : Write) :
    w.ignored n = ((w.singles n).filterMap target?).filter (n ≤ ·) := by
  have none {count : Nat} (short : count ≤ n) :
      (List.range' 0 count).filter (n ≤ ·) = [] := by
    simp only [List.filter_eq_nil_iff, List.mem_range'_1, decide_eq_true_eq]
    omega
  cases w with
  | set i c => rfl
  | setWord i word => rfl
  | fill c =>
    rw [singles, targets_inTurn (fun _ _ => rfl), none (by simp)]
    rfl
  | clear =>
    rw [singles, targets_inTurn (fun _ _ => rfl), none (by simp)]
    rfl
  | copy words =>
    rw [singles, targets_inTurn (fun _ _ => rfl), none (List.length_take_le n words)]
    rfl
  | setRange start cs =>
    rw [singles, targets_inTurn (fun _ _ => rfl)]
    rfl

theorem flatMap_singles (w : Write) : (w.singles n).flatMap (singles n) = w.singles n := by
  have alone {α : Type} {single : Nat → α → Write}
      (same : ∀ i a, (single i a).singles n = [single i a]) (start : Nat) (items : List α) :
      (inTurn single start items).flatMap (singles n) = inTurn single start items := by
    rw [inTurn, List.flatMap_map]
    simp only [same]
    exact (List.map_eq_flatMap ..).symm
  cases w with
  | set i c => rfl
  | setWord i word => rfl
  | fill c => exact alone (fun _ _ => rfl) _ _
  | clear => exact alone (fun _ _ => rfl) _ _
  | copy words => exact alone (fun _ _ => rfl) _ _
  | setRange start cs => exact alone (fun _ _ => rfl) _ _

end Write

/-- Reported are the single writes that are meant for LEDs past the end, in order. -/
theorem log_run (p : PixelBuffer) (ws : List Write) :
    (p.run ws).log = Event.ignoredWrites p.length
      (((ws.flatMap (Write.singles p.length)).filterMap Write.target?).filter (p.length ≤ ·)) := by
  rw [log_run_eq_flatMap]
  induction ws with
  | nil => rfl
  | cons w ws ih =>
    rw [List.flatMap_cons, List.flatMap_cons, List.filterMap_append, List.filter_append,
      ← w.ignored_eq, ih]
    exact List.map_append.symm

/-- A write does what its single writes do one after the other. -/
theorem run_singles (p : PixelBuffer) (w : Write) : p.run (w.singles p.length) = p.run [w] := by
  have state : (p.run (w.singles p.length)).state = (p.run [w]).state := by
    apply ext_of_lt
    · rw [length_run, length_run]
    intro i inside
    rw [length_run] at inside
    rw [word?_run inside, w.getLast?_singles inside]
    exact (word?_apply inside w).symm
  have log : (p.run (w.singles p.length)).log = (p.run [w]).log := by
    rw [log_run, log_run, w.flatMap_singles, List.flatMap_singleton]
  calc
    p.run (w.singles p.length) =
      ⟨(p.run (w.singles p.length)).state, (), (p.run (w.singles p.length)).log⟩ := rfl
    _ = p.run [w] := by rw [state, log]

/-! ## Reading -/

section Reading

variable (p : PixelBuffer)

theorem get?_of_lt {i : Nat} (inside : i < p.length) : ∃ c, p.get? i = some c :=
  ⟨_, congrArg (Option.map Color.unpack) (Array.getElem?_eq_getElem inside)⟩

theorem getElem?_colors (i : Nat) : p.colors[i]? = p.get? i := by
  rw [colors, List.getElem?_map, toList, Array.getElem?_toList]
  rfl

theorem getElem?_range (start stop i : Nat) :
    (p.range start stop)[i]? =
      if i < min stop p.length - start then p.get? (start + i) else none := by
  rw [range, List.getElem?_map, Array.getElem?_toList, Array.getElem?_extract]
  by_cases inside : i < min stop p.length - start
  · have first : min start (min stop p.length) = start := by omega
    have short : i < min (min stop p.length) p.words.size - start := by
      show i < min (min stop p.length) p.length - start
      omega
    rw [if_pos inside, first, if_pos short]
    rfl
  · have long : ¬i < min (min stop p.length) p.words.size - min start (min stop p.length) := by
      show ¬i < min (min stop p.length) p.length - min start (min stop p.length)
      omega
    rw [if_neg inside, if_neg long]
    rfl

/-- A list of the colors of some LEDs in a row, all of which there are. -/
theorem map_some_eq_map_get? {cs : List Color} {start count : Nat}
    (within : ∀ i < count, start + i < p.length)
    (read : ∀ i, cs[i]? = if i < count then p.get? (start + i) else none) :
    cs.map some = (List.range' start count).map p.get? := by
  apply List.ext_getElem?
  intro i
  rw [List.getElem?_map, List.getElem?_map, read]
  by_cases inside : i < count
  · obtain ⟨c, there⟩ := p.get?_of_lt (within i inside)
    rw [if_pos inside, List.getElem?_range' inside, there]
    simp [there]
  · rw [if_neg inside, List.getElem?_eq_none]
    · rfl
    · simpa using inside

end Reading

end PixelBuffer

/-! ## The log -/

namespace Text

/-- Whether a line of the log shows a text as it is, without a break. -/
def isPlain (text : List Char) : Bool := text.all fun c => spellOut c == [c] && c != '\n'

theorem isPlain_append (text more : List Char) :
    isPlain (text ++ more) = (isPlain text && isPlain more) :=
  List.all_append

theorem spellOut_of_isDigit {c : Char} (digit : c.isDigit = true) : spellOut c = [c] := by
  have small : c.toNat ≤ 57 := by
    simp only [Char.isDigit, Bool.and_eq_true, decide_eq_true_eq] at digit
    exact digit.2
  unfold spellOut
  split
  case h_6 => exact if_neg fun high => absurd high.1 (by omega)
  all_goals exact absurd digit (by decide)

theorem isPlain_toString (n : Nat) : isPlain (toString n).toList = true := by
  rw [Nat.toString_eq_repr, Nat.toList_repr, isPlain, List.all_eq_true]
  intro c written
  have digit := Nat.isDigit_of_mem_toDigits (by decide) (by decide) written
  have shown : c ≠ '\n' := by
    rintro rfl
    exact absurd digit (by decide)
  simp [spellOut_of_isDigit digit, shown]

theorem tame_of_isPlain {s : String} (plain : isPlain s.toList = true) :
    tame s = s ∧ '\n' ∉ s.toList := by
  have each : ∀ c ∈ s.toList, spellOut c = [c] ∧ c ≠ '\n' := by
    simpa [isPlain] using plain
  constructor
  · have same : s.toList.flatMap spellOut = s.toList.flatMap fun c => [c] :=
      congrArg List.flatten (List.map_congr_left fun c shown => (each c shown).1)
    rw [tame, same, List.flatMap_singleton', String.ofList_toList]
  · exact fun broken => (each _ broken).2 rfl

end Text

/-- A write that misses takes up one line of the log, which names the LED and the length. -/
theorem Event.line_ignoredWrite (i n : Nat) :
    let message := "Ignoring write to LED " ++ toString i ++ " of " ++ toString n
    (ignoredWrite i n).line = "TRACE " ++ message ∧ '\n' ∉ message.toList := by
  intro message
  have plain : Text.isPlain message.toList = true := by
    simp only [message, String.toList_append, Text.isPlain_append, Text.isPlain_toString,
      Bool.and_true]
    decide
  obtain ⟨same, unbroken⟩ := Text.tame_of_isPlain plain
  refine ⟨?_, unbroken⟩
  show "TRACE" ++ " " ++ Text.tame message = _
  rw [same]
  rfl

/-! ## Writes through a strip -/

/-- What is written to a channel of a strip is written to its LEDs and reported as it is there. -/
theorem Strip.run_writeTo {β : Type} [Backend β] [Scripted β] (s : Strip β) (c : ChannelIndex)
    (ws : List PixelBuffer.Write) :
    let written := s.run (ws.map fun w => .ask (.writeTo c w))
    let alone := (s.channels.get c).pixels.run ws
    (written.state.channels.get c).pixels = alone.state ∧ written.log = alone.log := by
  induction ws generalizing s with
  | nil => exact ⟨rfl, rfl⟩
  | cons w ws ih =>
    have first : s.perform (.ask (.writeTo c w)) =
        ⟨(s.write c w).state, .done (.ok ()), (s.write c w).log⟩ := by
      simp only [perform, handle, onChannel, dif_pos c.isLt]
    have pixels : ((s.write c w).state.channels.get c).pixels =
        w.apply (s.channels.get c).pixels :=
      congrArg Channel.pixels ((s.channels_modify c c _).trans (if_pos rfl))
    obtain ⟨state, log⟩ := ih (s.write c w).state
    rw [pixels] at state log
    rw [List.map_cons]
    constructor
    · rw [state_run_cons, first, state]
      rfl
    · show (s.perform (.ask (.writeTo c w))).log ++
        ((s.perform (.ask (.writeTo c w))).state.run _).log = _
      rw [first, log]
      rfl

/-! ## The main result -/

namespace PixelBuffer

theorem pack_rgb (r g b : UInt8) : (Color.rgb r g b).pack =
    UInt32.ofNat (r.toNat * 0x10000 + g.toNat * 0x100 + b.toNat) := by
  have dark : (0 : UInt8).toNat = 0 := rfl
  rw [Color.pack, Color.rgb, dark, Nat.zero_mul, Nat.zero_add]

/-- A row of LEDs has a fixed length, and the last write to an LED counts: each LED holds the word
that was put on it last, and no other LED is touched.  What is read are these words as colors, of a
range those that there are.  A write to many LEDs does what its single writes do, one after the
other.  The log has one line for each single write past the end, in order, and no other. -/
theorem last_writer_wins (n : Nat) (ws : List Write) :
    let step := (blank n).run ws
    let p := step.state
    p.length = n ∧
    (∀ i, p.word? i =
      if i < n then some ((ws.filterMap (Write.word? i)).getLast?.getD 0) else none) ∧
    (∀ i, p.get? i = (p.word? i).map Color.unpack) ∧
    p.colors.map some = (List.range n).map p.get? ∧
    (∀ i c, (p.set i c).get? i = if i < n then some c else none) ∧
    (∀ start stop, (p.range start stop).map some =
      (List.range' start (min stop n - start)).map p.get?) ∧
    (∀ w, p.run (w.singles n) = p.run [w]) ∧
    (∀ i r g b, p.run [.setRgb i r g b] =
      p.run [.setWord i (.ofNat (r.toNat * 0x10000 + g.toNat * 0x100 + b.toNat))]) ∧
    step.log = (((ws.flatMap (Write.singles n)).filterMap Write.target?).filter (n ≤ ·)).map
      (fun i => Event.ignoredWrite i n) ∧
    (∀ i, let message := "Ignoring write to LED " ++ toString i ++ " of " ++ toString n
      (Event.ignoredWrite i n).line = "TRACE " ++ message ∧ '\n' ∉ message.toList) ∧
    (∀ c, (p.run [.fill c]).log = []) ∧ (p.run [.clear]).log = [] ∧
    (∀ words, (p.run [.copy words]).log = []) ∧
    ∀ {β : Type} [Backend β] [Scripted β] (s : Strip β) (c : ChannelIndex),
      let written := s.run (ws.map fun w => .ask (.writeTo c w))
      let alone := (s.channels.get c).pixels.run ws
      (written.state.channels.get c).pixels = alone.state ∧ written.log = alone.log := by
  intro step p
  have length : p.length = n := (length_run ..).trans (length_blank n)
  refine ⟨length, fun i => ?word, fun i => rfl, ?colors, fun i c => ?color,
    fun start stop => ?range, fun w => ?singles, fun i r g b => ?rgb, ?log,
    fun i => Event.line_ignoredWrite i n, fun c => rfl, rfl, fun words => rfl,
    fun s c => s.run_writeTo c ws⟩
  case word =>
    by_cases inside : i < n
    · rw [if_pos inside, word?_run (by rwa [length_blank]), word?_blank, if_pos inside]
      cases (ws.filterMap (Write.word? i)).getLast? <;> rfl
    · rw [if_neg inside, word?_of_length_le (by omega)]
  case colors =>
    rw [List.range_eq_range']
    refine p.map_some_eq_map_get? (fun i inside => by omega) fun i => ?_
    rw [getElem?_colors, Nat.zero_add]
    by_cases inside : i < n
    · rw [if_pos inside]
    · rw [if_neg inside, get?, word?_of_length_le (by omega)]
      rfl
  case color =>
    rw [get?, word?_set, length]
    by_cases inside : i < n
    · rw [if_pos ⟨rfl, inside⟩, if_pos inside, Option.map_some, Color.unpack_pack]
    · rw [if_neg fun h => inside h.2, if_neg inside, word?_of_length_le (by omega)]
      rfl
  case range =>
    rw [← length]
    exact p.map_some_eq_map_get? (fun i inside => by omega) (p.getElem?_range start stop)
  case singles =>
    rw [← length]
    exact p.run_singles w
  case rgb =>
    rw [← pack_rgb]
    rfl
  case log =>
    have log := (blank n).log_run ws
    rwa [length_blank] at log

end PixelBuffer

end LedStrip
