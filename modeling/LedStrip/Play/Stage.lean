/-!
# Stages

A stage gives a play the answers it asks for: whether the show is still on, the time, and random
numbers.  It is told of every sleep and of every frame that was shown.

On the virtual stage only sleeping moves the clock, random numbers come from given words, and the
show ends after a given number of frames or pauses.
-/

namespace LedStrip

/-- What a play asks of the place where it is played. -/
class Stage (σ : Type) where
  /-- Whether the show is still on. -/
  running : σ → Bool × σ
  /-- The time in nanoseconds. -/
  clock : σ → Nat × σ
  /-- A random number in a range, both ends included. -/
  random : Nat → Nat → σ → Nat × σ
  /-- Let so many nanoseconds pass. -/
  sleep : Nat → σ → σ
  /-- A frame was shown. -/
  shown : σ → σ

/-! ## Random numbers -/

/-- The largest word half for which a number in a range of `range` values is taken. -/
def sampleZone (range : Nat) : Nat := range <<< (63 - range.log2) - 1

/-- Draw one of `range` values from words, then zeros: each word is multiplied by the range, the low
half decides whether it counts, and the high half is the value.  The words that are left and the
number of words taken come with it. -/
def sampleBelow (range : Nat) : List UInt64 → Nat × List UInt64 × Nat
  | [] => (0, [], 1)
  | word :: rest =>
    let product := word.toNat * range
    if product % UInt64.size ≤ sampleZone range then (product / UInt64.size, rest, 1)
    else
      let (n, rest, taken) := sampleBelow range rest
      (n, rest, taken + 1)

/-- Draw a number from `low` up to `high`; a range of all words takes the next one as it is. -/
def sample (low high : Nat) (words : List UInt64) : Nat × List UInt64 × Nat :=
  if high - low + 1 = UInt64.size then ((words.headD 0).toNat, words.tail, 1)
  else
    let (n, rest, taken) := sampleBelow (high - low + 1) words
    (low + n, rest, taken)

/-! ## The virtual stage -/

/-- Where the clock stands, how much was seen, and when the show ends. -/
structure VirtualStage where
  /-- The time in nanoseconds. -/
  now : Nat
  on : Bool
  shows : Nat
  /-- The number of sleeps that took time. -/
  sleeps : Nat
  stopAfterShows : Option Nat
  stopAfterSleeps : Option Nat
  words : List UInt64
  wordsUsed : Nat

namespace VirtualStage

/-- The stage before the show: it is over at once if it ends after nothing. -/
def curtain (stopAfterShows stopAfterSleeps : Option Nat) : VirtualStage where
  now := 0
  on := stopAfterShows != some 0
  shows := 0
  sleeps := 0
  stopAfterShows := stopAfterShows
  stopAfterSleeps := stopAfterSleeps
  words := []
  wordsUsed := 0

/-- Take random numbers from these words from now on. -/
def withWords (s : VirtualStage) (words : List UInt64) : VirtualStage :=
  { s with words := words, wordsUsed := 0 }

instance : Stage VirtualStage where
  running s := (s.on, s)
  clock s := (s.now, s)
  random low high s :=
    let (n, rest, taken) := sample low high s.words
    (n, { s with words := rest, wordsUsed := s.wordsUsed + taken })
  sleep t s :=
    if t = 0 then s
    else
      let sleeps := s.sleeps + 1
      { s with
        now := s.now + t
        sleeps := sleeps
        on := s.on && s.stopAfterSleeps != some sleeps }
  shown s :=
    let shows := s.shows + 1
    { s with shows := shows, on := s.on && s.stopAfterShows != some shows }

end VirtualStage

end LedStrip
