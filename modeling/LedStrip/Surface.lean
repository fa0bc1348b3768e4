import LedStrip.Strip.Basic

/-!
# Drawing surfaces

A surface is a row of LEDs that can be drawn on and shown: a plain row, the active channel of a
strip, or a view of any channel.  Drawing comes as strokes; a stroke past the end is dropped.
-/

namespace LedStrip

/-- A row of LEDs to draw on. -/
class Surface (S : Type) where
  /-- The number of LEDs. -/
  length : S → Nat
  /-- Give one LED a color; past the end nothing happens. -/
  set : S → Nat → Color → S
  /-- Give every LED a color. -/
  fill : S → Color → S
  /-- Send what is drawn. -/
  present : S → Step S (Except Error Unit)
  /-- All LEDs that are sent, channel by channel. -/
  picture : S → List PixelBuffer

/-- A single act of drawing. -/
inductive Stroke where
  | set (i : Nat) (c : Color)
  | fill (c : Color)
  deriving DecidableEq, Repr

namespace Surface

variable {S : Type} [Surface S]

/-- Give every LED a color, one LED after the other. -/
def fillEach (s : S) (c : Color) : S := (List.range (length s)).foldl (fun s i => set s i c) s

/-- Draw one stroke. -/
def stroke (s : S) : Stroke → S
  | .set i c => set s i c
  | .fill c => fill s c

/-- Draw strokes one after the other. -/
def paint (s : S) (strokes : List Stroke) : S := strokes.foldl stroke s

/-- The events of strokes on a row of so many LEDs: one for each that misses it. -/
def missed (length : Nat) (strokes : List Stroke) : List Event :=
  strokes.filterMap fun
    | .set i _ => if length ≤ i then some (.ignoredWrite i length) else none
    | .fill _ => none

end Surface

/-! ## Plain rows -/

instance : Surface PixelBuffer where
  length := PixelBuffer.length
  set := PixelBuffer.set
  fill := PixelBuffer.fill
  present p := .silent p (.ok ())
  picture p := [p]

/-- A surface whose LEDs are filled one after the other. -/
structure FilledEach (S : Type) where
  surface : S

instance {S : Type} [Surface S] : Surface (FilledEach S) where
  length s := Surface.length s.surface
  set s i c := ⟨Surface.set s.surface i c⟩
  fill s c := ⟨Surface.fillEach s.surface c⟩
  present s := (Surface.present s.surface).lift .mk
  picture s := Surface.picture s.surface

/-! ## Strips and views -/

instance {β : Type} [Backend β] : Surface (Strip β) where
  length s := s.pixels.length
  set s i c := s.modify s.active (·.write (.set i c))
  fill s c := s.modify s.active (·.write (.fill c))
  present s := s.render
  picture s := s.channels.toList.map Channel.pixels

/-- A strip seen through one of its channels. -/
structure ChannelView (β : Type) where
  strip : Strip β
  index : ChannelIndex

/-- The view of a channel, if there is one of that index. -/
def Strip.view {β : Type} (s : Strip β) (i : Nat) : Except Error (ChannelView β) :=
  if h : i < channelCount then .ok ⟨s, ⟨i, h⟩⟩ else .error (.invalidChannel i)

instance {β : Type} [Backend β] : Surface (ChannelView β) where
  length v := (v.strip.channels.get v.index).pixels.length
  set v i c := { v with strip := v.strip.modify v.index (·.write (.set i c)) }
  fill v c := { v with strip := v.strip.modify v.index (·.write (.fill c)) }
  present v := v.strip.render.lift fun s => { v with strip := s }
  picture v := v.strip.channels.toList.map Channel.pixels

/-! ## Failing surfaces -/

/-- A surface on which one rendering fails: `failure` says which one, counted from one, and with
which code the driver answers it. -/
structure Faulty (S : Type) where
  surface : S
  attempts : Nat
  failure : Option (Nat × Int32)

namespace Faulty

variable {S T : Type}

/-- Whether the next rendering fails, and how. -/
def fault? (f : Faulty S) : Option Error :=
  match f.failure with
  | some (k, code) =>
    if k = f.attempts + 1 then
      match Driver.check .render code with
      | .ok () => none
      | .error e => some e
    else none
  | none => none

/-- Change the surface and keep the count of renderings. -/
def map (f : Faulty S) (g : S → T) : Faulty T := ⟨g f.surface, f.attempts, f.failure⟩

instance [Surface S] : Surface (Faulty S) where
  length f := Surface.length f.surface
  set f i c := { f with surface := Surface.set f.surface i c }
  fill f c := { f with surface := Surface.fill f.surface c }
  present f :=
    let counted (s : S) : Faulty S := ⟨s, f.attempts + 1, f.failure⟩
    match f.fault? with
    | some e => .silent (counted f.surface) (.error e)
    | none => (Surface.present f.surface).lift counted
  picture f := Surface.picture f.surface

end Faulty

end LedStrip
