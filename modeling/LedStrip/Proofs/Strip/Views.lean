import LedStrip.Proofs.Config.Validation
import LedStrip.Proofs.Strip.Request
import LedStrip.Proofs.Surface.Twins

/-!
# Drawing on one channel

A strip on which one channel is drawn on, be it the active one or one seen through a view.  The view
and the strip with this channel active are twins (`ChannelView.twins`).  Drawing changes the LEDs of
this channel and nothing else (`ChannelView.drawnOn_foldl`, `Strip.drawnOn_foldl`), and to fill the
channel is to set its LEDs one after the other (`Strip.fillsEvenly`, `ChannelView.fillsEvenly`).
-/

namespace LedStrip

variable {β : Type}

namespace Strip

/-! ## Changes of one channel -/

variable {s : Strip β} {i : ChannelIndex}

/-- Only what a change makes of its channel counts. -/
theorem modify_congr {f g : Channel → Channel}
    (same : f (s.channels.get i) = g (s.channels.get i)) : s.modify i f = s.modify i g := by
  have channels : (s.modify i f).channels = (s.modify i g).channels := by
    apply ext_get
    intro j
    rw [channels_modify, channels_modify]
    by_cases here : i = j
    · obtain rfl := here
      rw [if_pos rfl, if_pos rfl, same]
    · rw [if_neg here, if_neg here]
  exact congrArg (fun channels => { s with channels := channels }) channels

theorem modify_modify (s : Strip β) (i : ChannelIndex) (f g : Channel → Channel) :
    (s.modify i f).modify i g = s.modify i fun c => g (f c) := by
  have channels :
      ((s.modify i f).modify i g).channels = (s.modify i fun c => g (f c)).channels := by
    apply ext_get
    intro j
    rw [channels_modify, channels_modify, channels_modify]
    by_cases here : i = j
    · rw [if_pos here, if_pos here, if_pos here]
    · rw [if_neg here, if_neg here, if_neg here]
  exact congrArg (fun channels => { s with channels := channels }) channels

theorem modify_self (s : Strip β) (i : ChannelIndex) : s.modify i (fun c => c) = s := by
  have channels : (s.modify i fun c => c).channels = s.channels := by
    apply ext_get
    intro j
    rw [channels_modify]
    split <;> rfl
  exact congrArg (fun channels => { s with channels := channels }) channels

/-- Setting LEDs one after the other changes the channel once. -/
theorem foldl_set (s : Strip β) (i : ChannelIndex) (c : Color) (indices : List Nat) :
    indices.foldl (fun s k => s.modify i (·.write (.set k c))) s =
      s.modify i fun channel =>
        { channel with pixels := indices.foldl (fun p k => p.set k c) channel.pixels } := by
  induction indices generalizing s with
  | nil => exact (s.modify_self i).symm
  | cons k indices ih =>
    rw [List.foldl_cons, ih, modify_modify]
    rfl

/-- Setting all LEDs of a channel fills it. -/
theorem foldl_set_range (s : Strip β) (i : ChannelIndex) (c : Color) :
    (List.range (s.channels.get i).pixels.length).foldl
        (fun s k => s.modify i (·.write (.set k c))) s =
      s.modify i (·.write (.fill c)) := by
  rw [foldl_set]
  apply modify_congr
  have filled := Surface.fillEach_eq_fill (s.channels.get i).pixels c
  exact congrArg (fun pixels => { s.channels.get i with pixels := pixels }) filled

/-- Nothing but the colors of one channel is different, and perhaps the backend and which channel is
active. -/
structure DrawnOn (i : ChannelIndex) (s t : Strip β) : Prop where
  config : t.config = s.config
  others : ∀ j, j ≠ i → t.channels.get j = s.channels.get j
  length : ∀ j, (t.channels.get j).pixels.length = (s.channels.get j).pixels.length

theorem DrawnOn.of_channels {t : Strip β} (config : t.config = s.config)
    (channels : t.channels = s.channels) : DrawnOn i s t := by
  refine ⟨config, ?_, ?_⟩
  · rw [channels]
    exact fun _ _ => rfl
  · rw [channels]
    exact fun _ => rfl

theorem DrawnOn.refl (i : ChannelIndex) (s : Strip β) : DrawnOn i s s := .of_channels rfl rfl

theorem DrawnOn.trans {t u : Strip β} (first : DrawnOn i s t) (second : DrawnOn i t u) :
    DrawnOn i s u where
  config := second.config.trans first.config
  others j other := (second.others j other).trans (first.others j other)
  length j := (second.length j).trans (first.length j)

theorem DrawnOn.length_pixels {t : Strip β} (drawn : DrawnOn i s t) (same : t.active = s.active) :
    t.pixels.length = s.pixels.length := by
  rw [pixels, activeChannel, same]
  exact drawn.length s.active

theorem drawnOn_write (s : Strip β) (i : ChannelIndex) (w : PixelBuffer.Write) :
    DrawnOn i s (s.modify i (·.write w)) := by
  constructor
  · have configs : (s.modify i (·.write w)).channels.map Channel.config =
        s.channels.map Channel.config := by
      apply ext_get
      intro j
      rw [get_map, get_map, channels_modify]
      split <;> rfl
    exact congrArg (StripConfig.mk s.freq s.dma) configs
  · intro j other
    rw [channels_modify, if_neg other.symm]
  · exact fun j => s.length_modify i j fun c => PixelBuffer.length_apply c.pixels w

end Strip

variable [Backend β]

/-! ## Views -/

namespace ChannelView

/-- The strip of a view, with the channel of the view active. -/
def turned (v : ChannelView β) : Strip β := { v.strip with active := v.index }

theorem twins : Surface.Twins fun (s : Strip β) (v : ChannelView β) => s = v.turned where
  length twin := congrArg Surface.length twin
  stroke x twin := by
    subst twin
    cases x <;> rfl
  present twin := congrArg (fun s => (Surface.present s).state) twin
  result twin := by
    subst twin
    rfl
  log twin := by
    subst twin
    rfl
  picture twin := by
    subst twin
    rfl

/-- What drawing on a view and showing it leave as it was. -/
theorem drawnOn_apply (v : ChannelView β) (a : Act) :
    (a.apply v).index = v.index ∧ (a.apply v).strip.active = v.strip.active ∧
      Strip.DrawnOn v.index v.strip (a.apply v).strip := by
  cases a with
  | painted strokes =>
    show (strokes.foldl Surface.stroke v).index = _ ∧ _
    induction strokes generalizing v with
    | nil => exact ⟨rfl, rfl, .refl v.index v.strip⟩
    | cons x strokes ih =>
      have first : Strip.DrawnOn v.index v.strip (Surface.stroke v x).strip := by
        cases x <;> exact v.strip.drawnOn_write v.index _
      obtain ⟨index, active, drawn⟩ := ih (Surface.stroke v x)
      cases x <;> exact ⟨index, active, first.trans drawn⟩
  | shown | refused => exact ⟨rfl, rfl, .of_channels rfl rfl⟩
  | checked | timed | drew | slept | reported => exact ⟨rfl, rfl, .refl v.index v.strip⟩

theorem drawnOn_foldl (v : ChannelView β) (acts : List Act) :
    (acts.foldl Act.apply v).index = v.index ∧
      (acts.foldl Act.apply v).strip.active = v.strip.active ∧
      Strip.DrawnOn v.index v.strip (acts.foldl Act.apply v).strip := by
  induction acts generalizing v with
  | nil => exact ⟨rfl, rfl, .refl v.index v.strip⟩
  | cons a acts ih =>
    obtain ⟨index, active, drawn⟩ := v.drawnOn_apply a
    obtain ⟨index', active', drawn'⟩ := ih (a.apply v)
    rw [index] at drawn'
    exact ⟨index'.trans index, active'.trans active, drawn.trans drawn'⟩

theorem fillsEvenly : Surface.FillsEvenly (ChannelView β) := by
  intro v c
  have walk (indices : List Nat) : indices.foldl (fun v k => Surface.set v k c) v =
      ⟨indices.foldl (fun s k => s.modify v.index (·.write (.set k c))) v.strip, v.index⟩ := by
    induction indices generalizing v with
    | nil => rfl
    | cons k indices ih => exact ih (Surface.set v k c)
  exact (walk _).trans (congrArg (ChannelView.mk · v.index) (v.strip.foldl_set_range v.index c))

end ChannelView

namespace Strip

/-- A strip is the twin of the view of its active channel. -/
theorem drawnOn_foldl (s : Strip β) (acts : List Act) :
    (acts.foldl Act.apply s).active = s.active ∧ DrawnOn s.active s (acts.foldl Act.apply s) := by
  have twin := ChannelView.twins.foldl_apply acts (s := s) (t := ⟨s, s.active⟩) rfl
  obtain ⟨index, -, drawn⟩ := ChannelView.drawnOn_foldl ⟨s, s.active⟩ acts
  rw [twin]
  exact ⟨index, drawn.config, drawn.others, drawn.length⟩

theorem fillsEvenly : Surface.FillsEvenly (Strip β) := by
  intro s c
  have walk (indices : List Nat) : indices.foldl (fun s k => Surface.set s k c) s =
      indices.foldl (fun s' k => s'.modify s.active (·.write (.set k c))) s := by
    induction indices generalizing s with
    | nil => rfl
    | cons k indices ih => exact ih (Surface.set s k c)
  exact (walk _).trans (s.foldl_set_range s.active c)

end Strip

end LedStrip
