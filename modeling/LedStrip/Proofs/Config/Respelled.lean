import LedStrip.Proofs.Config.Reading
import LedStrip.Proofs.Config.Validation
import LedStrip.Proofs.Json.Respelled

/-!
# Configurations with one value spelled otherwise

A configuration file in which the value of one field is written in another way, be it a field of the
strip or one of a channel: it is read with the setting that the value is taken for, or refused for
the cause for which the value is (`StripConfig.load_own`, `StripConfig.load_entry`).
-/

namespace LedStrip

open Json

/-! ## Channels -/

namespace ChannelConfig

/-- The settings with one more, or another one for the same field. -/
def Partial.write (p : Partial) : Setting → Partial
  | .gpio n => { p with gpio := some n }
  | .invert b => { p with invert := some b }
  | .count n => { p with count := some n }
  | .brightness n => { p with brightness := some n }
  | .stripType t => { p with stripType := some t }

theorem Partial.mem_write (p : Partial) (s : Setting) : s ∈ (p.write s).settings := by
  cases s <;> simp [write, settings, List.reduceOption_mem_iff]

/-- To write a setting instead of one for the same field is to write it. -/
theorem Partial.map_instead (p : Partial) {s t : Setting} (same : t.name = s.name) :
    (p.write s).settings.map (instead Setting.name s.name t) = (p.write t).settings := by
  cases s <;> cases t <;> first
    | obtain ⟨_ | _, _ | _, _ | _, _ | _, _ | _⟩ := p <;> rfl
    | simp [Setting.name] at same

theorem read_respelled {s : Setting} {texts : List Char → Prop} {outcome : Except Cause Setting}
    (respelling : Respelling scheme fields Setting.put s.name texts outcome) (p : Partial)
    {cs : List Char} (text : (scheme.respell s.name texts).Text (p.write s).settings cs) :
    Yields read cs (outcome.map fun t => (p.write t).config) := by
  have nodup := readBy_scheme.nodup.sublist (p.write s).sublist_names
  have written : (outcome >>= fun t =>
      overlay Setting.put ((p.write s).settings.map (instead scheme.name s.name t)) unused) =
        outcome.map fun t => (p.write t).config := by
    rcases outcome with cause | t
    · rfl
    · exact (congrArg (overlay _ · _) (p.map_instead (respelling.named t rfl))).trans
        (p.write t).overlay_settings
  rw [← written]
  exact readRecord_respelled readBy_scheme put_comm respelling nodup ⟨s, p.mem_write s, rfl⟩
    (fun s' _ _ r => by cases s' <;> exact ⟨_, rfl⟩) text _ unused

end ChannelConfig

/-! ## Strips -/

namespace StripConfig

/-- The settings with one more, or another one for the same field. -/
def Partial.write (p : Partial) : Setting → Partial
  | .freq n => { p with freq := some n }
  | .dma n => { p with dma := some n }
  | .channels entries => { p with channels := some entries }

theorem Partial.mem_write (p : Partial) (s : Setting) : s ∈ (p.write s).settings := by
  cases s <;> simp [write, settings, List.reduceOption_mem_iff]

/-- To write a setting instead of one for the same field is to write it. -/
theorem Partial.map_instead (p : Partial) {s t : Setting} (same : t.name = s.name) :
    (p.write s).settings.map (instead Setting.name s.name t) = (p.write t).settings := by
  cases s <;> cases t <;> first
    | obtain ⟨_ | _, _ | _, _ | _⟩ := p <;> rfl
    | simp [Setting.name] at same

/-- The entries of a configuration are put into it unless there are too many. -/
theorem Partial.put_sound {p : Partial} (few : p.entries.length ≤ channelCount) {s t : Setting}
    (mem : t ∈ (p.write s).settings) (differ : t.name ≠ s.name) (r : StripConfig) :
    ∃ r', t.put r = .ok r' := by
  cases t with
  | freq n | dma n => exact ⟨_, rfl⟩
  | channels entries =>
    have kept : p.channels = some entries := by
      cases s with
      | freq n | dma n =>
        simpa [write, settings, List.reduceOption_mem_iff, eq_comm] using mem
      | channels _ => exact absurd rfl differ
    have fits : ¬channelCount < entries.length := by
      rw [Partial.entries, kept] at few
      exact Nat.not_lt.2 few
    exact ⟨_, congrArg (Except.map _) (if_neg fits)⟩

theorem read_respelled {s : Setting} {texts : List Char → Prop} {outcome : Except Cause Setting}
    (respelling : Respelling scheme fields Setting.put s.name texts outcome) {p : Partial}
    (few : p.entries.length ≤ channelCount) {cs : List Char}
    (text : (scheme.respell s.name texts).Text (p.write s).settings cs) :
    Yields read cs (outcome >>= fun t => if channelCount < (p.write t).entries.length then
      .error (.invalidLength (p.write t).entries.length "at most 2 channels")
      else .ok (p.write t).config) := by
  have nodup := readBy_scheme.nodup.sublist (p.write s).sublist_names
  have written : (outcome >>= fun t =>
      overlay Setting.put ((p.write s).settings.map (instead scheme.name s.name t)) default) =
        outcome >>= fun t => if channelCount < (p.write t).entries.length then
          .error (.invalidLength (p.write t).entries.length "at most 2 channels")
          else .ok (p.write t).config := by
    rcases outcome with cause | t
    · rfl
    · exact (congrArg (overlay _ · _) (p.map_instead (respelling.named t rfl))).trans
        (p.write t).overlay_settings
  rw [← written]
  exact readRecord_respelled readBy_scheme put_comm respelling nodup ⟨s, p.mem_write s, rfl⟩
    (fun t mem differ r => Partial.put_sound few mem differ r) text _ default

theorem load_respelled {s : Setting} {texts : List Char → Prop} {outcome : Except Cause Setting}
    (respelling : Respelling scheme fields Setting.put s.name texts outcome) {p : Partial}
    (few : p.entries.length ≤ channelCount)
    (few' : ∀ t, outcome = .ok t → (p.write t).entries.length ≤ channelCount) {text : String}
    (document : Document ((scheme.respell s.name texts).Text (p.write s).settings) text) :
    (∀ t, outcome = .ok t → load (.ok text) = .ok (p.write t).config) ∧
    ∀ cause, outcome = .error cause →
      ∃ fault, load (.ok text) = .error (.malformed fault) ∧ fault.cause = cause := by
  constructor
  · rintro t rfl
    refine load_of_ok (fun cs written => ?_) document
    have yields := read_respelled respelling few written
    change Yields read cs (if _ then _ else _) at yields
    rwa [if_neg (Nat.not_lt.2 (few' t rfl))] at yields
  · rintro cause rfl
    exact load_of_error (fun cs written => read_respelled respelling few written) document

/-- A configuration file with the value of a field spelled otherwise. -/
theorem load_own {s : Setting} (own : s.name ≠ "channels") {texts : List Char → Prop}
    {outcome : Except Cause Setting}
    (respelling : Respelling scheme fields Setting.put s.name texts outcome) {p : Partial}
    (few : p.entries.length ≤ channelCount) {text : String}
    (document : Document ((scheme.respell s.name texts).Text (p.write s).settings) text) :
    (∀ t, outcome = .ok t → load (.ok text) = .ok (p.write t).config) ∧
    ∀ cause, outcome = .error cause →
      ∃ fault, load (.ok text) = .error (.malformed fault) ∧ fault.cause = cause := by
  refine load_respelled respelling few (fun t ok => ?_) document
  cases t with
  | freq n | dma n => exact few
  | channels entries => exact absurd (respelling.named _ ok).symm own

/-! ### Entries -/

/-- The texts of a list of channels in which one value of an entry is spelled otherwise. -/
def EntriesText (entries : List ChannelConfig.Partial) (i : Nat) (s : ChannelConfig.Setting)
    (texts : List Char → Prop) (cs : List Char) : Prop :=
  ∃ before entry after ts t ts', entries = before ++ entry :: after ∧ before.length = i ∧
    List.Forall₂ (fun p => ChannelConfig.scheme.Text p.settings) before ts ∧
    (ChannelConfig.scheme.respell s.name texts).Text (entry.write s).settings t ∧
    List.Forall₂ (fun p => ChannelConfig.scheme.Text p.settings) after ts' ∧
    IsList (ts ++ t :: ts') cs

/-- The texts of a configuration in which one value of an entry is spelled otherwise. -/
def EntryText (p : Partial) (i : Nat) (s : ChannelConfig.Setting) (texts : List Char → Prop) :
    List Char → Prop :=
  (scheme.respell "channels" (EntriesText p.entries i s texts)).Text
    (p.write (.channels p.entries)).settings

/-- The settings with one more written into an entry. -/
def Partial.writeEntry (p : Partial) (i : Nat) (s : ChannelConfig.Setting) : Partial :=
  p.write (.channels (p.entries.modify i (·.write s)))

theorem readChannels_respelled {s : ChannelConfig.Setting} {texts : List Char → Prop}
    {outcome : Except Cause ChannelConfig.Setting}
    (respelling : Respelling ChannelConfig.scheme ChannelConfig.fields ChannelConfig.Setting.put
      s.name texts outcome) {entries : List ChannelConfig.Partial} {i : Nat} {cs : List Char}
    (text : EntriesText entries i s texts cs) :
    Yields readChannels cs
      ((outcome.map fun t => entries.modify i (·.write t)) >>= fill) := by
  obtain ⟨before, entry, after, ts, t, ts', rfl, rfl, written, here, written', list⟩ := text
  have begins : ∀ u ∈ ts ++ t :: ts', Begins u := by
    intro u mem
    rcases List.mem_append.1 mem with mem | mem
    · exact begins_of_written written u mem
    rcases List.mem_cons.1 mem with rfl | mem
    · exact here.begins
    · exact begins_of_written written' u mem
  refine readChannels_of_list ?_
  have yields := readList_respelled (yields_of_written written) (yields_of_written written')
    (ChannelConfig.read_respelled respelling entry here) begins list
  rcases outcome with cause | t
  · exact yields
  · have replaced : ((before ++ entry :: after).modify before.length (·.write t)).map
        ChannelConfig.Partial.config = before.map ChannelConfig.Partial.config ++
          (entry.write t).config :: after.map ChannelConfig.Partial.config := by
      rw [List.modify_eq_take_cons_drop (by simp)]
      simp
    exact (congrArg (fun list => Yields _ _ (.ok list)) replaced).mpr yields

theorem respelling_channels {s : ChannelConfig.Setting} {texts : List Char → Prop}
    {outcome : Except Cause ChannelConfig.Setting}
    (respelling : Respelling ChannelConfig.scheme ChannelConfig.fields ChannelConfig.Setting.put
      s.name texts outcome) (entries : List ChannelConfig.Partial) (i : Nat) :
    Respelling scheme fields Setting.put "channels" (EntriesText entries i s texts)
      (outcome.map fun t => .channels (entries.modify i (·.write t))) where
  named := by
    intro t ok
    rcases outcome with cause | a <;> cases ok
    rfl
  begins := by
    rintro text ⟨_, _, _, _, _, _, _, _, _, _, _, list⟩
    exact list.begins
  yields := by
    intro f mem same text written r
    obtain rfl := List.inj_on_of_nodup_map readBy_scheme.nodup_names mem
      (List.mem_of_getElem? (i := 2) rfl) same
    have kept : ((outcome.map fun t => Setting.channels (entries.modify i (·.write t))) >>=
        fun t => t.put r) = ((outcome.map fun t => entries.modify i (·.write t)) >>= fill).map
          fun chs => { r with channels := chs } := by
      cases outcome <;> rfl
    rw [kept]
    exact Field.of_yields _ (readChannels_respelled respelling written) _ r

/-- A configuration file with a value of one of its entries spelled otherwise. -/
theorem load_entry {s : ChannelConfig.Setting} {texts : List Char → Prop}
    {outcome : Except Cause ChannelConfig.Setting}
    (respelling : Respelling ChannelConfig.scheme ChannelConfig.fields ChannelConfig.Setting.put
      s.name texts outcome) {p : Partial} (few : p.entries.length ≤ channelCount) {i : Nat}
    {text : String} (document : Document (EntryText p i s texts) text) :
    (∀ t, outcome = .ok t → load (.ok text) = .ok (p.writeEntry i t).config) ∧
    ∀ cause, outcome = .error cause →
      ∃ fault, load (.ok text) = .error (.malformed fault) ∧ fault.cause = cause := by
  have fits (t : ChannelConfig.Setting) : (p.writeEntry i t).entries.length ≤ channelCount := by
    change (p.entries.modify i (·.write t)).length ≤ channelCount
    rwa [List.length_modify]
  have loaded := load_respelled (s := .channels p.entries)
    (respelling_channels respelling p.entries i) few ?_ document
  · constructor
    · rintro t rfl
      exact loaded.1 _ rfl
    · rintro cause rfl
      exact loaded.2 _ rfl
  · intro t ok
    rcases outcome with cause | a <;> cases ok
    exact fits a

/-- A file in which a value of an entry is spelled otherwise has that entry. -/
theorem entry_of_document {p : Partial} {i : Nat} {s : ChannelConfig.Setting}
    {texts : List Char → Prop} {text : String} (document : Document (EntryText p i s texts) text) :
    ∃ entry, p.entries[i]? = some entry := by
  obtain ⟨-, cs, -, -, -, written, -⟩ := document
  obtain ⟨value, spells⟩ := written.spelled (p.mem_write (.channels p.entries))
  obtain ⟨before, entry, after, -, -, -, entries, rfl, -⟩ := spells
  refine ⟨entry, ?_⟩
  rw [entries, List.getElem?_append_right (Nat.le_refl _), Nat.sub_self]
  rfl

theorem Partial.config_writeEntry {p : Partial} {i : ChannelIndex}
    {entry : ChannelConfig.Partial} (here : p.entries[i.val]? = some entry)
    (s : ChannelConfig.Setting) :
    (p.writeEntry i s).config.channels.get i = (entry.write s).config := by
  change (Vector.ofFn fun j : ChannelIndex => ((p.entries.modify i (·.write s)).map
    ChannelConfig.Partial.config)[j.val]?.getD .unused).get i = _
  rw [get_ofFn, List.getElem?_map, List.getElem?_modify_eq, here]
  rfl

end StripConfig

end LedStrip
