import LedStrip.Proofs.Config.Reading
import LedStrip.Proofs.Config.Validation
import LedStrip.Proofs.Json.Compact
import LedStrip.Proofs.StripType.Names

/-!
# Writing and reading back

What is written of a configuration is a compact object with all its settings, so it is read back as
that configuration, whatever its settings are (`load_toJson`).
-/

namespace LedStrip

open Json

theorem StripType.plain_name (t : StripType) : plainText t.name = true := by
  cases t <;> decide

theorem Json.Scheme.ReadBy.writes_compact {ρ σ : Type} {k : Scheme σ} {fields : List (Field ρ)}
    {put : σ → ρ → Except Cause ρ} (reads : k.ReadBy fields put)
    (plain : k.names.all plainText = true) {s : σ} {value : List Char}
    (spells : k.Spells s value) : k.Writes (some s) (.compact (k.name s) value) :=
  .known (denotes_quoted (List.all_eq_true.1 plain _ (reads.names ▸ reads.known s))) spells

namespace ChannelConfig

/-- All settings of a channel. -/
def whole (c : ChannelConfig) : Partial :=
  ⟨some c.gpio, some c.invert, some c.count, some c.brightness, some c.stripType⟩

theorem config_whole (c : ChannelConfig) : c.whole.config = c := rfl

/-- The text with these values is a compact object. -/
theorem toList_members (gpio invert count brightness stripType : String) :
    ("\x7b\"gpio\":" ++ gpio ++ ",\"invert\":" ++ invert ++ ",\"count\":" ++ count ++
        ",\"brightness\":" ++ brightness ++ ",\"strip_type\":\"" ++ stripType ++ "\"\x7d").toList =
      '\x7b' :: ((Member.compact "gpio" gpio.toList).text ++ behind '\x7d'
        ([.compact "invert" invert.toList, .compact "count" count.toList,
          .compact "brightness" brightness.toList,
          .compact "strip_type" (quoted stripType)].map Member.text)) := by
  simp [Member.compact, Member.text, behind, quoted]

theorem text_toJson (c : ChannelConfig) : scheme.Text c.whole.settings c.toJson.toList := by
  have plain : scheme.names.all plainText = true := by decide
  have named : Denotes c.stripType.name (quoted c.stripType.name) :=
    denotes_quoted c.stripType.plain_name
  have writes {s : Setting} {value : List Char} : s.Spells value →
      scheme.Writes (some s) (.compact s.name value) := readBy_scheme.writes_compact plain
  unfold toJson
  rw [toList_members]
  refine text_compact (c.whole.settings.map some) ?_ (.of_eq rfl)
  exact .cons (writes (s := .gpio c.gpio) rfl) <| .cons (writes (s := .invert c.invert) rfl) <|
    .cons (writes (s := .count c.count) rfl) <|
    .cons (writes (s := .brightness c.brightness) rfl) <|
    .cons (writes (s := .stripType c.stripType) ⟨_, StripType.parse_name _, named⟩) .nil

end ChannelConfig

namespace StripConfig

theorem toList_channels (c : StripConfig) :
    c.channels.toList = [c.channels.get 0, c.channels.get 1] := by
  obtain ⟨freq, dma, ⟨⟨list⟩, size⟩⟩ := c
  match list, size with
  | [first, second], _ => rfl

/-- All settings of a strip. -/
def whole (c : StripConfig) : Partial :=
  ⟨some c.freq, some c.dma, some (c.channels.toList.map ChannelConfig.whole)⟩

theorem config_whole (c : StripConfig) : c.whole.config = c := by
  have entries : c.whole.entries.map ChannelConfig.Partial.config = c.channels.toList := by
    simp [whole, Partial.entries, Function.comp_def, ChannelConfig.config_whole]
  have channels : c.whole.config.channels = c.channels := by
    refine ext_get fun i => ?_
    rw [Partial.config, get_ofFn, entries, getElem?_toList]
    rfl
  calc c.whole.config
    _ = ⟨c.freq, c.dma, c.whole.config.channels⟩ := rfl
    _ = c := by rw [channels]

/-- The text with these values is a compact object. -/
theorem toList_members (freq dma first second : String) :
    ("\x7b\"freq\":" ++ freq ++ ",\"dma\":" ++ dma ++ ",\"channels\":[" ++
        ",".intercalate [first, second] ++ "]\x7d").toList =
      '\x7b' :: ((Member.compact "freq" freq.toList).text ++ behind '\x7d'
        ([.compact "dma" dma.toList, .compact "channels"
          ('[' :: (first.toList ++ behind ']' [second.toList]))].map Member.text)) := by
  simp [Member.compact, Member.text, behind, quoted]

theorem text_toJson (c : StripConfig) : scheme.Text c.whole.settings c.toJson.toList := by
  have plain : scheme.names.all plainText = true := by decide
  have writes {s : Setting} {value : List Char} : s.Spells value →
      scheme.Writes (some s) (.compact s.name value) := readBy_scheme.writes_compact plain
  have channels : (Setting.channels (c.channels.toList.map ChannelConfig.whole)).Spells
      ('[' :: ((c.channels.get 0).toJson.toList ++
        behind ']' [(c.channels.get 1).toJson.toList])) := by
    rw [toList_channels]
    exact ⟨_, .cons (ChannelConfig.text_toJson _) (.cons (ChannelConfig.text_toJson _) .nil),
      list_compact _ _⟩
  unfold toJson
  rw [toList_channels, List.map_cons, List.map_cons, List.map_nil, toList_members]
  refine text_compact (c.whole.settings.map some) ?_ (.of_eq rfl)
  exact .cons (writes (s := .freq c.freq) rfl) <| .cons (writes (s := .dma c.dma) rfl) <|
    .cons (writes channels) .nil

/-- What is written of a configuration is read back as that configuration. -/
theorem load_toJson (c : StripConfig) : load (.ok c.toJson) = .ok c := by
  have few : c.whole.entries.length ≤ channelCount := by
    simp [whole, Partial.entries]
  rw [load_of_document few (document_compact c.text_toJson), config_whole]

end StripConfig

end LedStrip
