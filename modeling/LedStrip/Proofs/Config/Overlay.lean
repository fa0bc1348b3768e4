import LedStrip.Proofs.Config.Reading
import LedStrip.Proofs.Json.Compact

/-!
# Configuration files

A file is read as the defaults overlaid by the settings that are written in it, in whatever order
and with whatever else among them; more entries than there are channels are refused, and so is a
field that is written twice (`load_overlay`).
-/

namespace LedStrip.StripConfig

open Json

theorem message_invalidLength (n : Nat) : (Cause.invalidLength n "at most 2 channels").message =
    "invalid length " ++ toString n ++ ", expected at most 2 channels" := by
  have ending : ", expected " ++ "at most 2 channels" = ", expected at most 2 channels" := by decide
  unfold Cause.message
  dsimp only
  rw [← ending, String.append_assoc, String.append_assoc]

theorem load_twice {text : String} (document : Document WrittenTwice text) :
    ∃ e, load (.ok text) = .error e := by
  rw [load_ok]
  rcases out : readDocument read text with fault | c
  · exact ⟨.malformed fault, rfl⟩
  obtain ⟨cs, twice | ⟨value, entries, gives, list, values, entry, mem, twice⟩, accepts⟩ :=
    accepts_of_readDocument document out
  · exact absurd accepts (not_accepts_twice rfl read_fields_exact twice _ _)
  · obtain ⟨f, known, name, r, accepts⟩ :=
      accepts_of_gives rfl read_fields_exact gives (by decide) accepts
    have channels : Accepts readChannels value := by
      simp only [fields, List.mem_cons, List.not_mem_nil, or_false] at known
      rcases known with rfl | rfl | rfl
      · exact absurd name (by decide)
      · exact absurd name (by decide)
      · exact Field.accepts_of accepts
    have accepts := accepts_of_list ChannelConfig.read_exact values list
      (accepts_of_readChannels channels) entry mem
    exact absurd accepts (not_accepts_twice rfl ChannelConfig.read_fields_exact twice _ _)

/-- A configuration file means the defaults overlaid by what is written. -/
theorem load_overlay :
    (∀ (p : Partial) (text : String), Document (scheme.Text p.settings) text →
      (p.entries.length ≤ channelCount → load (.ok text) = .ok p.config) ∧
      (channelCount < p.entries.length → ∃ fault, load (.ok text) = .error (.malformed fault) ∧
        fault.cause.category = .data ∧ fault.cause.message =
          "invalid length " ++ toString p.entries.length ++ ", expected at most 2 channels")) ∧
    ∀ text : String, Document WrittenTwice text → ∃ e, load (.ok text) = .error e := by
  refine ⟨fun p text document => ⟨fun few => load_of_document few document, fun many => ?_⟩,
    fun text document => load_twice document⟩
  · obtain ⟨fault, loaded, cause⟩ := load_of_many many document
    refine ⟨fault, loaded, ?_⟩
    rw [cause]
    exact ⟨rfl, message_invalidLength _⟩

/-- The first channel is written as the list of its pin and inversion, and the second one as an
object with its strip type behind a member that is no field. -/
def shuffled : Partial where
  freq := none
  dma := some 5
  channels := some [⟨some 18, some true, none, none, none⟩, ⟨none, none, none, none, some .grb⟩]

theorem document_shuffled : Document (scheme.Text shuffled.settings)
    "\x7b\"channels\":[[18,true],\x7b\"x\":null,\"strip_type\":\"WS2812\"\x7d],\"dma\":5\x7d" := by
  have denotes : ∀ s ∈ ["channels", "dma", "x", "strip_type", "WS2812"], Denotes s (quoted s) := by
    have plain : ["channels", "dma", "x", "strip_type", "WS2812"].all plainText = true := by decide
    exact fun s mem => denotes_quoted (List.all_eq_true.1 plain s mem)
  have first : ChannelConfig.scheme.Text [.gpio 18, .invert true] "[18,true]".toList := by
    have values : List.Forall₂ ChannelConfig.Setting.Spells [.gpio 18, .invert true]
        ["18".toList, "true".toList] := .cons rfl (.cons rfl .nil)
    exact .list (by decide) values (list_compact _ _)
  have second : ChannelConfig.scheme.Text [.stripType .grb]
      "\x7b\"x\":null,\"strip_type\":\"WS2812\"\x7d".toList := by
    have other : ChannelConfig.scheme.Writes none (.compact "x" "null".toList) :=
      .unknown (denotes "x" (by decide)) (by decide) .null
    have stripType : ChannelConfig.scheme.Writes (some (.stripType .grb))
        (.compact "strip_type" (quoted "WS2812")) :=
      .known (denotes "strip_type" (by decide)) ⟨"WS2812", rfl, denotes "WS2812" (by decide)⟩
    exact text_compact _ (.cons other (.cons stripType .nil)) .rfl
  have channels : scheme.Writes (some (.channels shuffled.entries)) (.compact "channels"
      "[[18,true],\x7b\"x\":null,\"strip_type\":\"WS2812\"\x7d]".toList) :=
    .known (denotes "channels" (by decide))
      ⟨_, .cons first (.cons second .nil), list_compact _ _⟩
  have dma : scheme.Writes (some (.dma 5)) (.compact "dma" "5".toList) :=
    .known (denotes "dma" (by decide)) rfl
  exact document_compact (text_compact _ (.cons channels (.cons dma .nil)) (.swap ..))

/-- The DMA channel is written twice. -/
theorem document_twice : Document WrittenTwice "\x7b\"dma\":5,\"dma\":5\x7d" := by
  have key : Denotes "dma" (quoted "dma") := denotes_quoted (by decide)
  have positive : [] ∈ [[], ['-']] := by decide
  have value : Value "5".toList := .number (.mk positive (whole_toDigits 5) .none .none)
  have object := object_compact (.compact "dma" "5".toList) [.compact "dma" "5".toList]
  refine document_compact (.inl ⟨_, object, ?_, "dma", by decide, _, _, .refl _, key, key⟩)
  intro m mem
  obtain rfl : m = .compact "dma" "5".toList := by simpa using mem
  exact ⟨isString_of_denotes key, value⟩

/-- Three entries, none of which writes anything. -/
def crowded : Partial where
  freq := none
  dma := none
  channels := some (List.replicate 3 ⟨none, none, none, none, none⟩)

theorem document_crowded :
    Document (scheme.Text crowded.settings) "\x7b\"channels\":[[],[],[]]\x7d" := by
  have entry := ChannelConfig.text_empty
  have channels : scheme.Writes (some (.channels crowded.entries))
      (.compact "channels" "[[],[],[]]".toList) :=
    .known (denotes_quoted (by decide))
      ⟨_, .cons entry (.cons entry (.cons entry .nil)), list_compact _ _⟩
  exact document_compact (text_compact _ (.cons channels .nil) .rfl)

theorem load_overlay_shuffled :
    load (.ok
          "\x7b\"channels\":[[18,true],\x7b\"x\":null,\"strip_type\":\"WS2812\"\x7d],\"dma\":5\x7d") =
        .ok ⟨800000, 5, #v[⟨18, true, 0, 255, .rgb⟩, ⟨0, false, 0, 255, .grb⟩]⟩ ∧
      (∃ fault, load (.ok "\x7b\"channels\":[[],[],[]]\x7d") = .error (.malformed fault) ∧
        fault.cause.category = .data ∧
        fault.cause.message = "invalid length 3, expected at most 2 channels") ∧
      ∃ e, load (.ok "\x7b\"dma\":5,\"dma\":5\x7d") = .error e :=
  ⟨(load_overlay.1 shuffled _ document_shuffled).1 (by decide),
    (load_overlay.1 crowded _ document_crowded).2 (by decide), load_overlay.2 _ document_twice⟩

end LedStrip.StripConfig
