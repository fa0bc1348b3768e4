import LedStrip.Cli.Options
import LedStrip.Proofs.Config.Respelled
import LedStrip.Proofs.Config.RoundTrip

/-!
# Spellings of strip types

A strip type is written in three places: as a text that is read by itself, as a string in a
configuration file, and as an option of the command line.  All three take the same spellings for the
same types, however the string is escaped, and what is written of a type is read back
(`StripType.spellings`).
-/

namespace LedStrip

open Json

/-! ## Files -/

namespace StripType

variable {s text : String} {t : StripType}

/-- A document with a string comes to the type that the string names, or to a refusal. -/
theorem readDocument_denotes (document : Document (Denotes s) text) :
    (readDocument read text).mapError Fault.cause =
      (parse s).mapError fun e => .rejected e.message :=
  readDocument_yields (fun _ => read_denotes) document

theorem readDocument_of_parse (document : Document (Denotes s) text) (named : parse s = .ok t) :
    readDocument read text = .ok t := by
  have outcome := readDocument_denotes document
  rw [named] at outcome
  rcases out : readDocument read text with fault | t' <;> rw [out] at outcome <;> cases outcome
  rfl

theorem toList_toJson (t : StripType) : t.toJson.toList = quoted t.name := by
  simp [toJson, quoted]

theorem readDocument_toJson (t : StripType) : readDocument read t.toJson = .ok t := by
  have document : Document (Denotes t.name) t.toJson := by
    refine document_compact ?_
    rw [toList_toJson]
    exact denotes_quoted t.plain_name
  exact readDocument_of_parse document t.parse_name

end StripType

theorem ChannelConfig.respelling_stripType (s : String) :
    Respelling scheme fields Setting.put "strip_type" (Denotes s)
      (((StripType.parse s).mapError fun e => .rejected e.message).map Setting.stripType) :=
  .of_field readBy_scheme.nodup_names (List.mem_of_getElem? (i := 4) rfl) (fun _ => rfl)
    (fun denotes => (isString_of_denotes denotes).begins) (fun _ _ => rfl) StripType.read_denotes

/-! ## The command line -/

namespace Cli

theorem argument_stripType (s : String) :
    Argument.of ("--strip-type=" ++ s) = .long "strip-type" (some s) := by
  have front : ("--strip-type=" ++ s).toList = "--strip-type=".toList ++ s.toList :=
    String.toList_append
  have long : Argument.of ("--strip-type=" ++ s) =
      .long "strip-type" (some (String.ofList s.toList)) := by
    rw [Argument.of, front]
    rfl
  rwa [String.ofList_toList] at long

/-- A command line that gives nothing but a strip type. -/
theorem invocation_stripType (s : String) : invocation ["--strip-type=" ++ s] =
    ((StripType.parse s).toOption.map fun t =>
      .run { Options.default with stripType := t }).getD .misuse := by
  have noSwitch : Switch.ofName? "strip-type" = none := by decide
  have option : valueOptions.find? (fun v => v.name == "strip-type") =
      some ⟨"strip-type", false, fun s o =>
        (StripType.parse s).toOption.map fun t => { o with stripType := t }⟩ := rfl
  unfold invocation readArguments
  rw [argument_stripType]
  dsimp only
  rw [noSwitch, option]
  dsimp only
  rw [give, if_neg (by decide)]
  dsimp only
  cases (StripType.parse s).toOption <;> rfl

end Cli

/-! ## All three -/

namespace StripType

/-- The strip type of a channel in a configuration file. -/
theorem load_stripType (s : String) {p : StripConfig.Partial} {i : ChannelIndex} {text : String}
    (few : p.entries.length ≤ channelCount)
    (document : Document (StripConfig.EntryText p i (.stripType .rgb) (Denotes s)) text) :
    (∀ t, parse s = .ok t → ∃ c, StripConfig.load (.ok text) = .ok c ∧
      c = (p.writeEntry i (.stripType t)).config ∧ (c.channels.get i).stripType = t) ∧
    ∀ e, parse s = .error e → ∃ fault, StripConfig.load (.ok text) = .error (.malformed fault) ∧
      fault.cause = .rejected e.message := by
  have loaded := StripConfig.load_entry (s := .stripType .rgb)
    (ChannelConfig.respelling_stripType s) few document
  constructor
  · intro t named
    obtain ⟨entry, here⟩ := StripConfig.entry_of_document document
    refine ⟨_, loaded.1 (.stripType t) (by rw [named]; rfl), rfl, ?_⟩
    rw [StripConfig.Partial.config_writeEntry here]
    rfl
  · exact fun e refused => loaded.2 _ (by rw [refused]; rfl)

/-- A text names a strip type just if what is left of it without the blanks at its ends is a
spelling of that type but for the case of ASCII letters, and it does so wherever it is read. -/
theorem spellings (s : String) :
    (∃ core, Text.Core s.toList core) ∧
    (∀ core, Text.Core s.toList core →
      (∀ t, parse s = .ok t ↔ Spelling t (String.ofList (core.map Char.toLower))) ∧
      ((∃ c ∈ core, 128 ≤ c.toNat ∨ Text.isBlank c = true) → parse s = .error ⟨s⟩)) ∧
    (∀ (s' : String) (before core after : List Char), s'.toList = before ++ (core ++ after) →
      (∀ c ∈ before, Text.isBlank c = true) → (∀ c ∈ after, Text.isBlank c = true) →
      Text.SameLetters s.toList core → (parse s').toOption = (parse s).toOption) ∧
    (∀ e, parse s = .error e → e.message = "unknown strip type '" ++ s ++ "'") ∧
    (∀ t : StripType, parse t.name = .ok t ∧ readDocument read t.toJson = .ok t) ∧
    (∀ text, Document (Denotes s) text → (readDocument read text).mapError Fault.cause =
      (parse s).mapError fun e => .rejected e.message) ∧
    (Cli.invocation ["--strip-type=" ++ s] = ((parse s).toOption.map fun t =>
      .run { Cli.Options.default with stripType := t }).getD .misuse) ∧
    ∀ (p : StripConfig.Partial) (i : ChannelIndex) (text : String),
      p.entries.length ≤ channelCount →
      Document (StripConfig.EntryText p i (.stripType .rgb) (Denotes s)) text →
      (∀ t, parse s = .ok t → ∃ c, StripConfig.load (.ok text) = .ok c ∧
        c = (p.writeEntry i (.stripType t)).config ∧ (c.channels.get i).stripType = t) ∧
      ∀ e, parse s = .error e → ∃ fault, StripConfig.load (.ok text) = .error (.malformed fault) ∧
        fault.cause = .rejected e.message := by
  refine ⟨⟨_, Text.core_trim _⟩, fun core left => ⟨fun t => parse_eq_ok_iff left, parse_odd left⟩,
    fun s' before core after whole blank blank' same => ?_, fun e refused => ?_,
    fun t => ⟨t.parse_name, t.readDocument_toJson⟩, fun text => readDocument_denotes,
    Cli.invocation_stripType s, fun p i text few => load_stripType s few⟩
  · exact parse_congr (key_congr whole blank blank' same)
  · rw [text_of_parse refused]
    rfl

/-- One channel, of which nothing is written but a strip type. -/
def lone : StripConfig.Partial where
  freq := none
  dma := none
  channels := some [⟨none, none, none, none, none⟩]

theorem document_lone :
    Document (StripConfig.EntryText lone 0 (.stripType .rgb) (Denotes "WS2812"))
      "\x7b\"channels\":[\x7b\"strip_type\":\"WS2812\"\x7d]\x7d" := by
  have stripType : (ChannelConfig.scheme.respell "strip_type" (Denotes "WS2812")).Writes
      (some (.stripType .rgb)) (.compact "strip_type" (quoted "WS2812")) :=
    .known (denotes_quoted (s := "strip_type") (by decide)) (denotes_quoted (by decide))
  have entry : (ChannelConfig.scheme.respell "strip_type" (Denotes "WS2812")).Text
      [.stripType .rgb] "\x7b\"strip_type\":\"WS2812\"\x7d".toList :=
    text_compact _ (.cons stripType .nil) .rfl
  have entries : StripConfig.EntriesText lone.entries 0 (.stripType .rgb) (Denotes "WS2812")
      "[\x7b\"strip_type\":\"WS2812\"\x7d]".toList :=
    ⟨[], ⟨none, none, none, none, none⟩, [], [], _, [], rfl, rfl, .nil, entry, .nil,
      list_compact _ _⟩
  have channels : (StripConfig.scheme.respell "channels"
      (StripConfig.EntriesText lone.entries 0 (.stripType .rgb) (Denotes "WS2812"))).Writes
        (some (.channels lone.entries))
        (.compact "channels" "[\x7b\"strip_type\":\"WS2812\"\x7d]".toList) :=
    .known (denotes_quoted (s := "channels") (by decide)) entries
  exact document_compact (text_compact _ (.cons channels .nil) .rfl)

/-- A string in which the first letter is given by its code, behind a blank. -/
theorem document_escaped : Document (Denotes "WS2812") " \"\\u0057S2812\"" := by
  have code : HexCode "0057".toList 'W'.toNat :=
    .mk (i := 0) (j := 0) (k := 5) (l := 7) (.inl rfl) (.inl rfl) (.inl rfl) (.inl rfl)
  have others : Spelled "S2812".toList "S2812".toList := spelled_plainText (by decide)
  have blank : Blank [' '] := List.forall_mem_singleton.2 List.mem_cons_self
  exact ⟨[' '], _, [], blank, blank_nil, .mk (.code code others), rfl⟩

/-- Capitals, blanks around and within a text, an escape, and a file. -/
theorem spellings_capitals :
    parse "WS2812" = .ok .grb ∧ parse "rgb w" = .error ⟨"rgb w"⟩ ∧
    (parse "\u00a0Ws2812 ").toOption = some .grb ∧
    (readDocument read " \"\\u0057S2812\"").mapError Fault.cause = .ok .grb ∧
    ∃ c, StripConfig.load (.ok "\x7b\"channels\":[\x7b\"strip_type\":\"WS2812\"\x7d]\x7d") =
      .ok c ∧ (c.channels.get 0).stripType = .grb := by
  obtain ⟨-, core, varied, -, -, json, -, file⟩ := spellings "WS2812"
  have named : parse "WS2812" = .ok .grb := ((core _ (Text.core_trim _)).1 .grb).2 .ws2812
  have refused := ((spellings "rgb w").2.1 _ (Text.core_trim _)).2 ⟨' ', by decide, .inr rfl⟩
  have letters : Text.SameLetters "WS2812".toList "Ws2812".toList :=
    .cons rfl (.cons rfl (.cons rfl (.cons rfl (.cons rfl (.cons rfl .nil)))))
  have same := varied "\u00a0Ws2812 " ['\u00a0'] _ [' '] rfl (List.forall_mem_singleton.2 rfl)
    (List.forall_mem_singleton.2 rfl) letters
  obtain ⟨c, loaded, -, stripType⟩ := (file lone 0 _ (by decide) document_lone).1 .grb named
  refine ⟨named, refused, ?_, ?_, c, loaded, stripType⟩
  · rw [same, named]
    rfl
  · rw [json _ document_escaped, named]
    rfl

end StripType

end LedStrip
