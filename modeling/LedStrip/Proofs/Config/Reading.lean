import LedStrip.Proofs.Config.Written
import LedStrip.Proofs.Json.Accepted

/-!
# Reading configurations

The readers of channels and strips follow their schemes: each puts the settings that are written
over the settings of an unused channel or over the defaults (`ChannelConfig.read_yields`,
`StripConfig.read_yields`).
-/

namespace LedStrip

open Json

/-! ## Strip types -/

/-- A string is read as the strip type that it names, and refused if it names none. -/
theorem StripType.read_denotes {s : String} {cs : List Char} (denotes : Denotes s cs) :
    Yields StripType.read cs ((StripType.parse s).mapError fun e => .rejected e.message) := by
  intro w rest blank ends
  rw [StripType.read, (readText_denotes denotes).eq_ok blank ends]
  simp only [bind, Except.bind]
  cases StripType.parse s <;> rfl

theorem StripType.read_yields {s : String} {t : StripType} {cs : List Char}
    (named : StripType.parse s = .ok t) (denotes : Denotes s cs) :
    Yields StripType.read cs (.ok t) := by
  have yields := read_denotes denotes
  rwa [named] at yields

theorem StripType.read_exact : Exact StripType.read := by
  intro v w rest t rest' value blank ends accepted
  obtain ⟨⟨s, rest''⟩, text, named⟩ := bind_eq_ok.1 accepted
  obtain rfl := readText_exact _ value blank ends text
  dsimp only at named
  split at named <;> cases named
  rfl

/-! ## Channels -/

namespace ChannelConfig

/-- The channel with a setting put into it. -/
def Setting.put : Setting → ChannelConfig → Except Cause ChannelConfig
  | gpio n, c => .ok { c with gpio := n }
  | invert b, c => .ok { c with invert := b }
  | count n, c => .ok { c with count := n }
  | brightness n, c => .ok { c with brightness := n }
  | stripType t, c => .ok { c with stripType := t }

theorem put_comm (s t : Setting) (c : ChannelConfig) (differ : scheme.name s ≠ scheme.name t) :
    s.put c >>= t.put = t.put c >>= s.put := by
  cases s <;> cases t <;> first | rfl | exact absurd rfl differ

theorem readBy_scheme : scheme.ReadBy fields Setting.put where
  names := rfl
  nodup := by decide
  begins := by
    intro s text spells
    cases s with
    | gpio n => exact spells ▸ begins_toString n.toNat
    | invert b => exact spells ▸ begins_toString_bool b
    | count n => exact spells ▸ begins_toString n.toNat
    | brightness n => exact spells ▸ begins_toString n.toNat
    | stripType t =>
      obtain ⟨s, -, denotes⟩ := spells
      exact (isString_of_denotes denotes).begins
  reads := by
    intro s
    cases s with
    | gpio n =>
      refine ⟨_, List.mem_of_getElem? (i := 0) rfl, rfl, fun spells r => ?_⟩
      obtain rfl := spells
      exact Field.of_u8 "gpio" (fun n c => { c with gpio := n }) n r
    | invert b =>
      refine ⟨_, List.mem_of_getElem? (i := 1) rfl, rfl, fun spells r => ?_⟩
      obtain rfl := spells
      exact Field.of_yields _ (readBool_append b) _ r
    | count n =>
      refine ⟨_, List.mem_of_getElem? (i := 2) rfl, rfl, fun spells r => ?_⟩
      obtain rfl := spells
      have back : { r with count := n } = { r with count := UInt64.ofNat n.toNat } := by
        rw [UInt64.ofNat_toNat]
      rw [Setting.put, back]
      exact Field.of_integer _ _ (Nat.le_of_lt_succ n.toNat_lt) (by decide) _ r
    | brightness n =>
      refine ⟨_, List.mem_of_getElem? (i := 3) rfl, rfl, fun spells r => ?_⟩
      obtain rfl := spells
      exact Field.of_u8 "brightness" (fun n c => { c with brightness := n }) n r
    | stripType t =>
      refine ⟨_, List.mem_of_getElem? (i := 4) rfl, rfl, fun spells r => ?_⟩
      obtain ⟨s, named, denotes⟩ := spells
      exact Field.of_yields _ (StripType.read_yields named denotes) _ r

theorem Partial.sublist_names (p : Partial) :
    (p.settings.map scheme.name).Sublist scheme.names := by
  refine Scheme.sublist_names (.cons ?_ (.cons ?_ (.cons ?_ (.cons ?_ (.cons ?_ .nil)))))
  all_goals
    intro s mem
    obtain ⟨value, -, rfl⟩ := Option.map_eq_some_iff.1 mem
    rfl

/-- An empty list writes nothing of a channel. -/
theorem text_empty : scheme.Text [] "[]".toList :=
  .list List.nil_prefix .nil ⟨.nil blank_nil⟩

theorem Partial.overlay_settings (p : Partial) :
    overlay Setting.put p.settings unused = .ok p.config := by
  obtain ⟨_ | _, _ | _, _ | _, _ | _, _ | _⟩ := p <;> rfl

/-- A channel is read as the settings that are written for it mean it. -/
theorem read_yields (p : Partial) {cs : List Char} (text : scheme.Text p.settings cs) :
    Yields read cs (.ok p.config) := by
  rw [← p.overlay_settings]
  exact readRecord_yields readBy_scheme put_comm (readBy_scheme.nodup.sublist p.sublist_names) text
    _ unused

theorem read_fields_exact : ∀ f ∈ fields, ∀ r, Exact (f.read r) := by
  intro f mem r
  simp only [fields, List.mem_cons, List.not_mem_nil, or_false] at mem
  rcases mem with rfl | rfl | rfl | rfl | rfl
  · exact Field.of_exact _ (readInteger_exact _ _) _ r
  · exact Field.of_exact _ readBool_exact _ r
  · exact Field.of_exact _ (readInteger_exact _ _) _ r
  · exact Field.of_exact _ (readInteger_exact _ _) _ r
  · exact Field.of_exact _ StripType.read_exact _ r

theorem read_exact : Exact read := readRecord_exact read_fields_exact _ _

end ChannelConfig

/-! ## Strips -/

namespace StripConfig

/-- The channels that so many entries stand for. -/
def fill (entries : List ChannelConfig.Partial) :
    Except Cause (Vector ChannelConfig channelCount) :=
  if channelCount < entries.length then .error (.invalidLength entries.length "at most 2 channels")
  else .ok (.ofFn fun i => (entries.map ChannelConfig.Partial.config)[i.val]?.getD .unused)

theorem readChannels_of_list {outcome : Except Cause (List ChannelConfig.Partial)} {cs : List Char}
    (list : Yields (readList ChannelConfig.read) cs
      (outcome.map (List.map ChannelConfig.Partial.config))) :
    Yields readChannels cs (outcome >>= fill) := by
  intro w rest blank ends
  have result := list w rest blank ends
  rw [readChannels]
  generalize readList ChannelConfig.read (w ++ (cs ++ rest)) = out at result ⊢
  rcases outcome with cause | entries
  · rcases out with (_ | _) | _ <;> cases result <;> rfl
  · obtain rfl := eq_ok_of_verdict result
    change verdict (if _ then _ else _) = (fill entries).map _
    rw [fill, List.length_map]
    split <;> rfl

theorem yields_of_written {entries : List ChannelConfig.Partial} {texts : List (List Char)}
    (written : List.Forall₂ (fun p => ChannelConfig.scheme.Text p.settings) entries texts) :
    List.Forall₂ (fun c t => Yields ChannelConfig.read t (.ok c))
      (entries.map ChannelConfig.Partial.config) texts :=
  List.forall₂_map_left_iff.2 (written.imp fun p _ text => ChannelConfig.read_yields p text)

theorem begins_of_written {entries : List ChannelConfig.Partial} {texts : List (List Char)}
    (written : List.Forall₂ (fun p => ChannelConfig.scheme.Text p.settings) entries texts) :
    ∀ t ∈ texts, Begins t := by
  induction written with
  | nil => exact nofun
  | cons text _ ih => exact List.forall_mem_cons.2 ⟨text.begins, ih⟩

theorem readChannels_yields {entries : List ChannelConfig.Partial} {texts : List (List Char)}
    (written : List.Forall₂ (fun p => ChannelConfig.scheme.Text p.settings) entries texts)
    {cs : List Char} (list : IsList texts cs) : Yields readChannels cs (fill entries) := by
  have read : Yields (readList ChannelConfig.read) cs
      ((Except.ok entries).map (List.map ChannelConfig.Partial.config)) :=
    readList_yields (yields_of_written written) (begins_of_written written) list
  exact readChannels_of_list read

theorem readChannels_exact : Exact readChannels := by
  intro v w rest chs rest' value blank ends accepted
  obtain ⟨⟨list, rest''⟩, read, counted⟩ := bind_eq_ok.1 accepted
  obtain rfl := readList_exact ChannelConfig.read_exact value blank ends read
  dsimp only at counted
  split at counted <;> cases counted
  rfl

theorem accepts_of_readChannels {text : List Char} (accepts : Accepts readChannels text) :
    Accepts (readList ChannelConfig.read) text := by
  obtain ⟨w, rest, out, blank, ends, accepted⟩ := accepts
  obtain ⟨out', read, -⟩ := bind_eq_ok.1 accepted
  exact ⟨w, rest, out', blank, ends, read⟩

/-- The strip with a setting put into it. -/
def Setting.put : Setting → StripConfig → Except Cause StripConfig
  | freq n, c => .ok { c with freq := n }
  | dma n, c => .ok { c with dma := n }
  | channels entries, c => (fill entries).map fun chs => { c with channels := chs }

theorem put_channels_comm (entries : List ChannelConfig.Partial) (s : Setting) (c : StripConfig)
    (differ : s.name ≠ "channels") :
    (Setting.channels entries).put c >>= s.put = s.put c >>= (Setting.channels entries).put := by
  cases s with
  | channels _ => exact absurd rfl differ
  | freq n | dma n =>
    change (fill entries).map _ >>= _ = (fill entries).map _
    cases fill entries <;> rfl

theorem put_comm (s t : Setting) (c : StripConfig) (differ : scheme.name s ≠ scheme.name t) :
    s.put c >>= t.put = t.put c >>= s.put := by
  cases s with
  | channels entries => exact put_channels_comm entries t c differ.symm
  | freq n | dma n =>
    cases t with
    | channels entries => exact (put_channels_comm entries _ c (by exact differ)).symm
    | _ => first | rfl | exact absurd rfl differ

theorem readBy_scheme : scheme.ReadBy fields Setting.put where
  names := rfl
  nodup := by decide
  begins := by
    intro s text spells
    cases s with
    | freq n => exact spells ▸ begins_toString n.toNat
    | dma n => exact spells ▸ begins_toString n.toNat
    | channels entries =>
      obtain ⟨texts, -, list⟩ := spells
      exact list.begins
  reads := by
    intro s
    cases s with
    | freq n =>
      refine ⟨_, List.mem_of_getElem? (i := 0) rfl, rfl, fun spells r => ?_⟩
      obtain rfl := spells
      have back : { r with freq := n } = { r with freq := UInt32.ofNat n.toNat } := by
        rw [UInt32.ofNat_toNat]
      rw [Setting.put, back]
      exact Field.of_integer _ _ (Nat.le_of_lt_succ n.toNat_lt) (by decide) _ r
    | dma n =>
      refine ⟨_, List.mem_of_getElem? (i := 1) rfl, rfl, fun spells r => ?_⟩
      obtain rfl := spells
      exact Field.of_u8 "dma" (fun n c => { c with dma := n }) n r
    | channels entries =>
      refine ⟨_, List.mem_of_getElem? (i := 2) rfl, rfl, fun spells r => ?_⟩
      obtain ⟨texts, written, list⟩ := spells
      exact Field.of_yields _ (readChannels_yields written list) _ r

theorem Partial.sublist_names (p : Partial) :
    (p.settings.map scheme.name).Sublist scheme.names := by
  refine Scheme.sublist_names (.cons ?_ (.cons ?_ (.cons ?_ .nil)))
  all_goals
    intro s mem
    obtain ⟨value, -, rfl⟩ := Option.map_eq_some_iff.1 mem
    rfl

theorem Partial.overlay_settings (p : Partial) : overlay Setting.put p.settings default =
    if channelCount < p.entries.length then
      .error (.invalidLength p.entries.length "at most 2 channels")
    else .ok p.config := by
  obtain ⟨freq, dma, _ | entries⟩ := p
  · cases freq <;> cases dma <;> rfl
  · have filled : overlay Setting.put (Partial.mk freq dma (some entries)).settings default =
        (fill entries).map fun chs => ⟨freq.getD default.freq, dma.getD default.dma, chs⟩ := by
      cases freq <;> cases dma <;>
        (change (fill entries).map _ >>= _ = _; cases fill entries <;> rfl)
    change _ = if channelCount < entries.length then _ else _
    rw [filled, fill]
    split <;> rfl

/-- A strip is read as the settings that are written mean it, or refused for too many entries. -/
theorem read_yields (p : Partial) {cs : List Char} (text : scheme.Text p.settings cs) :
    Yields read cs (if channelCount < p.entries.length then
      .error (.invalidLength p.entries.length "at most 2 channels") else .ok p.config) := by
  rw [← p.overlay_settings]
  exact readRecord_yields readBy_scheme put_comm (readBy_scheme.nodup.sublist p.sublist_names) text
    _ default

theorem load_ok (text : String) :
    load (.ok text) = (readDocument read text).mapError .malformed := rfl

theorem load_of_ok {P : List Char → Prop} {c : StripConfig}
    (yields : ∀ cs, P cs → Yields read cs (.ok c)) {text : String} (document : Document P text) :
    load (.ok text) = .ok c := by
  have outcome := readDocument_yields yields document
  rw [load_ok]
  generalize readDocument read text = out at outcome ⊢
  cases out <;> cases outcome
  rfl

theorem load_of_error {P : List Char → Prop} {cause : Cause}
    (yields : ∀ cs, P cs → Yields read cs (.error cause)) {text : String}
    (document : Document P text) :
    ∃ fault, load (.ok text) = .error (.malformed fault) ∧ fault.cause = cause := by
  have outcome := readDocument_yields yields document
  rw [load_ok]
  generalize readDocument read text = out at outcome ⊢
  rcases out with fault | _
  · exact ⟨fault, rfl, Except.error.inj outcome⟩
  · cases outcome

theorem load_of_document {p : Partial} {text : String} (few : p.entries.length ≤ channelCount)
    (document : Document (scheme.Text p.settings) text) : load (.ok text) = .ok p.config := by
  refine load_of_ok (fun cs written => ?_) document
  have yields := read_yields p written
  rwa [if_neg (Nat.not_lt.2 few)] at yields

theorem load_of_many {p : Partial} {text : String} (many : channelCount < p.entries.length)
    (document : Document (scheme.Text p.settings) text) :
    ∃ fault, load (.ok text) = .error (.malformed fault) ∧
      fault.cause = .invalidLength p.entries.length "at most 2 channels" := by
  refine load_of_error (fun cs written => ?_) document
  have yields := read_yields p written
  rwa [if_pos many] at yields

theorem read_fields_exact : ∀ f ∈ fields, ∀ r, Exact (f.read r) := by
  intro f mem r
  simp only [fields, List.mem_cons, List.not_mem_nil, or_false] at mem
  rcases mem with rfl | rfl | rfl
  · exact Field.of_exact _ (readInteger_exact _ _) _ r
  · exact Field.of_exact _ (readInteger_exact _ _) _ r
  · exact Field.of_exact _ readChannels_exact _ r

end StripConfig

end LedStrip
