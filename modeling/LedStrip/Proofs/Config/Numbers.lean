import LedStrip.Proofs.Config.Respelled
import LedStrip.Proofs.Json.Compact

/-!
# Numbers in configuration files

A number in a configuration file is kept as it is written, or the file is refused: a field takes
the integers from zero up to its largest value, written in plain digits, and nothing else is ever
wrapped or cut to fit (`numbers_exact`).
-/

namespace LedStrip

open Json

namespace ChannelConfig

/-- The fields of a channel that hold a number. -/
inductive NumberField
  | gpio
  | count
  | brightness

namespace NumberField

/-- The name of the type of the field, as a refusal gives it. -/
def expected : NumberField → String
  | gpio => "u8"
  | count => "usize"
  | brightness => "u8"

/-- The largest value of the field. -/
def bound : NumberField → Nat
  | gpio => 255
  | count => 18446744073709551615
  | brightness => 255

def setting : NumberField → Nat → Setting
  | gpio, n => .gpio (UInt8.ofNat n)
  | count, n => .count (UInt64.ofNat n)
  | brightness, n => .brightness (UInt8.ofNat n)

def value : NumberField → ChannelConfig → Nat
  | gpio, c => c.gpio.toNat
  | count, c => c.count.toNat
  | brightness, c => c.brightness.toNat

variable (field : NumberField)

theorem bound_le : field.bound ≤ 18446744073709551615 := by
  cases field <;> decide

theorem value_write {n : Nat} (le : n ≤ field.bound) (p : Partial) :
    field.value (p.write (field.setting n)).config = n := by
  cases field with
  | gpio | brightness => exact UInt8.toNat_ofNat_of_lt' (Nat.lt_succ_of_le le)
  | count => exact UInt64.toNat_ofNat_of_lt' (Nat.lt_succ_of_le le)

/-- The field is read as an integer within its bound. -/
theorem respelling {literal : List Char} (begins : Begins literal) {outcome : Except Cause Nat}
    (yields : Yields (readInteger field.expected field.bound) literal outcome) (n : Nat) :
    Respelling scheme fields Setting.put (field.setting n).name (· = literal)
      (outcome.map field.setting) := by
  have nodup := readBy_scheme.nodup_names
  cases field with
  | gpio =>
    exact .of_field nodup (List.mem_of_getElem? (i := 0) rfl) (fun _ => rfl) (· ▸ begins)
      (fun _ _ => rfl) (· ▸ yields)
  | count =>
    exact .of_field nodup (List.mem_of_getElem? (i := 2) rfl) (fun _ => rfl) (· ▸ begins)
      (fun _ _ => rfl) (· ▸ yields)
  | brightness =>
    exact .of_field nodup (List.mem_of_getElem? (i := 3) rfl) (fun _ => rfl) (· ▸ begins)
      (fun _ _ => rfl) (· ▸ yields)

end NumberField

end ChannelConfig

namespace StripConfig

/-- The fields of a configuration that hold a number, those of its channels among them. -/
inductive NumberField
  | freq
  | dma
  | channel (i : ChannelIndex) (field : ChannelConfig.NumberField)

namespace NumberField

/-- The name of the type of the field, as a refusal gives it. -/
def expected : NumberField → String
  | freq => "u32"
  | dma => "u8"
  | channel _ field => field.expected

/-- The largest value of the field. -/
def bound : NumberField → Nat
  | freq => 4294967295
  | dma => 255
  | channel _ field => field.bound

def value : NumberField → StripConfig → Nat
  | freq, c => c.freq.toNat
  | dma, c => c.dma.toNat
  | channel i field, c => field.value (c.channels.get i)

/-- The settings with a number written into the field, if it is one of an entry into that entry. -/
def put (n : Nat) (p : Partial) : NumberField → Partial
  | freq => p.write (.freq (UInt32.ofNat n))
  | dma => p.write (.dma (UInt8.ofNat n))
  | channel i field => p.writeEntry i (field.setting n)

/-- The texts of these settings in which the field has the given literal as its value.  The zero
that is among the settings only keeps the place of the literal. -/
def Text (p : Partial) (literal : List Char) : NumberField → List Char → Prop
  | freq => (scheme.respell "freq" (· = literal)).Text (p.write (.freq 0)).settings
  | dma => (scheme.respell "dma" (· = literal)).Text (p.write (.dma 0)).settings
  | channel i field => EntryText p i (field.setting 0) (· = literal)

variable {field : NumberField} {p : Partial} {literal : List Char} {text : String}

/-- The number that is put into a field is found there. -/
theorem value_put (document : Document (field.Text p literal) text) {n : Nat}
    (le : n ≤ field.bound) : field.value (field.put n p).config = n := by
  cases field with
  | freq => exact UInt32.toNat_ofNat_of_lt' (Nat.lt_succ_of_le le)
  | dma => exact UInt8.toNat_ofNat_of_lt' (Nat.lt_succ_of_le le)
  | channel i field =>
    obtain ⟨entry, here⟩ := entry_of_document document
    exact (congrArg field.value (Partial.config_writeEntry here _)).trans
      (field.value_write le entry)

/-- Reading a file with a literal in a field comes to reading the literal. -/
theorem load_literal (few : p.entries.length ≤ channelCount) (number : IsNumber literal)
    {outcome : Except Cause Nat}
    (yields : Yields (readInteger field.expected field.bound) literal outcome)
    (document : Document (field.Text p literal) text) :
    (∀ n, outcome = .ok n → load (.ok text) = .ok (field.put n p).config) ∧
    ∀ cause, outcome = .error cause →
      ∃ fault, load (.ok text) = .error (.malformed fault) ∧ fault.cause = cause := by
  have begins := (Value.number number).head
  have nodup := readBy_scheme.nodup_names
  cases field with
  | freq =>
    have respelling : Respelling scheme fields Setting.put "freq" (· = literal)
        (outcome.map fun n => .freq (UInt32.ofNat n)) :=
      .of_field nodup (List.mem_of_getElem? (i := 0) rfl) (fun _ => rfl) (· ▸ begins)
        (fun _ _ => rfl) (· ▸ yields)
    have loaded := load_own (s := .freq 0) (by decide) respelling few document
    exact ⟨fun n ok => loaded.1 _ (ok ▸ rfl), fun cause refused => loaded.2 _ (refused ▸ rfl)⟩
  | dma =>
    have respelling : Respelling scheme fields Setting.put "dma" (· = literal)
        (outcome.map fun n => .dma (UInt8.ofNat n)) :=
      .of_field nodup (List.mem_of_getElem? (i := 1) rfl) (fun _ => rfl) (· ▸ begins)
        (fun _ _ => rfl) (· ▸ yields)
    have loaded := load_own (s := .dma 0) (by decide) respelling few document
    exact ⟨fun n ok => loaded.1 _ (ok ▸ rfl), fun cause refused => loaded.2 _ (refused ▸ rfl)⟩
  | channel i field =>
    have loaded := load_entry (field.respelling begins yields 0) few document
    exact ⟨fun n ok => loaded.1 _ (ok ▸ rfl), fun cause refused => loaded.2 _ (refused ▸ rfl)⟩

theorem bound_le (field : NumberField) : field.bound ≤ 18446744073709551615 := by
  cases field with
  | freq | dma => decide
  | channel i field => exact field.bound_le

section Literals

variable (few : p.entries.length ≤ channelCount) {n : Int}
include few

theorem load_within (within : 0 ≤ n ∧ n ≤ field.bound)
    (document : Document (field.Text p (toString n).toList) text) :
    load (.ok text) = .ok (field.put n.toNat p).config := by
  have le := field.bound_le
  have yields := readInteger_int (n := n) (by omega) (by omega) field.expected field.bound
  exact (load_literal few (isNumber_int n) yields document).1 _ (if_pos within)

theorem load_beyond (beyond : ¬(0 ≤ n ∧ n ≤ field.bound)) (low : -9223372036854775808 ≤ n)
    (high : n ≤ 18446744073709551615)
    (document : Document (field.Text p (toString n).toList) text) :
    ∃ fault, load (.ok text) = .error (.malformed fault) ∧
      fault.cause = .invalidValue (.integer n) field.expected := by
  have yields := readInteger_int low high field.expected field.bound
  exact (load_literal few (isNumber_int n) yields document).2 _ (if_neg beyond)

theorem load_foreign (foreign : Foreign literal)
    (document : Document (field.Text p literal) text) :
    ∃ fault, load (.ok text) = .error (.malformed fault) := by
  obtain ⟨cause, yields⟩ := readInteger_foreign foreign field.expected field.bound
  obtain ⟨fault, loaded, -⟩ := (load_literal few foreign.1 yields document).2 cause rfl
  exact ⟨fault, loaded⟩

/-- An integer out of the bounds of the field is refused, whatever its size. -/
theorem load_refused (beyond : ¬(0 ≤ n ∧ n ≤ field.bound))
    (document : Document (field.Text p (toString n).toList) text) :
    ∃ fault, load (.ok text) = .error (.malformed fault) := by
  by_cases fits : -9223372036854775808 ≤ n ∧ n ≤ 18446744073709551615
  · obtain ⟨fault, loaded, -⟩ := load_beyond few beyond fits.1 fits.2 document
    exact ⟨fault, loaded⟩
  · exact load_foreign few (foreign_int (by omega)) document

end Literals

end NumberField

theorem message_invalidValue (n : Int) (expected : String) :
    (Cause.invalidValue (.integer n) expected).message =
      "invalid value: integer `" ++ toString n ++ "`, expected " ++ expected := by
  have opening : "invalid value: " ++ "integer `" = "invalid value: integer `" := by decide
  have closing : "`" ++ ", expected " = "`, expected " := by decide
  unfold Cause.message Found.text
  dsimp only
  rw [← opening, ← closing]
  simp only [String.append_assoc]

/-- A configuration file with an integer in one of its numbers is accepted just if the integer is
within the bounds of the field, which then holds it; a fraction, an exponent or a sign before a zero
are never accepted. -/
theorem numbers_exact (field : NumberField) {p : Partial}
    (few : p.entries.length ≤ channelCount) (text : String) :
    (∀ n : Int, Document (field.Text p (toString n).toList) text →
      ((∃ c, load (.ok text) = .ok c) ↔ 0 ≤ n ∧ n ≤ field.bound) ∧
      (∀ c, load (.ok text) = .ok c →
        field.value c = n ∧ c = (field.put n.toNat p).config) ∧
      (¬(0 ≤ n ∧ n ≤ field.bound) → -9223372036854775808 ≤ n → n ≤ 18446744073709551615 →
        ∃ fault, load (.ok text) = .error (.malformed fault) ∧ fault.cause.category = .data ∧
          fault.cause.message =
            "invalid value: integer `" ++ toString n ++ "`, expected " ++ field.expected)) ∧
    ∀ literal, Scientific literal ∨ literal = "-0".toList → Document (field.Text p literal) text →
      ∃ fault, load (.ok text) = .error (.malformed fault) := by
  refine ⟨fun n document => ?_, fun literal kind document => ?_⟩
  · have accepted {c : StripConfig} (loaded : load (.ok text) = .ok c) :
        0 ≤ n ∧ n ≤ field.bound := by
      by_contra beyond
      obtain ⟨fault, refused⟩ := NumberField.load_refused few beyond document
      exact absurd (loaded.symm.trans refused) (by simp)
    refine ⟨⟨fun ⟨c, loaded⟩ => accepted loaded, fun within => ?_⟩, fun c loaded => ?_,
      fun beyond low high => ?_⟩
    · exact ⟨_, NumberField.load_within few within document⟩
    · have within := accepted loaded
      obtain rfl : c = (field.put n.toNat p).config :=
        Except.ok.inj (loaded.symm.trans (NumberField.load_within few within document))
      refine ⟨?_, rfl⟩
      rw [NumberField.value_put document (by omega)]
      exact Int.toNat_of_nonneg within.1
    · obtain ⟨fault, refused, cause⟩ := NumberField.load_beyond few beyond low high document
      refine ⟨fault, refused, ?_⟩
      rw [cause]
      exact ⟨rfl, message_invalidValue n field.expected⟩
  · rcases kind with scientific | rfl
    · exact NumberField.load_foreign few (foreign_of_scientific scientific) document
    · exact NumberField.load_foreign few foreign_minus_zero document

/-- Two entries, none of which writes anything. -/
def pair : Partial where
  freq := none
  dma := none
  channels := some (List.replicate 2 ⟨none, none, none, none, none⟩)

theorem document_freq (literal : String) :
    Document (NumberField.freq.Text pair literal.toList)
      ("\x7b\"channels\":[[],[]],\"freq\":" ++ literal ++ "\x7d") := by
  have channels : (scheme.respell "freq" (· = literal.toList)).Writes
      (some (.channels pair.entries)) (.compact "channels" "[[],[]]".toList) :=
    .known (denotes_quoted (s := "channels") (by decide))
      ⟨_, .cons ChannelConfig.text_empty (.cons ChannelConfig.text_empty .nil), list_compact _ _⟩
  have freq : (scheme.respell "freq" (· = literal.toList)).Writes (some (.freq 0))
      (.compact "freq" literal.toList) :=
    .known (denotes_quoted (s := "freq") (by decide)) rfl
  have text := text_compact _ (.cons channels (.cons freq .nil)) (.swap ..)
  refine document_compact ?_
  rw [String.toList_append, String.toList_append]
  exact text

/-- The length of the second channel is a thousand, but not in plain digits. -/
theorem document_count : Document ((NumberField.channel 1 .count).Text pair "1e3".toList)
    "\x7b\"channels\":[[],\x7b\"count\":1e3\x7d]\x7d" := by
  have count : (ChannelConfig.scheme.respell "count" (· = "1e3".toList)).Writes (some (.count 0))
      (.compact "count" "1e3".toList) :=
    .known (denotes_quoted (s := "count") (by decide)) rfl
  have second : (ChannelConfig.scheme.respell "count" (· = "1e3".toList)).Text [.count 0]
      "\x7b\"count\":1e3\x7d".toList :=
    text_compact _ (.cons count .nil) .rfl
  have entries : EntriesText pair.entries 1 (.count 0) (· = "1e3".toList)
      "[[],\x7b\"count\":1e3\x7d]".toList :=
    ⟨[⟨none, none, none, none, none⟩], ⟨none, none, none, none, none⟩, [], _, _, [], rfl, rfl,
      .cons ChannelConfig.text_empty .nil, second, .nil, list_compact _ _⟩
  have channels : (scheme.respell "channels"
      (EntriesText pair.entries 1 (.count 0) (· = "1e3".toList))).Writes
        (some (.channels pair.entries))
        (.compact "channels" "[[],\x7b\"count\":1e3\x7d]".toList) :=
    .known (denotes_quoted (s := "channels") (by decide)) entries
  exact document_compact (text_compact _ (.cons channels .nil) .rfl)

theorem scientific_thousand : Scientific "1e3".toList := by
  have positive : [] ∈ [[], ['-']] := by decide
  have unsigned : [] ∈ [[], ['+'], ['-']] := by decide
  have digits : Digits ['3'] := ⟨by decide, List.forall_mem_singleton.2 rfl⟩
  have letter : 'e' ∈ ['e', 'E'] := by decide
  exact .mk positive (whole_toDigits 1) .none (.some letter unsigned digits) (.inr (by decide))

/-- The largest frequency, the one behind it, and literals that are no integers. -/
theorem numbers_exact_edges :
    (∃ c, load (.ok "\x7b\"channels\":[[],[]],\"freq\":4294967295\x7d") = .ok c ∧
      (c.freq.toNat : Int) = 4294967295) ∧
    (∃ fault, load (.ok "\x7b\"channels\":[[],[]],\"freq\":4294967296\x7d") =
        .error (.malformed fault) ∧ fault.cause.category = .data ∧
      fault.cause.message = "invalid value: integer `4294967296`, expected u32") ∧
    (∃ fault, load (.ok "\x7b\"channels\":[[],[]],\"freq\":-0\x7d") =
      .error (.malformed fault)) ∧
    ∃ fault, load (.ok "\x7b\"channels\":[[],\x7b\"count\":1e3\x7d]\x7d") =
      .error (.malformed fault) := by
  have few : pair.entries.length ≤ channelCount := by decide
  have top := (numbers_exact .freq few _).1 4294967295 (document_freq "4294967295")
  have beyond := (numbers_exact .freq few _).1 4294967296 (document_freq "4294967296")
  have minus := (numbers_exact .freq few _).2 _ (.inr rfl) (document_freq "-0")
  obtain ⟨c, loaded⟩ := top.1.2 (by decide)
  have thousand := (numbers_exact (.channel 1 .count) few _).2 _ (.inl scientific_thousand)
    document_count
  exact ⟨⟨c, loaded, (top.2.1 c loaded).1⟩, beyond.2.2 (by decide) (by decide) (by decide), minus,
    thousand⟩

end StripConfig

end LedStrip
