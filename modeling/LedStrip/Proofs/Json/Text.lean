import LedStrip.Proofs.Json.Grammar
import Mathlib.Tactic.SplitIfs

/-!
# Reading strings

A string that denotes a text is read as that text (`readString_denotes`), and any string is passed
over as a whole (`skipString_append`).  A string that is kept is never read any other way than to
its end (`rest_of_readString`), though it may be refused.
-/

namespace LedStrip.Json

theorem hexDigit?_of_hexDigit {d : Char} {n : Nat} (known : HexDigit d n) :
    hexDigit? d = some n := by
  have small : ∀ i : Fin 16, hexDigit? ("0123456789abcdef".toList.get i) = some i.val := by decide
  have capital : ∀ i : Fin 16, hexDigit? ("0123456789ABCDEF".toList.get i) = some i.val := by
    decide
  rcases known with known | known <;> obtain ⟨inside, rfl⟩ := List.getElem?_eq_some_iff.1 known
  · exact small ⟨n, inside⟩
  · exact capital ⟨n, inside⟩

section

variable {kept : Bool} {seen cs : List Char}

theorem scanString_plain {c : Char} (plain : Plain c) :
    scanString kept .plain seen (c :: cs) = scanString kept .plain (c :: seen) cs := by
  obtain ⟨quote, backslash, printable⟩ := plain
  rw [scanString, if_neg quote, if_neg backslash, if_neg (Nat.not_lt.2 printable)]

theorem scanString_escape {e c : Char} (known : (e, c) ∈ shortEscapes) :
    scanString kept .plain seen ('\\' :: e :: cs) = scanString kept .plain (c :: seen) cs := by
  have facts : ∀ p ∈ shortEscapes, p.1 ≠ 'u' ∧ shortEscape? p.1 = some p.2 := by decide
  obtain ⟨letter, meaning⟩ := facts _ known
  have quote : ('\\' : Char) ≠ '"' := by decide
  rw [scanString, if_neg quote, if_pos rfl, scanString, if_neg letter, meaning]

/-- How a string goes on behind the digits of a code, by what they make. -/
def goOnHex (kept : Bool) (seen cs : List Char) :
    Option (Mode × List Char) → Reading (String × List Char)
  | some (mode, new) => scanString kept mode (new ++ seen) cs
  | none => .error (.before .loneSurrogate cs)

theorem scanString_hex {high : Option Nat} {ds : List Char} {n : Nat} (code : HexCode ds n) :
    scanString kept (.hex high 0 0) seen (ds ++ cs) =
      goOnHex kept seen cs (finishHex kept high n) := by
  obtain ⟨a, b, c, d⟩ := code
  simp only [List.cons_append, List.nil_append, scanString, hexDigit?_of_hexDigit a,
    hexDigit?_of_hexDigit b, hexDigit?_of_hexDigit c, hexDigit?_of_hexDigit d, Nat.zero_mul,
    Nat.zero_add, Nat.reduceAdd, Nat.reduceLT, if_true, if_false]
  rfl

theorem scanString_code {ds : List Char} {n : Nat} (code : HexCode ds n) :
    scanString kept .plain seen ('\\' :: 'u' :: (ds ++ cs)) =
      goOnHex kept seen cs (finishHex kept none n) := by
  have quote : ('\\' : Char) ≠ '"' := by decide
  rw [scanString, if_neg quote, if_pos rfl, scanString, if_pos rfl, scanString_hex code]

end

/-! ## Strings that are kept -/

/-- No character has the code of a half. -/
theorem not_isHalf (c : Char) : isHighHalf c.toNat = false ∧ isLowHalf c.toNat = false := by
  have valid : c.toNat < 0xd800 ∨ 0xdfff < c.toNat ∧ c.toNat < 0x110000 := c.valid
  simp only [isHighHalf, isLowHalf, Bool.and_eq_false_iff, decide_eq_false_iff_not]
  omega

theorem finishHex_char (c : Char) : finishHex true none c.toNat = some (.plain, [c]) := by
  obtain ⟨high, low⟩ := not_isHalf c
  rw [finishHex, low, high, Char.ofNat_toNat]
  rfl

theorem joinHalves_eq {c : Char} {h l : Nat} (code : c.toNat = 0x10000 + h * 0x400 + l) :
    joinHalves (0xd800 + h) (0xdc00 + l) = c := by
  have same : (0xd800 + h - 0xd800) * 0x400 + (0xdc00 + l - 0xdc00) + 0x10000 = c.toNat := by omega
  rw [joinHalves, same, Char.ofNat_toNat]

theorem scanString_pair {c : Char} {ds ds' seen cs : List Char} {h l : Nat} (high : h < 0x400)
    (low : l < 0x400) (first : HexCode ds (0xd800 + h)) (second : HexCode ds' (0xdc00 + l))
    (code : c.toNat = 0x10000 + h * 0x400 + l) :
    scanString true .plain seen ('\\' :: 'u' :: (ds ++ '\\' :: 'u' :: (ds' ++ cs))) =
      scanString true .plain (c :: seen) cs := by
  have waits : finishHex true none (0xd800 + h) = some (.half (0xd800 + h), []) := by
    simp [finishHex, isLowHalf, isHighHalf]
    omega
  have joined : finishHex true (some (0xd800 + h)) (0xdc00 + l) = some (.plain, [c]) := by
    simp [finishHex, isLowHalf, joinHalves_eq code]
    omega
  rw [scanString_code first, waits, goOnHex, List.nil_append, scanString, if_pos rfl, scanString,
    if_pos rfl, scanString_hex second, joined]
  rfl

/-- What is between the quotes is read as the text that it spells. -/
theorem scanString_spelled {s body : List Char} (spelled : Spelled s body)
    (seen rest : List Char) :
    scanString true .plain seen (body ++ '"' :: rest) =
      .ok (String.ofList (seen.reverse ++ s), rest) := by
  induction spelled generalizing seen with
  | nil => rw [List.nil_append, scanString, if_pos rfl, List.append_nil]
  | plain plain _ ih => rw [List.cons_append, scanString_plain plain, ih]; simp
  | escape known _ ih =>
    rw [List.cons_append, List.cons_append, scanString_escape known, ih]
    simp
  | @code c _ _ _ code _ ih =>
    rw [List.cons_append, List.cons_append, List.append_assoc, scanString_code code,
      finishHex_char]
    exact (ih (c :: seen)).trans (by simp)
  | pair high low first second code _ ih =>
    simp only [List.cons_append, List.append_assoc]
    rw [scanString_pair high low first second code, ih]
    simp

/-- A string that denotes a text is read as that text. -/
theorem readString_denotes {s : String} {cs : List Char} (denotes : Denotes s cs)
    (rest : List Char) : ∃ body, cs = '"' :: body ∧ readString (body ++ rest) = .ok (s, rest) := by
  obtain ⟨spelled⟩ := denotes
  refine ⟨_, rfl, ?_⟩
  rw [List.append_assoc, readString]
  refine (scanString_spelled spelled [] rest).trans ?_
  rw [List.reverse_nil, List.nil_append, String.ofList_toList]

/-! ## Strings that are passed over -/

theorem scanString_body {body : List Char} (any : StringBody body) (seen rest : List Char) :
    ∃ s, scanString false .plain seen (body ++ '"' :: rest) = .ok (s, rest) := by
  induction any generalizing seen with
  | nil => exact ⟨_, by rw [List.nil_append, scanString, if_pos rfl]⟩
  | plain plain _ ih =>
    rw [List.cons_append, scanString_plain plain]
    exact ih _
  | escape known _ ih =>
    rw [List.cons_append, List.cons_append, scanString_escape known]
    exact ih _
  | code code _ ih =>
    rw [List.cons_append, List.cons_append, List.append_assoc, scanString_code code]
    exact ih _

theorem skipString_append {cs : List Char} (string : IsString cs) (rest : List Char) :
    ∃ body, cs = '"' :: body ∧ skipString (body ++ rest) = .ok rest := by
  obtain ⟨any⟩ := string
  refine ⟨_, rfl, ?_⟩
  rw [List.append_assoc, skipString]
  obtain ⟨s, scanned⟩ := scanString_body any [] rest
  change (scanString false .plain [] (_ ++ '"' :: rest)).map Prod.snd = _
  rw [scanned]
  rfl

/-! ## Where reading a string ends -/

/-- The modes in which an item of a string begins. -/
def Mode.Between : Mode → Prop
  | .plain | .half _ => True
  | _ => False

theorem between_plain : Mode.plain.Between := trivial

theorem between_of_finishHex {kept : Bool} {high : Option Nat} {code : Nat} {mode : Mode}
    {new : List Char} (done : finishHex kept high code = some (mode, new)) : mode.Between := by
  unfold finishHex at done
  split at done
  · obtain ⟨rfl, -⟩ := Prod.mk.inj (Option.some.inj done)
    trivial
  · split_ifs at done <;> obtain ⟨rfl, -⟩ := Prod.mk.inj (Option.some.inj done) <;> trivial
  · split_ifs at done
    obtain ⟨rfl, -⟩ := Prod.mk.inj (Option.some.inj done)
    trivial

/-- Whatever codes are in a string, if it is read, it is read up to its closing quote. -/
theorem rest_of_scanString {body : List Char} (any : StringBody body) {mode : Mode}
    (between : mode.Between) {seen rest rest' : List Char} {s : String}
    (read : scanString true mode seen (body ++ '"' :: rest) = .ok (s, rest')) : rest' = rest := by
  have quote : ('"' : Char) ≠ '\\' := by decide
  induction any generalizing mode seen with
  | nil =>
    cases mode with
    | plain =>
      rw [List.nil_append, scanString, if_pos rfl] at read
      exact (Prod.mk.inj (Except.ok.inj read)).2.symm
    | half high =>
      rw [List.nil_append, scanString, if_neg quote] at read
      cases read
    | _ => cases between
  | plain plain _ ih =>
    cases mode with
    | plain =>
      rw [List.cons_append, scanString_plain plain] at read
      exact ih between_plain read
    | half high =>
      rw [List.cons_append, scanString, if_neg plain.2.1] at read
      cases read
    | _ => cases between
  | @escape e c _ known _ ih =>
    cases mode with
    | plain =>
      rw [List.cons_append, List.cons_append, scanString_escape known] at read
      exact ih between_plain read
    | half high =>
      have facts : ∀ p ∈ shortEscapes, p.1 ≠ 'u' := by decide
      have letter : e ≠ 'u' := facts (e, c) known
      rw [List.cons_append, List.cons_append, scanString, if_pos rfl, scanString,
        if_neg letter] at read
      cases read
    | _ => cases between
  | @code ds cs n code _ ih =>
    -- Both between characters and between two halves, the digits end where the next item begins.
    have step (high : Option Nat) (read : scanString true (.hex high 0 0) seen
        (ds ++ (cs ++ '"' :: rest)) = .ok (s, rest')) : rest' = rest := by
      rw [scanString_hex code] at read
      rcases done : finishHex true high n with _ | ⟨mode, new⟩
      · rw [done] at read
        cases read
      · rw [done] at read
        exact ih (between_of_finishHex done) read
    simp only [List.cons_append, List.append_assoc] at read
    cases mode with
    | plain =>
      rw [scanString, if_neg quote.symm, if_pos rfl, scanString, if_pos rfl] at read
      exact step none read
    | half high =>
      rw [scanString, if_pos rfl, scanString, if_pos rfl] at read
      exact step (some high) read
    | _ => cases between

theorem rest_of_readString {cs : List Char} (string : IsString cs) :
    ∃ body, cs = '"' :: body ∧ ∀ rest s rest', readString (body ++ rest) = .ok (s, rest') →
      rest' = rest := by
  obtain ⟨any⟩ := string
  refine ⟨_, rfl, fun rest s rest' read => ?_⟩
  rw [List.append_assoc] at read
  exact rest_of_scanString any between_plain read

theorem stringBody_of_spelled {s body : List Char} (spelled : Spelled s body) :
    StringBody body := by
  induction spelled with
  | nil => exact .nil
  | plain plain _ ih => exact .plain plain ih
  | escape known _ ih => exact .escape known ih
  | code code _ ih => exact .code code ih
  | pair _ _ first second _ _ ih => exact .code first (.code second ih)

theorem isString_of_denotes {s : String} {cs : List Char} (denotes : Denotes s cs) :
    IsString cs := by
  obtain ⟨spelled⟩ := denotes
  exact ⟨stringBody_of_spelled spelled⟩

end LedStrip.Json
