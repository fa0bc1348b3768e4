import LedStrip.Proofs.Json.Grammar
import Mathlib.Tactic.SplitIfs
import Mathlib.Tactic.Tauto

/-!
# Reading blanks and numbers

The scanner of numerals stops exactly behind a number of the grammar (`scan_append`), and digits are
absorbed as long as the number that they make is within a limit (`absorb_map_digit`).
-/

namespace LedStrip.Json

/-! ## Blanks -/

theorem isBlank_iff (c : Char) : isBlank c = true ↔ c ∈ [' ', '\t', '\n', '\r'] := by
  simp only [isBlank, Bool.or_eq_true, beq_iff_eq, List.mem_cons, List.not_mem_nil, or_false]
  tauto

theorem skipBlank_append {w : List Char} (blank : Blank w) (cs : List Char) :
    skipBlank (w ++ cs) = skipBlank cs :=
  List.dropWhile_append_of_pos fun c mem => (isBlank_iff c).2 (blank c mem)

theorem skipBlank_cons {c : Char} (solid : c ∉ [' ', '\t', '\n', '\r']) (cs : List Char) :
    skipBlank (c :: cs) = c :: cs :=
  List.dropWhile_cons_of_neg (mt (isBlank_iff c).1 solid)

theorem skipBlank_append_cons {w : List Char} (blank : Blank w) {c : Char}
    (solid : c ∉ [' ', '\t', '\n', '\r']) (cs : List Char) :
    skipBlank (w ++ c :: cs) = c :: cs := by
  rw [skipBlank_append blank, skipBlank_cons solid]

theorem blank_nil : Blank [] := by
  intro c mem
  cases mem

/-! ## Numbers -/

/-- No digit stands at the front of a text. -/
def NoDigit (cs : List Char) : Prop := ∀ c ∈ cs.head?, c.isDigit = false

theorem Ends.noDigit {rest : List Char} (ends : Ends rest) : NoDigit rest := by
  have none : ∀ c ∈ [' ', '\t', '\n', '\r', ',', ']', '}'], c.isDigit = false := by simp
  exact fun c mem => none c (ends c mem)

theorem Exponent.noDigit {exponent rest : List Char} (power : Exponent exponent)
    (ends : Ends rest) : NoDigit (exponent ++ rest) := by
  cases power with
  | none => exact ends.noDigit
  | some letter =>
    have none : ∀ e ∈ ['e', 'E'], e.isDigit = false := by simp
    rintro c ⟨⟩
    exact none _ letter

theorem Whole.head {whole : List Char} (digits : Whole whole) :
    ∃ c cs, whole = c :: cs ∧ c.isDigit = true := by
  cases digits with
  | zero => exact ⟨'0', [], rfl, rfl⟩
  | digits _ digits => exact ⟨_, _, rfl, digits.2 _ (List.mem_cons_self ..)⟩

theorem spanDigits_append {ds rest : List Char} (digits : ∀ c ∈ ds, c.isDigit = true)
    (stop : NoDigit rest) : spanDigits (ds ++ rest) = (ds.map digit, rest) := by
  induction ds with
  | nil =>
    cases rest with
    | nil => rfl
    | cons c rest =>
      have other : ¬c.isDigit = true := by simp [stop c rfl]
      rw [List.nil_append, spanDigits, if_neg other]
      rfl
  | cons c ds ih =>
    have first : c.isDigit = true := digits c (List.mem_cons_self ..)
    rw [List.cons_append, spanDigits, if_pos first,
      ih fun d mem => digits d (List.mem_cons_of_mem _ mem)]
    rfl

namespace Numeral

theorem scanWhole_append {ended : Cause} {whole rest : List Char} (number : Whole whole)
    (stop : NoDigit rest) : scanWhole ended (whole ++ rest) = .ok (whole.map digit, rest) := by
  cases number with
  | zero =>
    cases rest with
    | nil => rfl
    | cons c rest =>
      have other : ¬c.isDigit = true := by simp [stop c rfl]
      simp only [List.cons_append, List.nil_append, scanWhole, if_neg other]
      rfl
  | @digits c ds nonzero digits =>
    have first : c.isDigit = true := digits.2 c (List.mem_cons_self ..)
    simp only [List.cons_append, scanWhole, first, not_true_eq_false, if_false, if_neg nonzero]
    rw [← List.cons_append, spanDigits_append digits.2 stop]

/-- The digits of a fraction. -/
theorem scanFraction_append (ended : Cause) {fraction : List Char} (number : Fraction fraction) :
    ∃ ds, (ds = [] ↔ fraction = []) ∧ ∀ rest, NoDigit rest → (∀ c ∈ rest.head?, c ≠ '.') →
      scanFraction ended (fraction ++ rest) = .ok (ds, rest) := by
  cases number with
  | none =>
    refine ⟨[], iff_of_true rfl rfl, fun rest _ point => ?_⟩
    rw [List.nil_append]
    unfold scanFraction
    split
    · exact absurd rfl (point '.' rfl)
    · rfl
  | @some ds digits =>
    obtain ⟨nonempty, isDigit⟩ := digits
    cases ds with
    | nil => exact absurd rfl nonempty
    | cons d ds =>
      refine ⟨(d :: ds).map digit, iff_of_false (List.cons_ne_nil _ _) (List.cons_ne_nil _ _),
        fun rest stop _ => ?_⟩
      rw [List.cons_append, scanFraction, spanDigits_append isDigit stop]
      rfl

theorem scanSign_append {sign : List Char} (known : sign ∈ [[], ['+'], ['-']]) :
    ∃ negative, ∀ rest : List Char, (∀ c ∈ rest.head?, c ≠ '+' ∧ c ≠ '-') →
      scanSign (sign ++ rest) = (negative, rest) := by
  simp only [List.mem_cons, List.not_mem_nil, or_false] at known
  rcases known with rfl | rfl | rfl
  · refine ⟨false, fun rest unsigned => ?_⟩
    rw [List.nil_append]
    unfold scanSign
    split
    · exact absurd rfl (unsigned '+' rfl).1
    · exact absurd rfl (unsigned '-' rfl).2
    · rfl
  · exact ⟨false, fun _ _ => rfl⟩
  · exact ⟨true, fun _ _ => rfl⟩

theorem scanExponent_append (ended : Cause) {exponent : List Char} (number : Exponent exponent) :
    ∃ e, (e = none ↔ exponent = []) ∧ ∀ rest, Ends rest →
      scanExponent ended (exponent ++ rest) = .ok (e, rest) := by
  cases number with
  | none =>
    refine ⟨none, iff_of_true rfl rfl, fun rest ends => ?_⟩
    cases rest with
    | nil => rfl
    | cons c rest =>
      have other : ¬(c = 'e' ∨ c = 'E') := by
        rintro (rfl | rfl)
        · exact absurd (ends 'e' rfl) (by decide)
        · exact absurd (ends 'E' rfl) (by decide)
      rw [List.nil_append, scanExponent, if_neg other]
  | @some e sign ds letter known digits =>
    obtain ⟨nonempty, isDigit⟩ := digits
    cases ds with
    | nil => exact absurd rfl nonempty
    | cons d ds =>
      have first := isDigit d (List.mem_cons_self ..)
      obtain ⟨negative, scanned⟩ := scanSign_append known
      refine ⟨some (negative, (d :: ds).map digit),
        iff_of_false (Option.some_ne_none _) (List.cons_ne_nil _ _), fun rest ends => ?_⟩
      have unsigned : ∀ c ∈ (d :: ds ++ rest).head?, c ≠ '+' ∧ c ≠ '-' := by
        rintro c ⟨⟩
        constructor <;> (rintro rfl; exact absurd first (by decide))
      have letter' : e = 'e' ∨ e = 'E' := by simpa using letter
      rw [List.cons_append, List.append_assoc, scanExponent, if_pos letter', scanned _ unsigned]
      dsimp only
      rw [spanDigits_append isDigit ends.noDigit]
      rfl

/-- What is scanned of a number behind its sign, whatever comes behind the number. -/
theorem scanUnsigned_append (ended : Cause) (negative : Bool) {whole fraction exponent : List Char}
    (digits : Whole whole) (point : Fraction fraction) (power : Exponent exponent) :
    ∃ ds e, (ds = [] ↔ fraction = []) ∧ (e = none ↔ exponent = []) ∧ ∀ rest, Ends rest →
      scanUnsigned ended negative (whole ++ (fraction ++ (exponent ++ rest))) =
        .ok (⟨negative, whole.map digit, ds, e⟩, rest) := by
  obtain ⟨ds, noFraction, scanned⟩ := scanFraction_append ended point
  obtain ⟨e, noExponent, scanned'⟩ := scanExponent_append ended power
  refine ⟨ds, e, noFraction, noExponent, fun rest ends => ?_⟩
  have behindWhole : NoDigit (fraction ++ (exponent ++ rest)) := by
    cases point with
    | none => exact power.noDigit ends
    | some digits => rintro c ⟨⟩; rfl
  have behindFraction : ∀ c ∈ (exponent ++ rest).head?, c ≠ '.' := by
    cases power with
    | none =>
      intro c mem point
      subst point
      exact absurd (ends '.' mem) (by decide)
    | some letter =>
      rintro c ⟨⟩
      rintro rfl
      exact absurd letter (by decide)
  rw [scanUnsigned, scanWhole_append digits behindWhole]
  change (scanFraction ended (fraction ++ (exponent ++ rest)) >>= _) = _
  rw [scanned _ (power.noDigit ends) behindFraction]
  change (scanExponent ended (exponent ++ rest) >>= _) = _
  rw [scanned' rest ends]
  rfl

theorem scan_of_digit {ended : Cause} {c : Char} (first : c.isDigit = true) (cs : List Char) :
    scan ended (c :: cs) = scanUnsigned ended false (c :: cs) := by
  unfold scan
  split
  · next sign =>
    obtain rfl := (List.cons.inj sign).1
    cases first
  · rfl

/-- What is scanned of a number, whatever comes behind it. -/
theorem scan_append (ended : Cause) {sign whole fraction exponent : List Char}
    (known : sign ∈ [[], ['-']]) (digits : Whole whole) (point : Fraction fraction)
    (power : Exponent exponent) :
    ∃ ds e, (ds = [] ↔ fraction = []) ∧ (e = none ↔ exponent = []) ∧ ∀ rest, Ends rest →
      scan ended (sign ++ (whole ++ (fraction ++ exponent)) ++ rest) =
        .ok (⟨sign == ['-'], whole.map digit, ds, e⟩, rest) := by
  obtain ⟨ds, e, noFraction, noExponent, scanned⟩ :=
    scanUnsigned_append ended (sign == ['-']) digits point power
  refine ⟨ds, e, noFraction, noExponent, fun rest ends => ?_⟩
  have scanned := scanned rest ends
  simp only [List.mem_cons, List.not_mem_nil, or_false] at known
  simp only [List.append_assoc]
  rcases known with rfl | rfl
  · obtain ⟨c, ds, rfl, first⟩ := digits.head
    exact (scan_of_digit first _).trans scanned
  · exact scanned

theorem scan_number (ended : Cause) {cs : List Char} (number : IsNumber cs) :
    ∃ n, ∀ rest, Ends rest → scan ended (cs ++ rest) = .ok (n, rest) := by
  obtain ⟨known, digits, point, power⟩ := number
  obtain ⟨ds, e, -, -, scanned⟩ := scan_append ended known digits point power
  exact ⟨_, scanned⟩

end Numeral

/-! ## Natural numbers -/

theorem head_toDigits {n : Nat} (pos : 0 < n) :
    ∃ c ds, Nat.toDigits 10 n = c :: ds ∧ c ≠ '0' := by
  induction n using Nat.strongRecOn with
  | ind n ih =>
    by_cases small : n < 10
    · have nonzero : ∀ n < 10, 0 < n → Nat.digitChar n ≠ '0' := by decide
      exact ⟨_, [], Nat.toDigits_of_lt_base small, nonzero n small pos⟩
    · obtain ⟨c, ds, front, nonzero⟩ := ih (n / 10) (by omega) (by omega)
      rw [Nat.toDigits_of_base_le (by omega) (by omega), front]
      exact ⟨c, _, rfl, nonzero⟩

theorem whole_toDigits (n : Nat) : Whole (Nat.toDigits 10 n) := by
  by_cases pos : 0 < n
  · obtain ⟨c, ds, digits, nonzero⟩ := head_toDigits pos
    have isDigit : ∀ d ∈ Nat.toDigits 10 n, d.isDigit = true := fun d mem =>
      Nat.isDigit_of_mem_toDigits (by omega) (by omega) mem
    rw [digits] at isDigit ⊢
    exact .digits nonzero ⟨List.cons_ne_nil _ _, isDigit⟩
  · obtain rfl : n = 0 := by omega
    exact .zero

theorem le_ofDigitChars (ds : List Char) (n : Nat) : n ≤ Nat.ofDigitChars 10 ds n := by
  induction ds generalizing n with
  | nil => exact Nat.le_refl n
  | cons d ds ih =>
    rw [Nat.ofDigitChars_cons]
    have := ih (10 * n + (d.toNat - '0'.toNat))
    omega

/-- All digits are absorbed when the number that they make is within the limit. -/
theorem absorb_map_digit {limit : Nat} (ds : List Char) {n k : Nat} (le : n ≤ limit) :
    Numeral.absorb limit n (ds.map digit) = (k, []) ↔
      k = Nat.ofDigitChars 10 ds n ∧ k ≤ limit := by
  induction ds generalizing n with
  | nil =>
    rw [List.map_nil, Numeral.absorb, Prod.mk.injEq, Nat.ofDigitChars_nil]
    constructor
    · rintro ⟨rfl, -⟩
      exact ⟨rfl, le⟩
    · rintro ⟨rfl, -⟩
      exact ⟨rfl, rfl⟩
  | cons d ds ih =>
    rw [List.map_cons, Numeral.absorb, Nat.ofDigitChars_cons, Nat.mul_comm 10 n]
    split_ifs with next
    · exact ih next
    · have large := le_ofDigitChars ds (n * 10 + (d.toNat - '0'.toNat))
      have digits : digit d = d.toNat - '0'.toNat := rfl
      refine iff_of_false (fun absorbed => ?_) fun ⟨value, small⟩ => ?_
      · cases (Prod.mk.inj absorbed).2
      · omega

theorem toList_toString (n : Nat) : (toString n).toList = Nat.toDigits 10 n := by
  rw [Nat.toString_eq_repr, Nat.toList_repr]

end LedStrip.Json
