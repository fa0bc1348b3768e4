import LedStrip.Proofs.Json.Values

/-!
# Integers as they are written

A number in a text means the same whatever stands behind it (`Means`).  An integer in plain digits
means itself as long as it fits a 64-bit word, a signed one if it is negative (`means_int`).  All
other numbers, also minus zero, mean no integer (`Foreign`): they are refused where an integer is
read (`readInteger_foreign`), and an integer that means itself is accepted or refused by its bounds
(`readInteger_int`).
-/

namespace LedStrip.Json

/-! ## What numerals stand for -/

namespace Numeral

/-- A numeral stands for an integer if it has no fraction and no exponent and its digits fit. -/
theorem value_eq_integer_iff (n : Numeral) (rest : List Char) (k : Int) :
    n.value rest = .ok (.integer k) ↔ n.fraction = [] ∧ n.exponent = none ∧
      ∃ m, absorb maxWord 0 n.whole = (m, []) ∧ (n.negative = false ∧ k = m ∨
        n.negative = true ∧ m ≠ 0 ∧ m ≤ 9223372036854775808 ∧ k = -m) := by
  obtain ⟨negative, whole, fraction, exponent⟩ := n
  have float {x : Reading Float} : x.map Number.float ≠ .ok (.integer k) := by
    cases x <;> simp [Except.map]
  unfold value
  dsimp only
  split
  · next m absorbed =>
    simp only [absorbed, Prod.mk.injEq, and_true, true_and, exists_eq_left']
    cases negative with
    | false => simp [eq_comm]
    | true =>
      rw [if_neg (by simp)]
      split_ifs with fits
      · simp [fits.1, fits.2, eq_comm]
      · simp only [reduceCtorEq, Except.ok.injEq, false_and, true_and, false_or, false_iff]
        exact fun ⟨nonzero, small, _⟩ => fits ⟨nonzero, small⟩
  · next other =>
    refine iff_of_false float ?_
    rintro ⟨rfl, rfl, m, absorbed, -⟩
    exact other m rfl rfl absorbed

/-- Only the place of a refusal depends on what stands behind a numeral. -/
theorem verdict_value (n : Numeral) (rest : List Char) :
    verdict (n.value rest) = verdict (n.value []) := by
  have float : verdict ((n.float rest).map Number.float) = verdict ((n.float []).map .float) := by
    unfold Numeral.float
    dsimp only
    split
    · split <;> rfl
    · split
      · split <;> rfl
      · split_ifs <;> rfl
  unfold value
  split
  · split_ifs <;> rfl
  · exact float

end Numeral

/-! ## What numbers mean -/

/-- What comes of reading a number, whatever stands behind it. -/
def Means (cs : List Char) (outcome : Except Cause Number) : Prop :=
  ∀ rest, Ends rest → verdict (readNumber (cs ++ rest)) = outcome.map fun x => (x, rest)

theorem means_of_scan {cs : List Char} {n : Numeral}
    (scanned : ∀ rest, Ends rest → Numeral.scan .eofValue (cs ++ rest) = .ok (n, rest)) :
    Means cs (verdict (n.value [])) := by
  intro rest ends
  rw [← n.verdict_value rest, readNumber, scanned rest ends]
  change verdict (n.value rest >>= _) = _
  cases n.value rest <;> rfl

/-- A number that does not mean an integer. -/
def Foreign (cs : List Char) : Prop :=
  IsNumber cs ∧ ∃ outcome, Means cs outcome ∧ ∀ k, outcome ≠ .ok (.integer k)

/-- A number means an integer only as its numeral says. -/
theorem foreign_of_scan {cs : List Char} {n : Numeral} (number : IsNumber cs)
    (scanned : ∀ rest, Ends rest → Numeral.scan .eofValue (cs ++ rest) = .ok (n, rest))
    (other : ∀ k, n.value [] ≠ .ok (.integer k)) : Foreign cs :=
  ⟨number, _, means_of_scan scanned, fun k same => other k (eq_ok_of_verdict same)⟩

/-- A number with a fraction or an exponent. -/
inductive Scientific : List Char → Prop
  | mk {sign whole fraction exponent : List Char} : sign ∈ [[], ['-']] → Whole whole →
    Fraction fraction → Exponent exponent → fraction ≠ [] ∨ exponent ≠ [] →
    Scientific (sign ++ (whole ++ (fraction ++ exponent)))

/-- A number with a fraction or an exponent means no integer, also if its value is one. -/
theorem foreign_of_scientific {cs : List Char} (number : Scientific cs) : Foreign cs := by
  obtain ⟨known, digits, point, power, other⟩ := number
  obtain ⟨ds, e, noFraction, noExponent, scanned⟩ :=
    Numeral.scan_append .eofValue known digits point power
  refine foreign_of_scan ⟨known, digits, point, power⟩ scanned fun k same => ?_
  obtain ⟨nil, none, -⟩ := (Numeral.value_eq_integer_iff _ _ _).1 same
  rcases other with fraction | exponent
  · exact fraction (noFraction.1 nil)
  · exact exponent (noExponent.1 none)

/-! ## Plain digits -/

/-- The digits of a number, behind a sign if it is negative. -/
def signed (negative : Bool) (m : Nat) : List Char :=
  (if negative then ['-'] else []) ++ Nat.toDigits 10 m

theorem toList_toString_int (n : Int) : (toString n).toList = signed (n < 0) n.natAbs := by
  cases n with
  | ofNat m => exact toList_toString m
  | negSucc m =>
    have minus : toString (Int.negSucc m) = "-" ++ toString (m + 1) := rfl
    have negative : decide (Int.negSucc m < 0) = true := decide_eq_true (Int.negSucc_lt_zero m)
    rw [minus, String.toList_append, toList_toString, negative]
    rfl

/-- The numeral that such digits are. -/
def plain (negative : Bool) (m : Nat) : Numeral :=
  ⟨negative, (Nat.toDigits 10 m).map digit, [], none⟩

theorem scan_signed (negative : Bool) (m : Nat) : IsNumber (signed negative m) ∧
    ∀ rest, Ends rest →
      Numeral.scan .eofValue (signed negative m ++ rest) = .ok (plain negative m, rest) := by
  have known : (if negative then ['-'] else []) ∈ [[], ['-']] := by cases negative <;> decide
  have sign : ((if negative then ['-'] else []) == ['-']) = negative := by cases negative <;> decide
  have digits := whole_toDigits m
  obtain ⟨ds, e, noFraction, noExponent, scanned⟩ :=
    Numeral.scan_append .eofValue known digits .none .none
  obtain rfl := noFraction.2 rfl
  obtain rfl := noExponent.2 rfl
  have number : IsNumber _ := ⟨known, digits, .none, .none⟩
  rw [sign, List.append_nil, List.append_nil] at scanned
  rw [List.append_nil, List.append_nil] at number
  exact ⟨number, scanned⟩

/-- The integers that plain digits stand for. -/
theorem value_plain_iff (negative : Bool) (m : Nat) (k : Int) :
    (plain negative m).value [] = .ok (.integer k) ↔
      negative = false ∧ m ≤ 18446744073709551615 ∧ k = m ∨
      negative = true ∧ m ≠ 0 ∧ m ≤ 9223372036854775808 ∧ k = -m := by
  have absorbed (l : Nat) : Numeral.absorb Numeral.maxWord 0 (plain negative m).whole = (l, []) ↔
      l = m ∧ l ≤ 18446744073709551615 := by
    refine (absorb_map_digit _ (Nat.zero_le _)).trans ?_
    rw [Nat.ofDigitChars_ten_toDigits]
    exact Iff.rfl
  rw [Numeral.value_eq_integer_iff]
  simp only [absorbed]
  simp only [plain, true_and, and_assoc, exists_eq_left]
  cases negative with
  | false => simp
  | true =>
    simp only [reduceCtorEq, false_and, true_and, false_or]
    omega

theorem means_int {n : Int} (low : -9223372036854775808 ≤ n) (high : n ≤ 18446744073709551615) :
    Means (toString n).toList (.ok (.integer n)) := by
  obtain ⟨-, scanned⟩ := scan_signed (n < 0) n.natAbs
  have value : (plain (n < 0) n.natAbs).value [] = .ok (.integer n) := by
    rw [value_plain_iff]
    simp only [decide_eq_false_iff_not, decide_eq_true_eq]
    omega
  have means := means_of_scan scanned
  rwa [value, ← toList_toString_int] at means

/-- An integer that does not fit a word is no integer any more. -/
theorem foreign_int {n : Int} (outside : n < -9223372036854775808 ∨ 18446744073709551615 < n) :
    Foreign (toString n).toList := by
  obtain ⟨number, scanned⟩ := scan_signed (n < 0) n.natAbs
  rw [toList_toString_int]
  refine foreign_of_scan number scanned fun k same => ?_
  rw [value_plain_iff] at same
  simp only [decide_eq_false_iff_not, decide_eq_true_eq] at same
  omega

theorem isNumber_int (n : Int) : IsNumber (toString n).toList := by
  rw [toList_toString_int]
  exact (scan_signed _ _).1

theorem foreign_minus_zero : Foreign "-0".toList := by
  obtain ⟨number, scanned⟩ := scan_signed true 0
  refine foreign_of_scan number scanned fun k same => ?_
  rw [value_plain_iff] at same
  simp at same

/-! ## Reading integers -/

/-- The integer that a number is, if it is one within bounds. -/
def Number.within (expected : String) (bound : Nat) : Number → Except Cause Nat
  | integer n =>
    if 0 ≤ n ∧ n ≤ bound then .ok n.toNat else .error (.invalidValue (.integer n) expected)
  | float x => .error (.invalidType (.float x) expected)

variable {cs : List Char}

theorem readInteger_means {outcome : Except Cause Number} (number : IsNumber cs)
    (means : Means cs outcome) (expected : String) (bound : Nat) :
    Yields (readInteger expected bound) cs (outcome >>= Number.within expected bound) := by
  intro w rest blank ends
  have result := means rest ends
  obtain ⟨c, t, rfl, first⟩ := number.head
  obtain ⟨c', t', front, starts⟩ := (Value.number number).head
  obtain ⟨rfl, rfl⟩ := List.cons.inj front
  rw [readInteger, List.cons_append, skipBlank_append_cons blank starts.solid]
  dsimp only
  rw [if_pos first, ← List.cons_append]
  generalize readNumber (c :: t ++ rest) = out at result ⊢
  rcases outcome with cause | x
  · rcases out with (_ | _) | _ <;> cases result <;> rfl
  · obtain rfl := eq_ok_of_verdict result
    cases x with
    | integer n =>
      change verdict (if 0 ≤ n ∧ n ≤ bound then _ else _) = Except.map _ (ite _ _ _)
      split_ifs <;> rfl
    | float x => rfl

/-- An integer of at most a word is read when it is within its bounds. -/
theorem readInteger_int {n : Int} (low : -9223372036854775808 ≤ n)
    (high : n ≤ 18446744073709551615) (expected : String) (bound : Nat) :
    Yields (readInteger expected bound) (toString n).toList
      (if 0 ≤ n ∧ n ≤ bound then .ok n.toNat else .error (.invalidValue (.integer n) expected)) :=
  readInteger_means (isNumber_int n) (means_int low high) expected bound

theorem readInteger_foreign (foreign : Foreign cs) (expected : String) (bound : Nat) :
    ∃ cause, Yields (readInteger expected bound) cs (.error cause) := by
  obtain ⟨number, outcome, means, other⟩ := foreign
  have yields := readInteger_means number means expected bound
  rcases outcome with cause | n | x
  · exact ⟨cause, yields⟩
  · exact absurd rfl (other n)
  · exact ⟨_, yields⟩

end LedStrip.Json
