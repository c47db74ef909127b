import Mathlib.Data.List.Induction
import TreeCodec.Pattern
import TreeCodec.Text.Numeral

/-!
Numerals are read back as the numbers they were written for. Writing puts
digits in front of a rest and reading folds from the left; both are brought to
the same form, in which the last digit stands at the end.
-/

namespace TreeCodec.Text

theorem isDigit_iff (c : Char) :
    isDigit c = true ↔ 48 ≤ c.toNat ∧ c.toNat ≤ 57 := by
  simp only [isDigit, Bool.and_eq_true, decide_eq_true_eq]
  exact Iff.rfl

theorem ne_of_isDigit {c d : Char} (hc : isDigit c = true)
    (hd : isDigit d = false) : c ≠ d := by
  rintro rfl
  rw [hc] at hd
  cases hd

/-- The class of digits that patterns use is the same set of characters. -/
theorem contains_digits :
    CharClass.contains ⟨[⟨'0'.toNat, '9'.toNat⟩]⟩ = isDigit := by
  funext c
  rw [Bool.eq_iff_iff, isDigit_iff]
  simp [CharClass.contains, inRanges, CharRange.contains]

theorem isDigit_digitChar {n : Nat} (h : n < 10) :
    isDigit (digitChar n) = true := by
  revert n
  decide

theorem digitValue_digitChar {n : Nat} (h : n < 10) :
    digitValue (digitChar n) = n := by
  revert n
  decide

theorem numeralOnto_eq_append (n : Nat) (rest : List Char) :
    numeralOnto n rest = numeral n ++ rest := by
  induction n using Nat.strongRecOn generalizing rest with
  | ind n ih =>
    rcases Nat.lt_or_ge n 10 with h | h
    · rw [numeral, numeralOnto, if_pos h, numeralOnto, if_pos h]
      rfl
    · have hsmaller : n / 10 < n := by omega
      rw [numeral, numeralOnto, if_neg (by omega), ih _ hsmaller, numeralOnto,
        if_neg (by omega), ih _ hsmaller, List.append_assoc]
      rfl

theorem numeral_of_lt {n : Nat} (h : n < 10) : numeral n = [digitChar n] := by
  rw [numeral, numeralOnto, if_pos h]

/-- A longer numeral is that of the number without its last digit, and that
digit. -/
theorem numeral_of_ge {n : Nat} (h : 10 ≤ n) :
    numeral n = numeral (n / 10) ++ [digitChar (n % 10)] := by
  rw [numeral, numeralOnto, if_neg (by omega), numeralOnto_eq_append]

/-- The numeral is the decimal notation of the standard library. -/
theorem numeral_eq_toDigits (n : Nat) : numeral n = Nat.toDigits 10 n := by
  have hdigit : ∀ d < 10, digitChar d = d.digitChar := by decide
  induction n using Nat.strongRecOn with
  | ind n ih =>
    rcases Nat.lt_or_ge n 10 with h | h
    · rw [numeral_of_lt h, Nat.toDigits_of_lt_base h, hdigit n h]
    · rw [numeral_of_ge h, Nat.toDigits_of_base_le (by decide) h, ih (n / 10) (by omega),
        hdigit _ (Nat.mod_lt n (by decide))]

theorem numeral_ne_nil (n : Nat) : numeral n ≠ [] := by
  rcases Nat.lt_or_ge n 10 with h | h
  · simp [numeral_of_lt h]
  · simp [numeral_of_ge h]

theorem isDigit_of_mem_numeral {n : Nat} {c : Char} (hc : c ∈ numeral n) :
    isDigit c = true := by
  induction n using Nat.strongRecOn generalizing c with
  | ind n ih =>
    rcases Nat.lt_or_ge n 10 with h | h
    · rw [numeral_of_lt h, List.mem_singleton] at hc
      rw [hc]
      exact isDigit_digitChar h
    · rw [numeral_of_ge h, List.mem_append, List.mem_singleton] at hc
      rcases hc with hearlier | rfl
      · exact ih (n / 10) (by omega) hearlier
      · exact isDigit_digitChar (by omega)

theorem numeralValue_append_singleton (digits : List Char) (c : Char) :
    numeralValue (digits ++ [c]) = 10 * numeralValue digits + digitValue c := by
  simp [numeralValue, valueInBase]

theorem numeralValue_numeral (n : Nat) : numeralValue (numeral n) = n := by
  induction n using Nat.strongRecOn with
  | ind n ih =>
    rcases Nat.lt_or_ge n 10 with h | h
    · simp [numeral_of_lt h, numeralValue, valueInBase, digitValue_digitChar h]
    · rw [numeral_of_ge h, numeralValue_append_singleton, ih (n / 10) (by omega),
        digitValue_digitChar (by omega)]
      omega

theorem digitValue_lt {c : Char} (h : isDigit c = true) : digitValue c < 10 := by
  obtain ⟨hlow, hhigh⟩ := (isDigit_iff c).mp h
  have hzero : '0'.toNat = 48 := rfl
  rw [digitValue, hzero]
  omega

theorem digitChar_digitValue {c : Char} (h : isDigit c = true) :
    digitChar (digitValue c) = c := by
  obtain ⟨hlow, -⟩ := (isDigit_iff c).mp h
  have hzero : '0'.toNat = 48 := rfl
  rw [digitChar, digitValue, hzero, Nat.add_sub_of_le hlow, Char.ofNat_toNat]

/-- The digits without the zeros in front of them, but one zero if there are no
others. -/
def significantDigits (digits : List Char) : List Char :=
  match digits.dropWhile (· = '0') with
  | [] => ['0']
  | c :: rest => c :: rest

theorem significantDigits_of_eq_nil {digits : List Char}
    (h : digits.dropWhile (· = '0') = []) : significantDigits digits = ['0'] := by
  rw [significantDigits, h]

theorem significantDigits_of_ne_nil {digits : List Char}
    (h : digits.dropWhile (· = '0') ≠ []) :
    significantDigits digits = digits.dropWhile (· = '0') := by
  obtain ⟨c, rest, hcons⟩ := List.exists_cons_of_ne_nil h
  rw [significantDigits, hcons]

theorem numeral_digitValue {c : Char} (h : isDigit c = true) :
    numeral (digitValue c) = [c] := by
  rw [numeral_of_lt (digitValue_lt h), digitChar_digitValue h]

/-- A digit behind a number that is not zero stands behind its numeral. -/
theorem numeral_ten_mul_add {n : Nat} (hn : n ≠ 0) {c : Char}
    (h : isDigit c = true) : numeral (10 * n + digitValue c) = numeral n ++ [c] := by
  have hlt := digitValue_lt h
  have hquotient : (10 * n + digitValue c) / 10 = n := by omega
  have hremainder : (10 * n + digitValue c) % 10 = digitValue c := by omega
  rw [numeral_of_ge (by omega), hquotient, hremainder, digitChar_digitValue h]

/-- The shortest numeral of a number has the digits of any other, less the zeros
in front. By induction on the digits from the last one. -/
theorem numeral_numeralValue {digits : List Char}
    (h : ∀ c ∈ digits, isDigit c = true) :
    numeral (numeralValue digits) = significantDigits digits := by
  induction digits using List.reverseRecOn with
  | nil => exact numeral_of_lt (by decide)
  | append_singleton digits c ih =>
    obtain ⟨hdigits, hlast⟩ := List.forall_mem_append.mp h
    have hc := hlast c List.mem_cons_self
    have hvalue := numeralValue_numeral (numeralValue digits)
    rw [ih hdigits] at hvalue
    rw [numeralValue_append_singleton]
    by_cases hzeros : digits.dropWhile (· = '0') = []
    · -- The digits in front are zeros, so the last one is all there is.
      rw [significantDigits_of_eq_nil hzeros] at hvalue
      have hzero : numeralValue digits = 0 := hvalue.symm
      rw [hzero, Nat.mul_zero, Nat.zero_add, numeral_digitValue hc, significantDigits,
        List.dropWhile_append, hzeros]
      by_cases hcase : c = '0' <;> simp [hcase]
    · have hnonzero : numeralValue digits ≠ 0 := by
        intro hzero
        have hfirst := List.head?_dropWhile_not (· = '0') digits
        rw [← significantDigits_of_ne_nil hzeros, ← ih hdigits, hzero,
          numeral_of_lt (by decide)] at hfirst
        have hdigit : decide (digitChar 0 = '0') = false := hfirst
        exact absurd hdigit (by decide)
      have hkept : (digits ++ [c]).dropWhile (· = '0')
          = digits.dropWhile (· = '0') ++ [c] := by
        rw [List.dropWhile_append, if_neg (by simpa using hzeros)]
      rw [numeral_ten_mul_add hnonzero hc, ih hdigits,
        significantDigits_of_ne_nil hzeros, significantDigits_of_ne_nil, hkept]
      simp [hkept]

theorem readNumeral?_takeWhile (text : List Char) :
    readNumeral? (text.takeWhile isDigit)
      = if text.takeWhile isDigit = [] then none
        else some (numeralValue (text.takeWhile isDigit)) := by
  have hdigits : (text.takeWhile isDigit).all isDigit = true :=
    List.all_takeWhile
  by_cases h : text.takeWhile isDigit = []
  · simp [readNumeral?, h]
  · simp [readNumeral?, h, hdigits]

end TreeCodec.Text
