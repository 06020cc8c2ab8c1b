import Mathlib.Tactic.SplitIfs
import StaticSite.Text.Blank

/-!
# Decimal digits

A text is read as a natural number exactly if it has digits alone, and its number is that of the
digits (`readNat?_eq_some_iff`). Of all the texts that are read as a number, it is written by the
one that has no zero in front (`toDigits_eq_iff`).
-/

namespace StaticSite.Text

variable {text : List Char} {c : Char} {n : Nat}

theorem decDigit?_eq (c : Char) :
    decDigit? c = if c.isDigit then some (c.toNat - '0'.toNat) else none := by
  simp [decDigit?, Char.isDigit, Char.le_def, UInt32.le_iff_toNat_le]

private theorem foldlM_decDigit? (text : List Char) (n : Nat) :
    text.foldlM (fun n c ↦ (decDigit? c).map fun d ↦ n * 10 + d) n =
      if text.all Char.isDigit then some (Nat.ofDigitChars 10 text n) else none := by
  induction text generalizing n with
  | nil => rfl
  | cons c text ih =>
    rw [List.foldlM_cons, decDigit?_eq, List.all_cons]
    cases hdigit : c.isDigit with
    | false => rfl
    | true =>
      have hnext := ih (n * 10 + (c.toNat - '0'.toNat))
      rw [Nat.mul_comm n] at hnext
      rw [Bool.true_and, Nat.ofDigitChars_cons, ← hnext, Nat.mul_comm n]
      rfl

/-- Digits, and nothing else, are read as their number. -/
theorem readNat?_eq_some_iff : readNat? text = some n ↔
    text ≠ [] ∧ text.all Char.isDigit ∧ Nat.ofDigitChars 10 text 0 = n := by
  rw [readNat?, readDigits?, foldlM_decDigit?]
  cases text with
  | nil => simp
  | cons c text => simp

/-! ## Zeros in front -/

/-- Whether digits have no zero in front, unless it is the only one. -/
def IsTight (digits : List Char) : Prop := digits.head? = some '0' → digits = ['0']

private theorem head?_append_singleton {front : List Char} (hne : front ≠ []) (c : Char) :
    (front ++ [c]).head? = front.head? := by
  cases front with
  | nil => exact absurd rfl hne
  | cons first front => rfl

theorem isTight_toDigits (n : Nat) : IsTight (Nat.toDigits 10 n) := by
  induction n using Nat.strongRecOn with
  | ind n ih =>
    rw [Nat.toDigits_eq_if (by decide)]
    split_ifs with hn
    · intro hzero
      rw [List.head?_cons, Option.some.injEq] at hzero
      rw [hzero]
    · intro hzero
      rw [head?_append_singleton Nat.toDigits_ne_nil] at hzero
      have hfront := ih (n / 10) (Nat.div_lt_self (by omega) (by decide)) hzero
      have hnumber : n / 10 = Nat.ofDigitChars 10 ['0'] 0 := by
        rw [← hfront, Nat.ofDigitChars_ten_toDigits]
      have hpositive : 0 < n / 10 := Nat.div_pos (by omega) (by decide)
      exact absurd (hnumber ▸ hpositive) (by decide)

private theorem digitChar_of_isDigit (h : c.isDigit) :
    c.toNat - '0'.toNat < 10 ∧ (c.toNat - '0'.toNat).digitChar = c := by
  have hrange : 48 ≤ c.toNat ∧ c.toNat ≤ 57 := by
    simpa [Char.isDigit, UInt32.le_iff_toNat_le] using h
  have hlt : c.toNat - '0'.toNat < 10 := by
    change c.toNat - 48 < 10
    omega
  refine ⟨hlt, Char.toNat_inj.mp ?_⟩
  rw [Nat.toNat_digitChar_of_lt_ten hlt]
  change 48 + (c.toNat - 48) = c.toNat
  omega

/-- Digits behind those of a number that is not zero go on with it. -/
private theorem toDigits_append (hn : 0 < n) (hdigits : text.all Char.isDigit) :
    Nat.toDigits 10 n ++ text = Nat.toDigits 10 (Nat.ofDigitChars 10 text n) := by
  induction text generalizing n with
  | nil => rw [List.append_nil, Nat.ofDigitChars_nil]
  | cons c text ih =>
    rw [List.all_cons, Bool.and_eq_true] at hdigits
    obtain ⟨hlt, hchar⟩ := digitChar_of_isDigit hdigits.1
    have hfront : Nat.toDigits 10 n ++ [c] = Nat.toDigits 10 (10 * n + (c.toNat - '0'.toNat)) := by
      rw [← Nat.toDigits_append_toDigits (by decide) hn hlt, Nat.toDigits_of_lt_base hlt, hchar]
    rw [List.append_cons, hfront, Nat.ofDigitChars_cons]
    exact ih (by omega) hdigits.2

/-- Digits without a zero in front are the ones that their number is written with. -/
theorem toDigits_ofDigitChars (hne : text ≠ []) (hdigits : text.all Char.isDigit)
    (htight : IsTight text) : Nat.toDigits 10 (Nat.ofDigitChars 10 text 0) = text := by
  cases text with
  | nil => exact absurd rfl hne
  | cons c text =>
    by_cases hzero : c = '0'
    · rw [htight (congrArg some hzero)]
      rfl
    · rw [List.all_cons, Bool.and_eq_true] at hdigits
      obtain ⟨hlt, hchar⟩ := digitChar_of_isDigit hdigits.1
      have hpositive : 0 < c.toNat - '0'.toNat := by
        rw [Nat.pos_iff_ne_zero]
        intro hnone
        rw [hnone] at hchar
        exact hzero hchar.symm
      rw [Nat.ofDigitChars_cons, Nat.mul_zero, Nat.zero_add,
        ← toDigits_append hpositive hdigits.2, Nat.toDigits_of_lt_base hlt, hchar,
        List.singleton_append]

/-- Of the texts of a number, the one without a zero in front is written. -/
theorem toDigits_eq_iff (h : readNat? text = some n) : Nat.toDigits 10 n = text ↔ IsTight text := by
  obtain ⟨hne, hdigits, rfl⟩ := readNat?_eq_some_iff.mp h
  exact ⟨fun hsame ↦ hsame ▸ isTight_toDigits _, toDigits_ofDigitChars hne hdigits⟩

end StaticSite.Text
