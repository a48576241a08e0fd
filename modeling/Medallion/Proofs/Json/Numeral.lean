import Medallion.Json.Numeral
import Medallion.Number.Layout
import Mathlib.Data.List.TakeWhile

/-!
# Whole numbers in JSON texts

A whole number of 64 bits, with or without a sign, is read back from its written form
(`Numeral.read?_decimalText`, `Numeral.value?_whole`): the decimal digits of a number write
the number, they do not start with a zero unless they are one, and a numeral that has
nothing else is the number itself.
-/

namespace Medallion

open Decimal (isDigit natOfDigits)

/-! ## Digits -/

theorem isDigit_iff {c : Char} : isDigit c = c.isDigit := by
  simp only [isDigit, Char.isDigit, Char.le_def, UInt32.le_iff_toNat_le]

theorem decimalDigits_ne_nil (n : Nat) : decimalDigits n ≠ [] := Nat.toDigits_ne_nil

theorem isDigit_of_mem {n : Nat} {c : Char} (hc : c ∈ decimalDigits n) : isDigit c = true := by
  rw [isDigit_iff]
  exact Nat.isDigit_of_mem_toDigits (by omega) (by omega) hc

theorem natOfDigits_decimalDigits (n : Nat) : natOfDigits (decimalDigits n) = n := by
  have hread : Nat.ofDigitChars 10 (Nat.toDigits 10 n) 0 = n := Nat.ofDigitChars_ten_toDigits
  rwa [Nat.ofDigitChars_eq_foldl] at hread

theorem digitChar_ne_zero {n : Nat} (hpos : 0 < n) (hlt : n < 10) : Nat.digitChar n ≠ '0' := by
  intro h
  have hnat := Nat.toNat_digitChar_of_lt_ten hlt
  rw [h] at hnat
  have hzero : '0'.toNat = 48 := rfl
  omega

/-- Only zero has a zero in front. -/
theorem head?_decimalDigits {n : Nat} (hpos : 0 < n) :
    (decimalDigits n).head? ≠ some '0' := by
  induction n using Nat.strongRecOn with
  | ind n ih =>
    unfold decimalDigits
    by_cases hlt : n < 10
    · rw [Nat.toDigits_of_lt_base hlt, List.head?_cons, ne_eq, Option.some.injEq]
      exact digitChar_ne_zero hpos hlt
    · rw [Nat.toDigits_of_base_le (by omega) (by omega),
        List.head?_append, Option.or_of_isSome (by simp)]
      exact ih (n / 10) (by omega) (by omega)

/-! ## Numerals -/

namespace Numeral

theorem takeWhile_decimalDigits (n : Nat) :
    (decimalDigits n).takeWhile isDigit = decimalDigits n :=
  List.takeWhile_eq_self_iff.mpr fun _ hc => isDigit_of_mem hc

theorem dropWhile_decimalDigits (n : Nat) : (decimalDigits n).dropWhile isDigit = [] :=
  List.dropWhile_eq_nil_iff.mpr fun _ hc => isDigit_of_mem hc

theorem single_of_head?_zero {n : Nat} (hzero : (decimalDigits n).head? = some '0') :
    (decimalDigits n).length = 1 := by
  rcases Nat.eq_zero_or_pos n with rfl | hpos
  · rfl
  · exact absurd hzero (head?_decimalDigits hpos)

/-- The numeral of a whole number, once its sign is off. -/
theorem read?_unsigned (n : Nat) (negative : Bool) :
    (let whole := (decimalDigits n).takeWhile isDigit
      if whole.isEmpty || (whole.head? == some '0' && whole.length ≠ 1) then none
      else do
        let (fraction, rest) ← readFraction? ((decimalDigits n).dropWhile isDigit)
        let exponent ← readExponent? rest
        some (Numeral.mk negative whole fraction exponent)) =
      some ⟨negative, decimalDigits n, [], none⟩ := by
  rw [takeWhile_decimalDigits, dropWhile_decimalDigits]
  have hgood : ((decimalDigits n).isEmpty ||
      ((decimalDigits n).head? == some '0' && decide ((decimalDigits n).length ≠ 1))) =
        false := by
    rw [Bool.or_eq_false_iff, List.isEmpty_eq_false_iff, Bool.and_eq_false_iff]
    refine ⟨decimalDigits_ne_nil n, ?_⟩
    by_cases hzero : (decimalDigits n).head? = some '0'
    · right
      simp [single_of_head?_zero hzero]
    · left
      simpa using hzero
  simp only [hgood]
  rfl

theorem read?_decimalText (i : Int) :
    read? (decimalText i) = some ⟨decide (i < 0), decimalDigits i.natAbs, [], none⟩ := by
  unfold decimalText
  by_cases hneg : i < 0
  · rw [if_pos hneg, decide_eq_true hneg]
    exact read?_unsigned i.natAbs true
  · rw [if_neg hneg, decide_eq_false hneg]
    cases hdigits : decimalDigits i.natAbs with
    | nil => exact absurd hdigits (decimalDigits_ne_nil _)
    | cons c cs =>
      have hc : isDigit c = true := by
        apply isDigit_of_mem (n := i.natAbs)
        rw [hdigits]
        exact List.mem_cons_self
      have hminus : c ≠ '-' := by
        rintro rfl
        exact absurd hc (by decide)
      have hread := read?_unsigned i.natAbs false
      rw [hdigits] at hread
      unfold read?
      split
      rename_i negative rest hsign
      split at hsign
      · rename_i rest' heq
        exact absurd (List.cons.inj heq).1 hminus
      · cases hsign
        exact hread

end Numeral

/-- Whether a number is a whole number of 64 bits, with or without a sign. -/
def Number.IsWhole : Number → Prop
  | .integer i => -Numeral.negativeLimit ≤ i ∧ i < Numeral.significandLimit
  | .real _ => False

theorem Numeral.value?_whole {i : Int} (hwhole : (Number.integer i).IsWhole) :
    Numeral.value? ⟨decide (i < 0), decimalDigits i.natAbs, [], none⟩ = some (.integer i) := by
  obtain ⟨hlower, hupper⟩ := hwhole
  unfold negativeLimit at hlower
  unfold significandLimit at hupper
  unfold value?
  simp only [natOfDigits_decimalDigits, List.isEmpty_nil, Option.isNone_none, Bool.and_self,
    Bool.true_and, significandLimit, negativeLimit]
  rw [if_pos (by simp; omega)]
  by_cases hneg : i < 0
  · have habs : (-(i.natAbs : Int)) = i := by omega
    simp only [hneg, decide_true, Bool.not_true, Bool.false_eq_true, if_false]
    rw [if_pos (by omega), habs]
  · have habs : (i.natAbs : Int) = i := by omega
    simp [hneg, habs]

end Medallion
