import Medallion.Sheet.Cell
import Mathlib.Order.Compare
import Mathlib.Data.String.Basic

/-!
# The order of positions

Numbers are ordered by their bit patterns: a pattern is read as a signed number, after all bits
but the sign have been flipped if the sign is set (`Binary64.toInt_signedKey`).  No two patterns
have the same key, so the two zeros and the many NaNs have places of their own.

Comparing positions is consistent: exchanging the two turns the answer around, and what comes
before another one or is level with it comes before all that follow (`Std.TransCmp`).  Positions
that are level are the same (`Std.LawfulEqCmp`).  So cells can be sorted by position, whatever
they hold.

Cells that are level need not be equal: a truth value is level with the number that it stands
for, and a text with the number that it reads as.  `Cell.StandsFor` says case by case what a
cell stands for, and cells are level if and only if they stand for the same
(`Cell.cmpPosition_eq_iff`).
-/

namespace Medallion

/-! ## Bit patterns -/

namespace Binary64

/-- The pattern as a signed number, with all bits but the sign flipped if the sign is set. -/
def signedKey (x : Binary64) : BitVec 64 :=
  if x.bits.toBitVec.msb then x.bits.toBitVec ^^^ BitVec.intMax 64 else x.bits.toBitVec

/-- Flipping all bits but the sign keeps the sign bit and flips the rest. -/
theorem xor_intMax {b : BitVec 64} (hsign : b.msb = true) :
    b ^^^ BitVec.intMax 64 = BitVec.intMin 64 + ~~~b := by
  have hmax : BitVec.intMax 64 = ~~~BitVec.intMin 64 := by decide
  have hlast : b.getLsbD 63 = true := by
    rw [BitVec.msb_eq_getLsbD_last] at hsign
    exact hsign
  -- the two summands have no bit in common, so adding them is joining them
  have hapart : BitVec.intMin 64 &&& ~~~b = 0#64 := by
    apply BitVec.eq_of_getLsbD_eq
    intro i hi
    simp only [BitVec.getLsbD_and, BitVec.getLsbD_intMin, BitVec.getLsbD_not]
    by_cases h : i = 63
    · subst h
      simp [hlast]
    · simp [show i + 1 ≠ 64 by omega]
  rw [BitVec.add_eq_or_of_and_eq_zero _ _ hapart, hmax]
  apply BitVec.eq_of_getLsbD_eq
  intro i hi
  simp only [BitVec.getLsbD_xor, BitVec.getLsbD_or, BitVec.getLsbD_intMin, BitVec.getLsbD_not]
  by_cases h : i = 63
  · subst h
    simp [hlast]
  · simp [show i + 1 ≠ 64 by omega, hi]

/-- The key that orders the patterns is the signed one. -/
theorem toInt_signedKey (x : Binary64) : x.signedKey.toInt = x.orderKey := by
  obtain ⟨⟨b⟩⟩ := x
  unfold signedKey orderKey negative magnitude signWeight
  simp only [UInt64.toNat_ofBitVec]
  cases hsign : b.msb with
  | false =>
    have hlt := BitVec.msb_eq_false_iff_two_mul_lt.mp hsign
    have hint := BitVec.toInt_eq_toNat_of_msb hsign
    simp
    omega
  | true =>
    have hle := BitVec.msb_eq_true_iff_two_mul_ge.mp hsign
    have hbound := b.isLt
    rw [if_pos rfl, xor_intMax hsign, BitVec.toInt_eq_toNat_cond]
    simp
    omega

theorem orderKey_injective : Function.Injective orderKey := by
  intro x y h
  have hx := x.bits.toNat_lt
  have hy := y.bits.toNat_lt
  have hnegative (z : Binary64) : z.negative = true ↔ signWeight ≤ z.bits.toNat :=
    decide_eq_true_iff
  have hbits : x.bits.toNat = y.bits.toNat := by
    simp only [orderKey, hnegative, magnitude, signWeight] at h
    split_ifs at h <;> omega
  cases x
  cases y
  simpa [UInt64.toNat_inj] using hbits

end Binary64

/-! ## Positions -/

instance : Std.TransCmp Position.cmp where
  eq_swap {p q} := by
    cases p with
    | number x =>
      cases q with
      | number y => exact Std.OrientedOrd.eq_swap
      | text t => rfl
    | text s =>
      cases q with
      | number y => rfl
      | text t => exact Std.OrientedOrd.eq_swap
  isLE_trans {p q r} hpq hqr := by
    cases p with
    | number x =>
      cases r with
      | number z =>
        cases q with
        | number y => exact Std.TransOrd.isLE_trans hpq hqr
        | text t => cases hqr
      | text u => rfl
    | text s =>
      cases q with
      | number y => cases hpq
      | text t =>
        cases r with
        | number z => cases hqr
        | text u => exact Std.TransOrd.isLE_trans hpq hqr

instance : Std.LawfulEqCmp Position.cmp where
  eq_of_compare {p q} h := by
    cases p with
    | number x =>
      cases q with
      | number y =>
        have hkey : x.orderKey = y.orderKey := Std.LawfulEqOrd.eq_of_compare h
        rw [Binary64.orderKey_injective hkey]
      | text t => cases h
    | text s =>
      cases q with
      | number y => cases h
      | text t => rw [Std.LawfulEqOrd.eq_of_compare h]

/-! ## Cells -/

namespace Cell

open Text

/-- What a cell stands for in an order: a number, or a text that does not read as one.  A truth
value stands for one or zero, and an empty cell for the empty text. -/
inductive StandsFor : Cell → Position → Prop where
  | empty : StandsFor .empty (.text "")
  | number (x : Binary64) : StandsFor (.number x) (.number x)
  | yes : StandsFor (.bool true) (.number .one)
  | no : StandsFor (.bool false) (.number .zero)
  | numeric {s : String} {x : Binary64}
      (hread : Binary64.read? (trimChars s.toList) = some x) :
      StandsFor (.text s) (.number x)
  | words {s : String} (hread : Binary64.read? (trimChars s.toList) = none) :
      StandsFor (.text s) (.text s)

theorem standsFor_iff {a : Cell} {p : Position} : a.StandsFor p ↔ a.position = p := by
  constructor
  · intro h
    cases h with
    | numeric hread | words hread => simp [position, hread]
    | empty | number | yes | no => rfl
  · rintro rfl
    cases a with
    | empty => exact .empty
    | number x => exact .number x
    | bool b =>
      cases b with
      | true => exact .yes
      | false => exact .no
    | text s =>
      cases hread : Binary64.read? (trimChars s.toList) with
      | some x => simpa [position, hread] using StandsFor.numeric hread
      | none => simpa [position, hread] using StandsFor.words hread

/-- Cells are level if and only if they stand for the same number or the same text. -/
theorem cmpPosition_eq_iff {a b : Cell} :
    a.cmpPosition b = .eq ↔ ∃ p, a.StandsFor p ∧ b.StandsFor p := by
  have hsame : a.cmpPosition b = .eq ↔ a.position = b.position :=
    @Std.LawfulEqCmp.compare_eq_iff_eq _ Position.cmp _ a.position b.position
  rw [hsame]
  simp [standsFor_iff, eq_comm]

/-- Cells that stand for numbers are ordered by the patterns of these. -/
theorem cmpPosition_of_numbers {a b : Cell} {x y : Binary64} (ha : a.StandsFor (.number x))
    (hb : b.StandsFor (.number y)) :
    a.cmpPosition b = compare x.signedKey.toInt y.signedKey.toInt := by
  rw [cmpPosition, standsFor_iff.mp ha, standsFor_iff.mp hb, Binary64.toInt_signedKey,
    Binary64.toInt_signedKey]
  rfl

instance : Std.TransCmp cmpPosition where
  eq_swap {a b} := @Std.OrientedCmp.eq_swap _ Position.cmp _ a.position b.position
  isLE_trans {a b c} :=
    @Std.TransCmp.isLE_trans _ Position.cmp _ a.position b.position c.position

variable {a b c : Cell}

theorem positionLE_iff : a.positionLE b = true ↔ (a.cmpPosition b).isLE = true := by
  unfold positionLE
  cases a.cmpPosition b <;> decide

theorem positionLE_trans (hab : a.positionLE b = true) (hbc : b.positionLE c = true) :
    a.positionLE c = true := by
  rw [positionLE_iff] at hab hbc ⊢
  exact Std.TransCmp.isLE_trans hab hbc

theorem positionLE_total (a b : Cell) : (a.positionLE b || b.positionLE a) = true := by
  have hswap : a.cmpPosition b = (b.cmpPosition a).swap := Std.OrientedCmp.eq_swap
  unfold positionLE
  rw [hswap]
  cases b.cmpPosition a <;> decide

theorem positionLE_refl (a : Cell) : a.positionLE a = true := by
  simpa using a.positionLE_total a

/-- Whether two cells are level. -/
def isLevel (a b : Cell) : Bool := a.cmpPosition b == .eq

theorem isLevel_self (a : Cell) : a.isLevel a = true :=
  beq_iff_eq.mpr Std.ReflCmp.compare_self

/-- Cells that are level with the same cell are level with one another. -/
theorem positionLE_of_isLevel (hb : a.isLevel b = true) (hc : a.isLevel c = true) :
    b.positionLE c = true := by
  have hab : a.cmpPosition b = .eq := eq_of_beq hb
  have hbc : a.cmpPosition c = b.cmpPosition c := Std.TransCmp.congr_left hab
  rw [positionLE_iff, ← hbc, eq_of_beq hc]
  rfl

end Cell

end Medallion
