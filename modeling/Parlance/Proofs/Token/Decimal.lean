import Parlance.Proofs.Frame
import Parlance.Proofs.Token.Verbatim
import Parlance.Token.Number
import Mathlib.Data.List.Induction
import Mathlib.Data.Nat.Digits.Defs

/-!
# Decimal digits

A run of digits denotes a number, in which each digit counts ten times as much as the one behind it
(`denoted`). Digits that are read from the left come to the same number (`decimal_eq_denoted`),
however many they are and however many of them are leading zeros, and a number that is written down
denotes itself (`denoted_toString`).

Inside a verbatim token a sequence of digits is all the digits ahead, and where there is none the
next symbol is complained about (`readsDigits_sequence`).
-/

namespace Parlance.Token

open Parlance.Parser

variable {c c' : Cursor} {digits : List Char} {n : ℕ}

/-! ## The number that digits denote -/

/-- The value of a decimal digit by itself. -/
def digitValue (d : Char) : ℕ := d.toNat - '0'.toNat

/-- The number that decimal digits denote. -/
def denoted (digits : List Char) : ℕ := Nat.ofDigits 10 (digits.reverse.map digitValue)

/-- One more digit at the end makes all others count ten times as much. -/
lemma denoted_append_singleton (digits : List Char) (d : Char) :
    denoted (digits ++ [d]) = 10 * denoted digits + digitValue d := by
  unfold denoted
  rw [List.reverse_append, List.reverse_singleton, List.singleton_append, List.map_cons,
    Nat.ofDigits_cons, add_comm]

/-- Digits may as well be read from the left. -/
theorem decimal_eq_denoted (digits : List Char) : decimal digits = denoted digits := by
  induction digits using List.reverseRecOn with
  | nil => rfl
  | append_singleton digits d ih =>
    rw [denoted_append_singleton, ← ih]
    unfold decimal
    rw [List.foldl_append]
    rfl

/-! ## Numbers written down -/

lemma toList_toString (n : ℕ) : (toString n).toList = Nat.toDigits 10 n := by
  rw [Nat.toString_eq_ofList_toDigits, String.toList_ofList]

lemma isDigit_of_mem_toString : ∀ d ∈ (toString n).toList, d.isDigit = true := by
  intro d hd
  rw [toList_toString] at hd
  exact Nat.isDigit_of_mem_toDigits (by omega) (by omega) hd

lemma toString_ne_nil : (toString n).toList ≠ [] := by
  rw [toList_toString]
  exact Nat.toDigits_ne_nil

/-- A number that is written down denotes itself. -/
theorem denoted_toString (n : ℕ) : denoted (toString n).toList = n := by
  rw [← decimal_eq_denoted, toList_toString]
  exact Nat.ofDigitChars_ten_toDigits

/-- A number in front of something else than a digit is the run of digits there. -/
lemma takeWhile_isDigit_toString_append {rest : List Char}
    (hrest : rest.takeWhile Char.isDigit = []) :
    ((toString n).toList ++ rest).takeWhile Char.isDigit = (toString n).toList := by
  rw [List.takeWhile_append_of_pos isDigit_of_mem_toString, hrest, List.append_nil]

lemma digitChar_digitValue {d : Char} (hd : d.isDigit = true) :
    digitValue d < 10 ∧ Nat.digitChar (digitValue d) = d := by
  have hrange : 48 ≤ d.toNat ∧ d.toNat ≤ 57 := by
    simpa [Char.isDigit, UInt32.le_iff_toNat_le] using hd
  have hvalue : digitValue d = d.toNat - 48 := rfl
  have hlt : digitValue d < 10 := by omega
  refine ⟨hlt, Char.toNat_inj.mp ?_⟩
  rw [Nat.toNat_digitChar_of_lt_ten hlt]
  omega

/-- Digits are zeros and the digits with which the number is written down. -/
theorem exists_zeros_append_toString (hne : digits ≠ [])
    (hdigits : ∀ d ∈ digits, d.isDigit = true) :
    ∃ zeros, (∀ z ∈ zeros, z = '0') ∧ digits = zeros ++ (toString (denoted digits)).toList := by
  simp only [toList_toString]
  -- the induction is on the last digit, behind which the number becomes ten times as large
  induction digits using List.reverseRecOn with
  | nil => exact absurd rfl hne
  | append_singleton digits d ih =>
    obtain ⟨hlt, hchar⟩ := digitChar_digitValue (hdigits d (by simp))
    have hone : Nat.toDigits 10 (digitValue d) = [d] := by
      rw [Nat.toDigits_of_lt_base hlt, hchar]
    rw [denoted_append_singleton]
    by_cases hnil : digits = []
    · refine ⟨[], by simp, ?_⟩
      rw [hnil, show denoted [] = 0 from rfl, Nat.mul_zero, Nat.zero_add, hone]
    · obtain ⟨zeros, hzeros, heq⟩ := ih hnil fun x hx => hdigits x (List.mem_append_left _ hx)
      by_cases hzero : denoted digits = 0
      · -- all the digits in front are zeros
        refine ⟨digits, fun z hz => ?_, ?_⟩
        · rw [heq, hzero, List.mem_append] at hz
          rcases hz with hz | hz
          · exact hzeros z hz
          · simpa using hz
        · rw [hzero, Nat.mul_zero, Nat.zero_add, hone]
      · refine ⟨zeros, hzeros, ?_⟩
        have happend := Nat.toDigits_append_toDigits (b := 10) (n := denoted digits)
          (d := digitValue d) (by omega) (by omega) hlt
        rw [← happend, hone, ← List.append_assoc, ← heq]

/-! ## Sequences of digits -/

lemma isDigit_iff {x : Char} : x.isDigit = true ↔ '0' ≤ x ∧ x ≤ '9' := by
  simp [Char.isDigit, Char.le_def]

lemma not_isBlank_of_isDigit {x : Char} (hx : x.isDigit = true) : isBlank x = false := by
  by_contra hblank
  simp only [isBlank, Bool.not_eq_false, Bool.or_eq_true, decide_eq_true_eq] at hblank
  rcases hblank with ((rfl | rfl) | rfl) | rfl <;> cases hx

/-- Digits do not begin with a blank, whatever comes behind them. -/
lemma startsBlank_digits_append (hne : digits ≠ []) (hdigits : ∀ d ∈ digits, d.isDigit = true)
    (rest : List Char) : startsBlank (digits ++ rest) = false := by
  cases digits with
  | nil => exact absurd rfl hne
  | cons d digits => exact not_isBlank_of_isDigit (hdigits d List.mem_cons_self)

lemma rangeTag_digit : rangeTag '0' '9' = "[0-9]" := rfl

/-- A digit that is missing is complained about behind the symbol in its place. -/
lemma rejects_digit_iff (hverbatim : c.isVerbatim = true) {e : ParseError} :
    digit.parse.Rejects c e c' ↔
      c.ahead.takeWhile Char.isDigit = [] ∧ c' = c.past (c.ahead.take 1)
        ∧ e = c'.unexpectedSymbol "[0-9]" := by
  unfold digit
  rw [rejects_range_iff, approach_of_isVerbatim _ hverbatim, rangeTag_digit]
  refine and_congr_left fun _ => ?_
  cases c.ahead with
  | nil => simp
  | cons x rest => simp [List.takeWhile_cons, isDigit_iff]

lemma takesOne_digit : digit.TakesOne Char.isDigit :=
  (takesOne_range '0' '9').congr fun _ =>
    Bool.eq_iff_iff.mpr (isDigit_iff.trans decide_eq_true_iff.symm)

/-- What `p` reads from `c` are digits behind some other text, `read` in all, and its value is `a`.
If there are none, `taken` has been read when that is found out. -/
structure ReadsDigits {α : Type} (p : Parser α) (c : Cursor) (a : α)
    (digits read taken : List Char) : Prop where
  accepts_iff : ∀ b c', p.parse.Accepts c b c' ↔ b = a ∧ digits ≠ [] ∧ c' = c.past read
  rejects_iff : ∀ e c', p.parse.Rejects c e c' ↔
    digits = [] ∧ c' = c.past taken ∧ e = c'.unexpectedSymbol "[0-9]"

/-- A sequence of digits is all the digits ahead, and there is one at least. -/
lemma readsDigits_sequence (hverbatim : c.isVerbatim = true)
    (hdigits : c.ahead.takeWhile Char.isDigit = digits) :
    ReadsDigits (sequence digit) c digits digits digits (c.ahead.take 1) where
  accepts_iff found c' := by
    rw [takesOne_digit.accepts_sequence_iff hverbatim, hdigits]
    refine and_congr_right fun hfound => ?_
    rw [hfound]
  rejects_iff e c' := by
    rw [rejects_sequence_iff, rejects_digit_iff hverbatim, hdigits]

end Parlance.Token
