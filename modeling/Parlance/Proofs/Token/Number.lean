import Parlance.Proofs.Token.Blank
import Parlance.Proofs.Token.Decimal

/-!
# What numbers read

A natural number is all the digits behind the blanks, and an integer may have one sign directly in
front of them. The value is what the digits denote, exactly, and it only has to be within bounds in
the end: the digits of a number that is not are read before it is refused
(`nat_denotes_decimal`, `int_denotes_signed_decimal`).
-/

namespace Parlance.Token

open Parlance.Parser

variable {c c' : Cursor} {e : ParseError} {n : ℕ} {z : ℤ} {sign digits : List Char}

/-! ## Bounds -/

section Bounds

variable {α β : Type} {tag : String} {p : Parser α} {within : α → Prop} [DecidablePred within]
  {value : α → β} {written : α → List Char} {a : α} {b : β} {read taken : List Char}
  (h : ReadsDigits p c.skipBlank.enterVerbatim a digits read taken)

include h

/-- A token of digits with a bound on its value is read if the value keeps to it. -/
lemma ReadsDigits.accepts_bounded_iff :
    (map tag (verbatim p) fun a =>
        if within a then pure (value a) else tooLarge (written a)).parse.Accepts c b c' ↔
      digits ≠ [] ∧ within a ∧ b = value a ∧ c' = c.skipBlank.past read := by
  simp only [accepts_map_verbatim_iff, h.accepts_iff]
  constructor
  · rintro ⟨_, c₁, ⟨rfl, hne, rfl⟩, hvalue⟩
    split at hvalue
    · next hwithin =>
      obtain ⟨rfl, rfl⟩ := Parse.accepts_pure_iff.mp hvalue
      exact ⟨hne, hwithin, rfl, rfl⟩
    · exact absurd hvalue Parse.not_accepts_fail
  · rintro ⟨hne, hwithin, rfl, rfl⟩
    refine ⟨a, _, ⟨rfl, hne, rfl⟩, ?_⟩
    rw [if_pos hwithin]
    exact Parse.accepts_pure_iff.mpr ⟨rfl, rfl⟩

/-- It fails because the value does not keep to the bound, or because the digits are missing. -/
lemma ReadsDigits.rejects_bounded_iff :
    (map tag (verbatim p) fun a =>
        if within a then pure (value a) else tooLarge (written a)).parse.Rejects c e c' ↔
      (digits ≠ [] ∧ ¬ within a ∧ e = .custom ("number too large: " ++ String.ofList (written a))
          ∧ c' = c.skipBlank.past read) ∨
        (digits = [] ∧ c' = c.skipBlank.past taken ∧ e = c'.unexpectedSymbol "[0-9]") := by
  simp only [rejects_map_verbatim_iff, h.accepts_iff, h.rejects_iff]
  rw [or_comm]
  refine or_congr ⟨?_, ?_⟩ ⟨?_, ?_⟩
  · rintro ⟨_, c₁, ⟨rfl, hne, rfl⟩, hvalue⟩
    split at hvalue
    · exact absurd hvalue Parse.not_rejects_pure
    · next hbeyond =>
      obtain ⟨rfl, rfl⟩ := Parse.rejects_fail_iff.mp hvalue
      exact ⟨hne, hbeyond, rfl, rfl⟩
  · rintro ⟨hne, hbeyond, rfl, rfl⟩
    refine ⟨a, _, ⟨rfl, hne, rfl⟩, ?_⟩
    rw [if_neg hbeyond]
    exact Parse.rejects_fail _ _
  · rintro ⟨c₁, ⟨hnone, rfl, rfl⟩, rfl⟩
    exact ⟨hnone, rfl, rfl⟩
  · rintro ⟨hnone, rfl, rfl⟩
    exact ⟨_, ⟨hnone, rfl, rfl⟩, rfl⟩

end Bounds

/-! ## Natural numbers -/

/-- A natural number is all the digits behind the blanks. -/
theorem accepts_nat_iff (hdigits : c.skipBlank.ahead.takeWhile Char.isDigit = digits) :
    nat.parse.Accepts c n c' ↔
      digits ≠ [] ∧ denoted digits ≤ maxNat ∧ n = denoted digits
        ∧ c' = c.skipBlank.past digits := by
  have hread := readsDigits_sequence c.skipBlank.isVerbatim_enterVerbatim hdigits
  unfold nat
  rw [hread.accepts_bounded_iff, decimal_eq_denoted]

/-- A natural number is refused by its digits if it is too large. It is missing if there are none,
and then one symbol has been taken in their place. -/
theorem rejects_nat_iff (hdigits : c.skipBlank.ahead.takeWhile Char.isDigit = digits) :
    nat.parse.Rejects c e c' ↔
      (digits ≠ [] ∧ maxNat < denoted digits
          ∧ e = .custom ("number too large: " ++ String.ofList digits)
          ∧ c' = c.skipBlank.past digits) ∨
        (digits = [] ∧ c' = c.skipBlank.past (c.skipBlank.ahead.take 1)
          ∧ e = c'.unexpectedSymbol "[0-9]") := by
  have hread := readsDigits_sequence c.skipBlank.isVerbatim_enterVerbatim hdigits
  unfold nat
  rw [hread.rejects_bounded_iff, decimal_eq_denoted, not_le]
  rfl

/-- A number that is written down reads back, whatever comes behind its digits. -/
theorem accepts_nat_of_toString (hbound : n ≤ maxNat) {rest : List Char}
    (hrest : rest.takeWhile Char.isDigit = []) (hahead : c.ahead = (toString n).toList ++ rest) :
    nat.parse.Accepts c n (c.past (toString n).toList) := by
  have hskip : c.skipBlank = c := by
    apply Cursor.skipBlank_of_not_startsBlank
    rw [hahead]
    exact startsBlank_digits_append toString_ne_nil isDigit_of_mem_toString rest
  have hdigits : c.skipBlank.ahead.takeWhile Char.isDigit = (toString n).toList := by
    rw [hskip, hahead, takeWhile_isDigit_toString_append hrest]
  rw [accepts_nat_iff hdigits, denoted_toString, hskip]
  exact ⟨toString_ne_nil, hbound, rfl, rfl⟩

/-- Natural numbers that are the whole text ahead, but for blanks in front. Inside a verbatim token
there are no such blanks. -/
theorem accepts_only_nat_iff :
    (only nat).parse.Accepts c n c' ↔
      ∃ blanks digits, c.ahead = blanks ++ digits ∧ Blank blanks
        ∧ (c.isVerbatim = true → blanks = []) ∧ digits ≠ [] ∧ (∀ d ∈ digits, d.isDigit = true)
        ∧ denoted digits ≤ maxNat ∧ n = denoted digits ∧ c' = c.past c.ahead := by
  rw [accepts_only_iff Parse.compositional_orderly.nat.orderly, accepts_nat_iff rfl]
  constructor
  · rintro ⟨⟨hne, hbound, rfl, rfl⟩, hend⟩
    obtain ⟨blanks, hblanks, hverbatim, hahead, hskip⟩ := c.exists_skipBlank_cut
    -- nothing is left behind the digits
    have hrest : c.skipBlank.ahead.dropWhile Char.isDigit = [] := by
      rw [← Cursor.ahead_past_of_eq (c := c.skipBlank) List.takeWhile_append_dropWhile.symm]
      exact List.isEmpty_iff.mp hend
    have hdigits : c.skipBlank.ahead.takeWhile Char.isDigit = c.skipBlank.ahead := by
      have hwhole := List.takeWhile_append_dropWhile (p := Char.isDigit) (l := c.skipBlank.ahead)
      rwa [hrest, List.append_nil] at hwhole
    rw [hdigits] at hne hbound ⊢
    refine ⟨blanks, c.skipBlank.ahead, hahead, hblanks, hverbatim, hne, ?_, hbound, rfl, ?_⟩
    · exact List.takeWhile_eq_self_iff.mp hdigits
    · rw [hahead, hskip, Cursor.past_past]
  · rintro ⟨blanks, digits, hahead, hblanks, hverbatim, hne, hdigits, hbound, rfl, rfl⟩
    have hsolid := startsBlank_digits_append hne hdigits []
    rw [List.append_nil] at hsolid
    have hskip := Cursor.skipBlank_of_cut hblanks hverbatim hsolid hahead
    have hbehind : c.skipBlank.ahead = digits := by
      rw [hskip]
      exact Cursor.ahead_past_of_eq hahead
    rw [hbehind, List.takeWhile_eq_self_iff.mpr hdigits, hskip, Cursor.past_past, ← hahead]
    exact ⟨⟨hne, hbound, rfl, rfl⟩, List.isEmpty_iff.mpr (ahead_past_ahead c)⟩

/-- A natural number is read exactly where there are digits behind the blanks that denote no more
than 64 bits hold, and its value is what they denote. Digits that denote more are refused by their
text after they have been read, and the want of digits is a wrong symbol. So a text that is such a
number as a whole is blanks and digits and nothing else, and all numbers of 64 bits read back. -/
theorem nat_denotes_decimal (c : Cursor) :
    let digits := c.skipBlank.ahead.takeWhile Char.isDigit
    (∀ n c', nat.parse.Accepts c n c' ↔
      digits ≠ [] ∧ denoted digits ≤ 2 ^ 64 - 1 ∧ n = denoted digits
        ∧ c' = c.skipBlank.past digits) ∧
    (∀ e c', nat.parse.Rejects c e c' ↔
      (digits ≠ [] ∧ 2 ^ 64 - 1 < denoted digits
          ∧ e = .custom ("number too large: " ++ String.ofList digits)
          ∧ c' = c.skipBlank.past digits) ∨
        (digits = [] ∧ c' = c.skipBlank.past (c.skipBlank.ahead.take 1)
          ∧ e = c'.unexpectedSymbol "[0-9]")) ∧
    (∀ n c', (only nat).parse.Accepts c n c' ↔
      ∃ blanks digits, c.ahead = blanks ++ digits ∧ Blank blanks
        ∧ (c.isVerbatim = true → blanks = []) ∧ digits ≠ [] ∧ (∀ d ∈ digits, d.isDigit = true)
        ∧ denoted digits ≤ 2 ^ 64 - 1 ∧ n = denoted digits ∧ c' = c.past c.ahead) ∧
    ∀ n : UInt64, nat.parse.Accepts (.ofString (toString n.toNat)) n.toNat
      ((Cursor.ofString (toString n.toNat)).past (toString n.toNat).toList) := by
  intro digits
  refine ⟨fun n c' => accepts_nat_iff rfl, fun e c' => rejects_nat_iff rfl,
    fun n c' => accepts_only_nat_iff, fun n => ?_⟩
  have hbound : n.toNat ≤ maxNat := Nat.le_of_lt_succ n.toNat_lt
  have hrest : ([] : List Char).takeWhile Char.isDigit = [] := rfl
  exact accepts_nat_of_toString hbound hrest (List.append_nil _).symm

/-! ## Signs -/

/-- The sign that a text begins with, if it begins with one. -/
def signAhead : List Char → List Char
  | '+' :: _ => ['+']
  | '-' :: _ => ['-']
  | _ => []

lemma signAhead_begins (text : List Char) : signAhead text <+: text := by
  unfold signAhead
  split
  · exact ⟨_, rfl⟩
  · exact ⟨_, rfl⟩
  · exact List.nil_prefix

/-- The integer that a sign and the digits behind it denote. -/
def denotedBy (sign digits : List Char) : ℤ :=
  if sign = ['-'] then -denoted digits else denoted digits

/-- A sign as it is read. -/
def signRead (sign : List Char) : Option String :=
  if sign = [] then none else some (String.ofList sign)

lemma signed_signRead (sign digits : List Char) :
    signed (signRead sign) (decimal digits) = denotedBy sign digits := by
  unfold signed denotedBy signRead
  rw [decimal_eq_denoted]
  by_cases hnone : sign = []
  · rw [hnone]
    rfl
  · have hminus : some (String.ofList sign) = some "-" ↔ sign = ['-'] := by
      rw [Option.some.injEq, show "-" = String.ofList ['-'] from rfl, String.ofList_inj]
    simp only [if_neg hnone, hminus]

/-- The texts of one sign each. -/
def signs : List String := ["+", "-"]

lemma find?_signs (text : List Char) :
    signs.find? (fun sign => sign.toList.isPrefixOf text) = signRead (signAhead text) := by
  unfold signAhead
  split
  · rfl
  · rfl
  · next hplus hminus =>
    refine List.find?_eq_none.mpr (List.forall_mem_cons.mpr
      ⟨fun hprefix => ?_, List.forall_mem_singleton.mpr fun hprefix => ?_⟩)
    · obtain ⟨rest, rfl⟩ := List.isPrefixOf_iff_prefix.mp hprefix
      exact hplus rest rfl
    · obtain ⟨rest, rfl⟩ := List.isPrefixOf_iff_prefix.mp hprefix
      exact hminus rest rfl

/-- A sign is read if there is one. -/
lemma accepts_optional_sign (hverbatim : c.isVerbatim = true) :
    (optional Token.sign).parse.Accepts c (signRead (signAhead c.ahead))
      (c.past (signAhead c.ahead)) := by
  have horderly : Token.sign.parse.Orderly := Parse.compositional_orderly.sign.orderly
  have happroach : ∀ text ∈ signs, (literal text).approach c = c :=
    fun text _ => approach_of_isVerbatim _ hverbatim
  have hfind := find?_signs c.ahead
  unfold signRead at hfind ⊢
  split at hfind
  · next hnone =>
    rw [if_pos hnone, hnone, accepts_none_optional_iff horderly]
    exact ⟨rfl, (fails_pick_literals_iff happroach).mpr hfind⟩
  · next hsome =>
    rw [if_neg hsome, accepts_some_optional_iff horderly]
    exact (accepts_pick_literals_iff happroach).mpr ⟨hfind, by rw [String.toList_ofList]⟩

/-! ## Integers -/

/-- A sign, if there is one, and the digits behind it. -/
def signedDigits : Parser (Option String × List Char) :=
  few do
    let sign ← (optional Token.sign).parse
    let digits ← (sequence digit).parse
    pure (sign, digits)

/-- The bounds on an integer leave out every magnitude that is too large for its sign. -/
lemma le_maxMagnitude_of_bounds {sign : Option String} {magnitude : ℕ}
    (h : minInt ≤ signed sign magnitude ∧ signed sign magnitude ≤ maxInt) :
    magnitude ≤ maxMagnitude := by
  unfold signed minInt maxInt at h
  unfold maxMagnitude
  split at h <;> omega

/-- An integer is refused for its value alone. -/
lemma int_eq :
    int = map "int" (verbatim signedDigits) fun read =>
      if minInt ≤ signed read.1 (decimal read.2) ∧ signed read.1 (decimal read.2) ≤ maxInt then
        pure (signed read.1 (decimal read.2))
      else tooLarge read.2 := by
  unfold int
  congr 1
  funext ⟨sign, digits⟩
  dsimp only
  by_cases hbounds : minInt ≤ signed sign (decimal digits) ∧ signed sign (decimal digits) ≤ maxInt
  · rw [if_pos (le_maxMagnitude_of_bounds hbounds)]
  · simp only [if_neg hbounds, ite_self]

/-- Behind a sign all the digits are read, or one symbol is taken in their place. -/
lemma readsDigits_signedDigits (hverbatim : c.isVerbatim = true)
    (hsign : signAhead c.ahead = sign)
    (hdigits : (c.ahead.drop sign.length).takeWhile Char.isDigit = digits) :
    ReadsDigits signedDigits c (signRead sign, digits) digits (sign ++ digits)
      (c.ahead.take (sign.length + 1)) := by
  have hsignRead := accepts_optional_sign hverbatim
  rw [hsign] at hsignRead
  have hread : ReadsDigits (sequence digit) (c.past sign) digits digits digits
      ((c.ahead.drop sign.length).take 1) :=
    readsDigits_sequence hverbatim hdigits
  refine ⟨fun b c' => ?_, fun e c' => ?_⟩
  · show Parse.Accepts ((optional Token.sign).parse >>= _) c b c' ↔ _
    rw [hsignRead.bind_accepts_iff, Parse.accepts_bind_iff, ← Cursor.past_past]
    simp only [hread.accepts_iff, Parse.accepts_pure_iff]
    constructor
    · rintro ⟨_, c₁, ⟨rfl, hne, rfl⟩, rfl, rfl⟩
      exact ⟨rfl, hne, rfl⟩
    · rintro ⟨rfl, hne, rfl⟩
      exact ⟨digits, _, ⟨rfl, hne, rfl⟩, rfl, rfl⟩
  · -- the sign and the symbol behind it are what is ahead
    have htaken : c.past (c.ahead.take (sign.length + 1))
        = (c.past sign).past ((c.ahead.drop sign.length).take 1) := by
      have hprefix := List.prefix_iff_eq_take.mp (signAhead_begins c.ahead)
      rw [hsign] at hprefix
      rw [Cursor.past_past, List.take_add, ← hprefix]
    show Parse.Rejects ((optional Token.sign).parse >>= _) c e c' ↔ _
    rw [hsignRead.bind_rejects_iff, Parse.rejects_bind_iff, htaken, ← hread.rejects_iff]
    refine or_iff_left ?_
    rintro ⟨_, _, -, hpure⟩
    exact Parse.not_rejects_pure hpure

section Int

variable (hsign : signAhead c.skipBlank.ahead = sign)
  (hdigits : (c.skipBlank.ahead.drop sign.length).takeWhile Char.isDigit = digits)

include hsign hdigits

/-- An integer is a sign, if there is one behind the blanks, and all the digits behind that. -/
theorem accepts_int_iff :
    int.parse.Accepts c z c' ↔
      digits ≠ [] ∧ (minInt ≤ denotedBy sign digits ∧ denotedBy sign digits ≤ maxInt)
        ∧ z = denotedBy sign digits ∧ c' = c.skipBlank.past (sign ++ digits) := by
  have hread := readsDigits_signedDigits c.skipBlank.isVerbatim_enterVerbatim hsign hdigits
  rw [int_eq, hread.accepts_bounded_iff]
  simp only [signed_signRead]

/-- An integer is refused by its digits, without the sign, if it is out of bounds. It is missing if
there are no digits, and then one symbol has been taken in their place. -/
theorem rejects_int_iff :
    int.parse.Rejects c e c' ↔
      (digits ≠ [] ∧ ¬ (minInt ≤ denotedBy sign digits ∧ denotedBy sign digits ≤ maxInt)
          ∧ e = .custom ("number too large: " ++ String.ofList digits)
          ∧ c' = c.skipBlank.past (sign ++ digits)) ∨
        (digits = [] ∧ c' = c.skipBlank.past (c.skipBlank.ahead.take (sign.length + 1))
          ∧ e = c'.unexpectedSymbol "[0-9]") := by
  have hread := readsDigits_signedDigits c.skipBlank.isVerbatim_enterVerbatim hsign hdigits
  rw [int_eq, hread.rejects_bounded_iff]
  simp only [signed_signRead]
  rfl

end Int

/-- Where a digit stands there is no sign. -/
lemma signAhead_digits_append (hne : digits ≠ []) (hdigits : ∀ d ∈ digits, d.isDigit = true)
    (rest : List Char) : signAhead (digits ++ rest) = [] := by
  cases digits with
  | nil => exact absurd rfl hne
  | cons d digits =>
    have hd : d.isDigit = true := hdigits d List.mem_cons_self
    unfold signAhead
    split
    · next heq =>
      obtain rfl := (List.cons.inj heq).1
      cases hd
    · next heq =>
      obtain rfl := (List.cons.inj heq).1
      cases hd
    · rfl

/-- An integer is written down as a natural number, with a sign if it is negative. -/
lemma exists_toString_eq (z : ℤ) :
    ∃ (sign : List Char) (n : ℕ), (toString z).toList = sign ++ (toString n).toList
      ∧ (sign = ['-'] ∨ sign = []) ∧ denotedBy sign (toString n).toList = z := by
  cases z with
  | ofNat n => exact ⟨[], n, rfl, Or.inr rfl, congrArg Int.ofNat (denoted_toString n)⟩
  | negSucc n =>
    refine ⟨['-'], n + 1, ?_, Or.inl rfl, ?_⟩
    · show ("-" ++ toString (n + 1)).toList = _
      rw [String.toList_append]
      rfl
    · show -(denoted (toString (n + 1)).toList : ℤ) = _
      rw [denoted_toString]
      rfl

/-- An integer that is written down reads back, whatever comes behind its digits. -/
theorem accepts_int_of_toString (hbound : minInt ≤ z ∧ z ≤ maxInt) {rest : List Char}
    (hrest : rest.takeWhile Char.isDigit = []) (hahead : c.ahead = (toString z).toList ++ rest) :
    int.parse.Accepts c z (c.past (toString z).toList) := by
  obtain ⟨sign, n, hwritten, hsign, hvalue⟩ := exists_toString_eq z
  rw [hwritten, List.append_assoc] at hahead
  have hskip : c.skipBlank = c := by
    apply Cursor.skipBlank_of_not_startsBlank
    rw [hahead]
    rcases hsign with rfl | rfl
    · rfl
    · exact startsBlank_digits_append toString_ne_nil isDigit_of_mem_toString rest
  have hsignAhead : signAhead c.skipBlank.ahead = sign := by
    rw [hskip, hahead]
    rcases hsign with rfl | rfl
    · rfl
    · exact signAhead_digits_append toString_ne_nil isDigit_of_mem_toString rest
  have hdigits : (c.skipBlank.ahead.drop sign.length).takeWhile Char.isDigit
      = (toString n).toList := by
    rw [hskip, hahead, List.drop_left, takeWhile_isDigit_toString_append hrest]
  rw [accepts_int_iff hsignAhead hdigits, hvalue, hskip, hwritten]
  exact ⟨toString_ne_nil, hbound, rfl, rfl⟩

/-- An integer is read exactly where there are digits behind the blanks and the sign, if there is
one, that denote an integer of 64 bits, and its value is that integer. Digits that denote another
are refused by their text, which leaves the sign out, after they have been read, and the want of
digits is a wrong symbol. All integers of 64 bits read back. -/
theorem int_denotes_signed_decimal (c : Cursor) :
    let text := c.skipBlank.ahead
    let sign := signAhead text
    let digits := (text.drop sign.length).takeWhile Char.isDigit
    let value : ℤ := denotedBy sign digits
    (∀ z c', int.parse.Accepts c z c' ↔
      digits ≠ [] ∧ (-2 ^ 63 ≤ value ∧ value ≤ 2 ^ 63 - 1) ∧ z = value
        ∧ c' = c.skipBlank.past (sign ++ digits)) ∧
    (∀ e c', int.parse.Rejects c e c' ↔
      (digits ≠ [] ∧ ¬ (-2 ^ 63 ≤ value ∧ value ≤ 2 ^ 63 - 1)
          ∧ e = .custom ("number too large: " ++ String.ofList digits)
          ∧ c' = c.skipBlank.past (sign ++ digits)) ∨
        (digits = [] ∧ c' = c.skipBlank.past (text.take (sign.length + 1))
          ∧ e = c'.unexpectedSymbol "[0-9]")) ∧
    ∀ z : Int64, int.parse.Accepts (.ofString (toString z.toInt)) z.toInt
      ((Cursor.ofString (toString z.toInt)).past (toString z.toInt).toList) := by
  intro text sign digits value
  refine ⟨fun z c' => accepts_int_iff rfl rfl, fun e c' => rejects_int_iff rfl rfl, fun z => ?_⟩
  have hbound : minInt ≤ z.toInt ∧ z.toInt ≤ maxInt :=
    ⟨z.le_toInt, Int.le_of_lt_add_one z.toInt_lt⟩
  have hrest : ([] : List Char).takeWhile Char.isDigit = [] := rfl
  exact accepts_int_of_toString hbound hrest (List.append_nil _).symm

end Parlance.Token
