import Parlance.Proofs.Session
import Parlance.Proofs.Terminal

/-!
# Where a literal stops

A literal compares its text with the text ahead symbol by symbol. What the two begin with in common
(`commonPrefix`) is read in any case. If that is the whole literal, it matches; otherwise the symbol
that differs is read as well, and the complaint is made behind it. At the end of the text there is
none, and the complaint names the last symbol that was read, or what stands before the cursor.
-/

namespace Parlance

/-! ## Common prefixes -/

/-- The symbols that two texts begin with in common. -/
def commonPrefix : List Char → List Char → List Char
  | x :: s, y :: t => if x = y then x :: commonPrefix s t else []
  | _, _ => []

@[simp] lemma commonPrefix_nil (s : List Char) : commonPrefix s [] = [] := by
  cases s <;> rfl

lemma commonPrefix_cons_self (x : Char) (s t : List Char) :
    commonPrefix (x :: s) (x :: t) = x :: commonPrefix s t := if_pos rfl

lemma commonPrefix_cons_of_ne {x y : Char} (h : x ≠ y) (s t : List Char) :
    commonPrefix (x :: s) (y :: t) = [] := if_neg h

/-- A text that both begin with is as long as the common prefix or shorter. -/
theorem prefix_commonPrefix_iff {q s t : List Char} :
    q <+: commonPrefix s t ↔ q <+: s ∧ q <+: t := by
  induction s generalizing q t with
  | nil =>
    show q <+: [] ↔ _
    exact ⟨fun h => ⟨h, h.trans List.nil_prefix⟩, And.left⟩
  | cons x s ih =>
    cases t with
    | nil =>
      rw [commonPrefix_nil]
      exact ⟨fun h => ⟨h.trans List.nil_prefix, h⟩, And.right⟩
    | cons y t =>
      cases q with
      | nil => simp
      | cons z q =>
        by_cases hxy : x = y
        · subst hxy
          rw [commonPrefix_cons_self, List.cons_prefix_cons, ih, List.cons_prefix_cons,
            List.cons_prefix_cons]
          tauto
        · rw [commonPrefix_cons_of_ne hxy, List.cons_prefix_cons, List.cons_prefix_cons]
          refine iff_of_false (by simp) fun ⟨hx, hy⟩ => hxy (hx.1.symm.trans hy.1)

lemma commonPrefix_eq_left_iff {s t : List Char} : commonPrefix s t = s ↔ s <+: t := by
  constructor
  · intro h
    have hself : commonPrefix s t <+: commonPrefix s t := List.prefix_refl _
    rw [← h]
    exact (prefix_commonPrefix_iff.mp hself).2
  · intro h
    have hself : s <+: commonPrefix s t := prefix_commonPrefix_iff.mpr ⟨List.prefix_refl s, h⟩
    have hback : commonPrefix s t <+: s :=
      (prefix_commonPrefix_iff.mp (List.prefix_refl _)).1
    exact List.IsPrefix.eq_of_length_le hback hself.length_le

/-- The common prefix is as long as the first text just if that is a prefix of the second. -/
lemma length_commonPrefix_eq_iff {s t : List Char} :
    (commonPrefix s t).length = s.length ↔ s <+: t := by
  rw [← commonPrefix_eq_left_iff]
  have hback : commonPrefix s t <+: s := (prefix_commonPrefix_iff.mp (List.prefix_refl _)).1
  exact ⟨hback.eq_of_length, congrArg List.length⟩

namespace Parser

variable {c c' : Cursor} {e : ParseError}

lemma rejects_unexpected_iff {expected : String} :
    (Parse.fail (Cursor.unexpectedSymbol expected) : Parse Unit).Rejects c e c' ↔
      c' = c ∧ e = c'.unexpectedSymbol expected := by
  rw [Parse.rejects_fail_iff, and_comm]
  refine and_congr_right fun hc' => ?_
  rw [hc']

/-- Symbols are matched up to the first one that differs. That one is read as well, if there is
one. -/
lemma rejects_matchSymbols_iff {text : String} {symbols : List Char} :
    (matchSymbols text symbols).Rejects c e c' ↔
      ∃ wanted, symbols[(commonPrefix symbols c.ahead).length]? = some wanted ∧
        c' = c.past (c.ahead.take ((commonPrefix symbols c.ahead).length + 1)) ∧
        e = c'.unexpectedSymbol
          (String.singleton wanted ++ " (full string: " ++ text ++ ")") := by
  -- the induction is on the symbols still wanted, from the cursor that has read the others
  induction symbols generalizing c with
  | nil => simp [matchSymbols]
  | cons wanted symbols ih =>
    rw [matchSymbols, (Parse.accepts_advance c).bind_rejects_iff]
    cases hahead : c.ahead with
    | nil =>
      rw [Cursor.advance_of_nil hahead, if_neg (by simp), rejects_unexpected_iff]
      simp
    | cons found rest =>
      rw [Cursor.advance_of_cons hahead]
      by_cases hfound : found = wanted
      · subst hfound
        have hbehind : (c.past [found]).ahead = rest := Cursor.ahead_past_of_eq hahead
        rw [if_pos rfl, ih, hbehind, commonPrefix_cons_self, Cursor.past_past]
        simp
      · rw [if_neg (by simpa using hfound), rejects_unexpected_iff,
          commonPrefix_cons_of_ne (Ne.symm hfound)]
        simp

/-- A literal that does not match has read one symbol more than it has in common with the text
ahead. -/
theorem rejects_literal_iff {text : String} {start : Cursor}
    (hstart : (literal text).approach c = start) :
    (literal text).parse.Rejects c e c' ↔
      ∃ wanted, text.toList[(commonPrefix text.toList start.ahead).length]? = some wanted ∧
        c' = start.past (start.ahead.take ((commonPrefix text.toList start.ahead).length + 1)) ∧
        e = c'.unexpectedSymbol
          (String.singleton wanted ++ " (full string: " ++ text ++ ")") := by
  show Parse.Rejects (matchSymbols text text.toList >>= _) ((literal text).approach c) e c' ↔ _
  rw [hstart, Parse.rejects_bind_iff, rejects_matchSymbols_iff]
  exact or_iff_left fun ⟨_, _, _, h⟩ => Parse.not_rejects_pure h

/-! ## Where the complaint is made -/

/-- A literal looks for its text behind the blanks, unless it is empty or begins with a blank itself
or stands inside a verbatim token. -/
lemma approach_literal_eq (text : String) (c : Cursor) :
    (literal text).approach c =
      if text ≠ "" ∧ startsBlank text.toList = false ∧ c.isVerbatim = false then c.skipBlank
      else c := by
  have hsolid : startsSolid text.toList = true ↔ text ≠ "" ∧ startsBlank text.toList = false := by
    rw [show text ≠ "" ↔ text.toList ≠ [] by simp]
    cases text.toList <;> simp [startsSolid, startsBlank]
  have hskips : (literal text).skipsBlank = startsSolid text.toList := rfl
  unfold approach
  rw [hskips]
  cases hverbatim : c.isVerbatim with
  | true => simp [Cursor.skipBlank_of_isVerbatim hverbatim]
  | false => simp [hsolid]

/-- A literal matches just if it has all of its text in common with what is ahead, and is then read.
Otherwise its first symbol that differs is complained about. If there is a symbol in its place, that
one has been read, and is the one that is named; if not, the cursor is at the end of the text, and
the last symbol of the whole text is named. -/
theorem literal_reports_mismatch (text : String) {input : String} {operations : List Operation}
    {c : Cursor} (hrun : Run (.ofString input) operations c) :
    let start :=
      if text ≠ "" ∧ startsBlank text.toList = false ∧ c.isVerbatim = false then c.skipBlank else c
    let t := start.ahead
    let p := (commonPrefix text.toList t).length
    (∀ value c', (literal text).parse.Accepts c value c' ↔
      p = text.toList.length ∧ value = text ∧ c' = start.past text.toList) ∧
    (p ≠ text.toList.length → ∃ wanted symbol c',
      text.toList[p]? = some wanted ∧
      (literal text).parse.Rejects c (.unexpectedSymbol c'.offset symbol
        (String.singleton wanted ++ " (full string: " ++ text ++ ")")) c' ∧
      c' = start.past (t.take (p + 1)) ∧
      (∀ found, t[p]? = some found → symbol = String.singleton found) ∧
      (t.length = p → c'.isAtEnd = true ∧ c'.offset = byteLength input.toList ∧
        symbol = lastSymbol input.toList)) := by
  intro start t p
  have hstart : (literal text).approach c = start := approach_literal_eq text c
  refine ⟨fun value c' => ?_, fun hne => ?_⟩
  · rw [accepts_literal_iff, hstart, length_commonPrefix_eq_iff]
    tauto
  · have hp : p < text.toList.length := by
      have hprefix : commonPrefix text.toList t <+: text.toList :=
        (prefix_commonPrefix_iff.mp (List.prefix_refl _)).1
      have hle : p ≤ text.toList.length := hprefix.length_le
      omega
    have hwanted : text.toList[p]? = some text.toList[p] := List.getElem?_eq_getElem hp
    let c' := start.past (t.take (p + 1))
    refine ⟨text.toList[p], (c'.lookbehind 1).elim "<unknown>" String.singleton, c', hwanted, ?_,
      rfl, fun found hfound => ?_, fun hend => ?_⟩
    · exact (rejects_literal_iff hstart).mpr ⟨text.toList[p], hwanted, rfl, rfl⟩
    · -- what is read ends with the symbol that was found
      have hlast : (t.take (p + 1)).getLast? = some found := by
        rw [List.getLast?_take, if_neg (Nat.succ_ne_zero p), Nat.add_sub_cancel, hfound]
        rfl
      have hread : t.take (p + 1) ≠ [] := by
        intro hnil
        rw [hnil] at hlast
        cases hlast
      rw [Cursor.lookbehind_one_past start hread, hlast]
      rfl
    · have hall : t.take (p + 1) = t := List.take_of_length_le (by omega)
      have hc' : c' = start.past t := congrArg start.past hall
      have hahead : c'.ahead = [] := by
        rw [hc']
        exact ahead_past_ahead start
      obtain ⟨blanks, -, hblanks, happroach⟩ := (literal text).exists_blank_approach_eq c
      rw [hstart] at happroach
      have hsound := (hrun.sound (Cursor.sound_ofSymbols input.toList)).past hblanks
      rw [← happroach] at hsound
      obtain ⟨front, back, hinput, hplace⟩ := (hsound.past (List.prefix_refl t)).place
      rw [← hc'] at hplace
      obtain rfl : back = [] := by
        rw [← hahead, Cursor.ahead, hplace]
        rfl
      rw [List.append_nil] at hinput
      have herror := Cursor.unexpectedSymbol_of_place_eq hplace ""
      rw [Cursor.unexpectedSymbol] at herror
      simp only [ParseError.unexpectedSymbol.injEq, and_true] at herror
      rw [hinput]
      exact ⟨List.isEmpty_iff.mpr hahead, herror⟩

/-- The text ends within the literal: three symbols of it match, and the blank is none of them. -/
theorem literal_reports_mismatch_at_end :
    let c := (Cursor.ofString "é hél").past ['é']
    Run (.ofString "é hél") [.advance] c ∧
      ∃ c', (literal "hélé").parse.Rejects c
          (.unexpectedSymbol 7 "l" "é (full string: hélé)") c' ∧
        c'.isAtEnd = true := by
  intro c
  have hrun : Run (.ofString "é hél") [.advance] c := .cons [] rfl (.nil c)
  obtain ⟨-, hmismatch⟩ := literal_reports_mismatch "hélé" hrun
  obtain ⟨wanted, symbol, c', hwanted, hrejects, -, -, hend⟩ := hmismatch (by decide +kernel)
  obtain ⟨hatEnd, hoffset, rfl⟩ := hend (by decide +kernel)
  have hfull : "hélé".toList[3]? = some 'é' := rfl
  obtain rfl : wanted = 'é' := by
    rw [← Option.some.injEq, ← hwanted, ← hfull]
    exact congrArg _ (by decide +kernel)
  rw [hoffset] at hrejects
  exact ⟨hrun, c', hrejects, hatEnd⟩

end Parser

end Parlance
