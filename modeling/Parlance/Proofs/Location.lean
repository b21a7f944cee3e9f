import Parlance.Proofs.InStep
import Parlance.Proofs.Session

/-!
# Where errors are located

An error that names an offset was made at a place in the text, behind what the parse had read up to
then, and says of that place what is true (`Grammar.locates_errors`). The cursor may have been taken
back from there, but only `only` takes it back and passes the error on.

A grammar runs in step with itself from one and the same cursor, which says behind which text ahead
its complaint was made (`Grammar.exists_complaint`).
-/

namespace Parlance

/-! ## Complaints at a place -/

/-- From one cursor, two runs are the same run. -/
lemma nearness_eq : Nearness Eq where
  ahead_eq h := congrArg Cursor.ahead h
  isVerbatim_eq h := congrArg Cursor.isVerbatim h
  past h t := congrArg (·.past t) h
  commit h := congrArg Cursor.commit h
  enterVerbatim h := congrArg Cursor.enterVerbatim h

/-- The error of a grammar is made behind a part of the text ahead. The cursor is left there, or
further in front if some `only` may have taken it back. -/
lemma Grammar.exists_complaint {rules : Rules} {g : Grammar} {c c' : Cursor} {e : ParseError}
    (h : (g.parser rules).parse.Rejects c e c') :
    ∃ (k : Complaint) (s t : List Char), e = k.errorAt (c.past t) ∧ c' = c.past s ∧
      s <+: t ∧ t <+: c.ahead ∧
      ((∀ node, g.Contains rules node → node.isOnly = false) → s = t) := by
  obtain ⟨n, hn⟩ := h
  have hstep : Parse.InStep Eq (∀ node, g.Contains rules node → node.isOnly = false) Value
      (g.parser rules).parse (g.parser rules).parse :=
    Grammar.inStep nearness_eq rules g id fun _ _ _ => fun hnear => congrArg Cursor.place hnear
  cases hstep c c rfl _ _ hn hn with
  | @rejected k s t _ _ hst ht hstrict => exact ⟨k, s, t, rfl, rfl, hst, ht, hstrict⟩

/-- An error that names an offset names that of the cursor. -/
lemma Complaint.offset_eq_of_offset? (k : Complaint) {c : Cursor} {offset : ℕ}
    (h : (k.errorAt c).offset? = some offset) : c.offset = offset := by
  cases k with
  | leftOver => exact Option.some.inj h
  | ended expected => exact Option.some.inj h
  | unexpected expected => exact Option.some.inj h
  | refused message => cases h

/-! ## Errors of grammars -/

/-- An error of a grammar that names an offset names a place in the text, where it is cut in two:
not before the cursor from which the grammar was run, nor before the one that is left. The remaining
text of an error is what stands behind that place, and its symbol is the one in front of it. -/
theorem Grammar.locates_errors (rules : Rules) (g : Grammar) {text : String}
    {operations : List Operation} {c c' : Cursor} {e : ParseError} {offset : ℕ}
    (hrun : Run (.ofString text) operations c) (h : (g.parser rules).parse.Rejects c e c')
    (hoffset : e.offset? = some offset) :
    ∃ front back, text.toList = front ++ back ∧ byteLength front = offset ∧
      c.offset ≤ offset ∧ offset ≤ byteLength text.toList ∧
      c'.offset ≤ offset ∧
      ((∀ node, g.Contains rules node → node.isOnly = false) → c'.offset = offset) ∧
      (∀ i remaining, e = .expectedEnd i remaining → remaining = String.ofList back) ∧
      ∀ i symbol expected, e = .unexpectedSymbol i symbol expected →
        symbol = lastSymbol front ∧ (symbol = "<unknown>" ↔ offset = 0) := by
  obtain ⟨k, s, t, rfl, rfl, hst, ht, hstrict⟩ := Grammar.exists_complaint h
  obtain ⟨front, back, htext, hplace⟩ :=
    ((hrun.sound (Cursor.sound_ofSymbols text.toList)).past ht).place
  have hat : (c.past t).offset = offset := k.offset_eq_of_offset? hoffset
  have hfront : byteLength front = offset := by rw [← hat, Cursor.offset_of_place_eq hplace]
  have hbefore : (c.past s).offset ≤ (c.past t).offset := by
    obtain ⟨rest, rfl⟩ := hst
    rw [Cursor.offset_past, Cursor.offset_past, byteLength_append]
    omega
  refine ⟨front, back, htext, hfront, ?_, ?_, hat ▸ hbefore, ?_, ?_, ?_⟩
  · rw [← hat, Cursor.offset_past]
    exact Nat.le_add_right _ _
  · rw [htext, byteLength_append, hfront]
    exact Nat.le_add_right _ _
  · intro honly
    rw [hstrict honly, hat]
  · intro i remaining he
    cases k with
    | leftOver =>
      cases he
      exact Cursor.tail_of_place_eq hplace
    | _ => cases he
  · intro i symbol expected he
    cases k with
    | unexpected expected' =>
      rw [Complaint.errorAt, Cursor.unexpectedSymbol_of_place_eq hplace] at he
      cases he
      rw [lastSymbol_eq_unknown_iff, ← hfront, byteLength_eq_zero_iff]
      exact ⟨rfl, Iff.rfl⟩
    | _ => cases he

/-- A failure that was taken back to the end of the first row, with its error in the second. -/
theorem Grammar.locates_errors_only :
    let g := Grammar.only (.few [.literal "a", .literal "c"])
    let c := (Cursor.ofString "é\nab").past ['é']
    let e := ParseError.unexpectedSymbol 5 "b" "c (full string: c)"
    Run (.ofString "é\nab") [.advance] c ∧ (g.parser []).parse.Rejects c e c ∧
      e.offset? = some 5 ∧
      ∃ front back, "é\nab".toList = front ++ back ∧ byteLength front = 5 ∧ c.offset ≤ 5 ∧
        "b" = lastSymbol front := by
  intro g c e
  have hrun : Run (.ofString "é\nab") [.advance] c := .cons [] rfl (.nil c)
  have hrejects : (g.parser []).parse.Rejects c e c := ⟨0, by decide +kernel⟩
  obtain ⟨front, back, htext, hfront, hbefore, -, -, -, -, hsymbol⟩ :=
    Grammar.locates_errors [] g hrun hrejects rfl
  exact ⟨hrun, hrejects, rfl, front, back, htext, hfront, hbefore, (hsymbol 5 "b" _ rfl).1⟩

end Parlance
