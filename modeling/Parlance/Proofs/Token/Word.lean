import Parlance.Proofs.Frame
import Parlance.Proofs.Token.Decimal
import Parlance.Proofs.Token.Verbatim
import Parlance.Token.Word

/-!
# What words read

A word is the longest run of solid symbols behind the blanks (`accepts_word_iff`), and it is missing
only where there is no solid symbol (`fails_word_iff`). An identifier is the same for the symbols
that a nested choice takes one by one (`takesOne_identifierSymbol`). `words_are_longest_runs` says
of both what they read, and where the cursor is left when they fail.
-/

namespace Parlance.Token

open Parlance.Parser

variable {c c' : Cursor} {value : String}

/-- A solid symbol that is missing is complained about behind the symbol in its place. -/
lemma rejects_solid_iff (hverbatim : c.isVerbatim = true) {e : ParseError} :
    solid.parse.Rejects c e c' ↔
      (c.ahead.takeWhile fun x => !isBlank x) = [] ∧ c' = c.past (c.ahead.take 1)
        ∧ e = c'.unexpectedSymbol "non-whitespace symbol" := by
  have hfail : ∀ d : Cursor,
      (Parse.fail (Cursor.unexpectedSymbol "non-whitespace symbol") : Parse Char).Rejects d e c' ↔
        c' = d ∧ e = c'.unexpectedSymbol "non-whitespace symbol" := by
    intro d
    rw [Parse.rejects_fail_iff, and_comm]
    exact and_congr_right fun hc' => by rw [hc']
  show Parse.Rejects (Parse.advance >>= _) (solid.approach c) e c' ↔ _
  rw [approach_of_isVerbatim _ hverbatim, (Parse.accepts_advance c).bind_rejects_iff]
  cases hahead : c.ahead with
  | nil =>
    rw [Cursor.advance_of_nil hahead]
    exact (hfail c).trans (and_iff_right rfl).symm
  | cons x rest =>
    rw [Cursor.advance_of_cons hahead]
    dsimp only
    split
    · next hx =>
      have hnone : (x :: rest).takeWhile (fun x => !isBlank x) = [] :=
        List.takeWhile_cons_of_neg (by simpa using hx)
      exact (hfail _).trans (and_iff_right hnone).symm
    · next hx =>
      rw [List.takeWhile_cons_of_pos (by simpa using hx)]
      exact iff_of_false Parse.not_rejects_pure fun ⟨hnone, _⟩ => List.cons_ne_nil _ _ hnone

lemma takesOne_solid : solid.TakesOne fun x => !isBlank x where
  orderly := Parse.compositional_orderly.solid.orderly
  accepts {c x rest} hverbatim hahead hx := by
    have hadvance := Parse.accepts_advance c
    rw [Cursor.advance_of_cons hahead] at hadvance
    show Parse.Accepts (Parse.advance >>= _) (solid.approach c) x _
    rw [approach_of_isVerbatim _ hverbatim]
    apply hadvance.bind
    dsimp only
    rw [if_neg (by simpa using hx)]
    exact Parse.accepts_pure_iff.mpr ⟨rfl, rfl⟩
  fails hverbatim hnone := ⟨_, _, (rejects_solid_iff hverbatim).mpr ⟨hnone, rfl, rfl⟩⟩

lemma takeWhile_solid_eq_nil_iff {text : List Char} :
    text.takeWhile (fun x => !isBlank x) = [] ↔ startsSolid text = false := by
  cases text with
  | nil => exact iff_of_true rfl rfl
  | cons x text => cases hx : isBlank x <;> simp [startsSolid, hx]

/-- A word is all the solid symbols behind the blanks, and there is one at least. -/
theorem accepts_word_iff :
    word.parse.Accepts c value c' ↔
      let symbols := c.skipBlank.ahead.takeWhile fun x => !isBlank x
      startsSolid c.skipBlank.ahead = true ∧ value = String.ofList symbols
        ∧ c' = c.skipBlank.past symbols := by
  rw [word, takesOne_solid.accepts_run_iff, Ne, takeWhile_solid_eq_nil_iff, Bool.not_eq_false]
  refine and_congr_right fun _ => ?_
  constructor
  · rintro ⟨hvalue, hc'⟩
    rw [← hvalue, String.ofList_toList]
    exact ⟨rfl, hc'⟩
  · rintro ⟨rfl, hc'⟩
    rw [String.toList_ofList]
    exact ⟨rfl, hc'⟩

lemma fails_word_iff : word.parse.Fails c ↔ startsSolid c.skipBlank.ahead = false := by
  rw [word, takesOne_solid.fails_run_iff, takeWhile_solid_eq_nil_iff]

/-! ## Identifiers -/

/-- Letters and digits of the basic Latin alphabet, `-` and `_`. -/
def isIdentifierSymbol (x : Char) : Bool := x.isAlphanum || x = '-' || x = '_'

lemma takesOne_alpha : alpha.TakesOne Char.isAlpha := by
  have hcases :=
    takesOne_pick (.cons (takesOne_range 'a' 'z') (.cons (takesOne_range 'A' 'Z') .nil))
  refine hcases.congr fun x => ?_
  show (decide ('A' ≤ x ∧ x ≤ 'Z') || (decide ('a' ≤ x) && decide (x ≤ 'z'))) = _
  simp [Bool.or_comm]

lemma takesOne_alphanumeric : alphanumeric.TakesOne Char.isAlphanum := by
  have hcases := takesOne_pick (.cons takesOne_alpha (.cons takesOne_digit .nil))
  refine hcases.congr fun x => ?_
  simp [Char.isAlphanum]

/-- The branches of a symbol of an identifier, each with the kind that it takes. -/
lemma takesOne_identifierBranches :
    List.Forall₂ TakesOne [alphanumeric, symbol '-', symbol '_']
      [Char.isAlphanum, fun x => x = '-', fun x => x = '_'] :=
  .cons takesOne_alphanumeric (.cons (takesOne_symbol '-') (.cons (takesOne_symbol '_') .nil))

lemma takesOne_identifierSymbol : identifierSymbol.TakesOne isIdentifierSymbol := by
  refine (takesOne_pick takesOne_identifierBranches).congr fun x => ?_
  simp [isIdentifierSymbol, Bool.or_assoc]

/-- The choice takes back what its branches have read when it fails. -/
lemma rejects_identifierSymbol_iff (hverbatim : c.isVerbatim = true) {e : ParseError} :
    identifierSymbol.parse.Rejects c e c' ↔
      c.ahead.takeWhile isIdentifierSymbol = [] ∧ c' = c
        ∧ e = c'.unexpectedEnd identifierSymbol.tag := by
  have horderly := orderly_of_takesOne takesOne_identifierBranches
  rw [← takesOne_identifierSymbol.fails_iff hverbatim]
  unfold identifierSymbol
  rw [rejects_pick_iff horderly, fails_pick_iff horderly]
  constructor
  · rintro ⟨rfl, rfl, hfails⟩
    exact ⟨hfails, rfl, rfl⟩
  · rintro ⟨hfails, rfl, rfl⟩
    exact ⟨rfl, rfl, hfails⟩

/-- A word is the longest run of solid symbols behind the blanks, and an identifier the longest run
of letters and digits of the basic Latin alphabet, `-` and `_`. They succeed just where the text
behind the blanks begins with such a symbol. Where they fail, the symbol in its place, if there is
one, has been taken for a word and is left for an identifier. -/
theorem words_are_longest_runs (c : Cursor) :
    let text := c.skipBlank.ahead
    ((∃ value c', word.parse.Accepts c value c') ↔ ∃ x ∈ text.head?, isBlank x = false) ∧
    (∀ value c', word.parse.Accepts c value c' →
      LongestRun (fun x => !isBlank x) text value.toList ∧ c' = c.skipBlank.past value.toList) ∧
    (∀ e c', word.parse.Rejects c e c' ↔
      (∀ x ∈ text.head?, isBlank x = true) ∧ c' = c.skipBlank.past (text.take 1)
        ∧ e = c'.unexpectedSymbol "non-whitespace symbol") ∧
    ((∃ value c', identifier.parse.Accepts c value c') ↔
      ∃ x ∈ text.head?, isIdentifierSymbol x = true) ∧
    (∀ value c', identifier.parse.Accepts c value c' →
      LongestRun isIdentifierSymbol text value.toList ∧ c' = c.skipBlank.past value.toList) ∧
    ∀ e c', identifier.parse.Rejects c e c' ↔
      (∀ x ∈ text.head?, isIdentifierSymbol x = false) ∧ c' = c.skipBlank
        ∧ e = c'.unexpectedEnd identifierSymbol.tag := by
  intro text
  have hverbatim : c.skipBlank.enterVerbatim.isVerbatim = true :=
    c.skipBlank.isVerbatim_enterVerbatim
  refine ⟨?_, fun value c' => takesOne_solid.longestRun_of_accepts, fun e c' => ?_,
    takesOne_identifierSymbol.exists_accepts_run_iff,
    fun value c' => takesOne_identifierSymbol.longestRun_of_accepts, fun e c' => ?_⟩
  · rw [word, takesOne_solid.exists_accepts_run_iff]
    simp only [Bool.not_eq_true', text]
  · rw [word, rejects_sequence_token_iff (fun _ => rfl) fun _ _ => rejects_solid_iff hverbatim,
      takeWhile_eq_nil_iff_head?]
    simp only [Bool.not_eq_false']
    rfl
  · -- nothing is taken by a choice that fails
    have hfirst : ∀ e c₁, identifierSymbol.parse.Rejects c.skipBlank.enterVerbatim e c₁ ↔
        c.skipBlank.ahead.takeWhile isIdentifierSymbol = []
          ∧ c₁ = c.skipBlank.enterVerbatim.past [] ∧ e = c₁.unexpectedEnd identifierSymbol.tag :=
      fun _ _ => rejects_identifierSymbol_iff hverbatim
    rw [identifier, rejects_sequence_token_iff (fun _ => rfl) hfirst, takeWhile_eq_nil_iff_head?,
      Cursor.past_nil]

end Parlance.Token
