import Parlance.Proofs.Command.Account
import Parlance.Proofs.Place

/-!
# Why a message is rejected

A message is rejected at one of three stages, and the error tells which: there is no opening, or no
name of the command behind it, or an argument that has to be given is missing. What goes wrong
inside an argument never shows.

The last stage rests on the remainder, which never fails. So every schedule of the entries has it
among its choices, reads the text to its end, and can only leave out an argument that fails, which
is one that has to be given.
-/

namespace Parlance.Command

open Parlance.Parser

/-- What may open a message. -/
def openers (mention : String) : List (Parser String) :=
  [literal "/", literal "$", mentionOpener mention]

namespace Signature

variable {s : Signature} {chosen : Finset ℕ} {c c' : Cursor} {choices : List (ℕ × Value)}

/-! ## Where the entries end -/

/-- The remainder is chosen, because it never fails. -/
lemma remainder_mem_places (h : Schedule s.entries chosen c choices c')
    (hnot : s.arguments.length ∉ chosen) : s.arguments.length ∈ choices.map Prod.fst := by
  by_contra hnever
  have hlt : s.arguments.length < s.entries.length := by
    rw [length_entries]
    exact Nat.lt_succ_self _
  have hfails := h.fails_of_not_mem hlt hnot hnever
  rw [parseBranch_remainder] at hfails
  exact (accepts_remainder c').not_fails hfails

/-- The text is read to its end, because the remainder reads all of it that is left. -/
lemma eq_past_ahead_of_schedule (hkinds : ∀ a ∈ s.arguments, a.kind.attempt.Orderly)
    (h : Schedule s.entries chosen c choices c') (hnot : s.arguments.length ∉ chosen) :
    c' = c.past c.ahead := by
  have horderly := orderly_entries hkinds
  induction h with
  | stop hstop => exact absurd (remainder_mem_places (.stop hstop) hnot) List.not_mem_nil
  | @choose chosen c c₁ c' i v choices hi _ haccepts hrest ih =>
    by_cases hremainder : s.arguments.length = i
    · -- nothing is left for later choices
      subst hremainder
      rw [parseBranch_remainder] at haccepts
      obtain ⟨-, rfl⟩ := haccepts.unique (accepts_remainder c)
      obtain ⟨t, ht, rfl⟩ := hrest.exists_past horderly
      rw [ahead_past_ahead, List.prefix_nil] at ht
      rw [ht, Cursor.past_nil]
    · obtain ⟨t, ⟨rest, hahead⟩, rfl⟩ := exists_past_of_accepts_parseBranch horderly haccepts
      have hnot' : s.arguments.length ∉ insert i chosen := by
        rw [Finset.mem_insert, not_or]
        exact ⟨hremainder, hnot⟩
      rw [ih hnot', Cursor.past_past, Cursor.ahead_past_of_eq hahead.symm, hahead]

/-- If the entries fail, an argument that has to be given is not among the choices. -/
lemma exists_required_of_rejects_entries (hkinds : ∀ a ∈ s.arguments, a.kind.attempt.Orderly)
    {e : ParseError} (h : (unordered s.entries).parse.Rejects c e c') :
    e = c'.unexpectedSymbol "one of the remaining patterns" ∧ c' = c.past c.ahead ∧
      ∃ choices i a, Schedule s.entries ∅ c choices c' ∧ s.arguments[i]? = some a ∧
        a.required = true ∧ i ∉ choices.map Prod.fst := by
  obtain ⟨choices, hschedule, hlt, rfl⟩ :=
    (rejects_unordered_iff (orderly_entries hkinds)).mp h
  have hnot : s.arguments.length ∉ (∅ : Finset ℕ) := Finset.notMem_empty _
  refine ⟨rfl, eq_past_ahead_of_schedule hkinds hschedule hnot, ?_⟩
  -- some entry is left out, and it is not the remainder
  have hmissing : ¬ ∀ i < s.entries.length, i ∈ choices.map Prod.fst :=
    fun hall => Nat.ne_of_lt hlt (hschedule.length_eq_iff.mpr hall)
  simp only [not_forall] at hmissing
  obtain ⟨i, hi, hnever⟩ := hmissing
  have hne : i ≠ s.arguments.length := by
    rintro rfl
    exact hnever (remainder_mem_places hschedule hnot)
  rw [length_entries] at hi
  have hargument : s.arguments[i]? = some s.arguments[i] := List.getElem?_eq_getElem (by omega)
  have hfails := hschedule.fails_of_not_mem (by rw [length_entries]; exact hi)
    (Finset.notMem_empty i) hnever
  rw [parseBranch_of_argument hargument] at hfails
  exact ⟨choices, i, s.arguments[i], hschedule, hargument,
    (Argument.fails_parser_iff.mp hfails).1, hnever⟩

/-! ## Stages -/

/-- How far a message is understood before it is rejected. -/
inductive Stage where
  | opening
  | label
  | arguments
deriving DecidableEq, Repr

/-- `s.RejectsAt message stage e c`: at that stage `s` rejects `message` with the error `e`, and
leaves the cursor `c`. -/
inductive RejectsAt (s : Signature) (message : String) : Stage → ParseError → Cursor → Prop
  /-- Nothing that may open a message is there, and nothing has been read. -/
  | opening :
    (∀ p ∈ openers s.mention, p.parse.Fails (.ofString message)) →
    RejectsAt s message .opening (.unexpectedEnd 0 (pickTag (openers s.mention)))
      (.ofString message)
  /-- No name of the command stands directly behind the opening. -/
  | label {opening : String} {blanks rest : List Char} :
    message.toList = blanks ++ opening.toList ++ rest → Blank blanks →
    (opener s.mention).parse.Accepts (.ofString message) opening
      ((Cursor.ofString message).past (blanks ++ opening.toList)) →
    (∀ p ∈ s.aliases.map literal,
      p.parse.Fails ((Cursor.ofString message).past (blanks ++ opening.toList))) →
    RejectsAt s message .label
      (.unexpectedEnd (byteLength (blanks ++ opening.toList)) (pickTag (s.aliases.map literal)))
      ((Cursor.ofString message).past (blanks ++ opening.toList))
  /-- Behind the name the message is read to its end without an argument that has to be given. -/
  | arguments {opening label : String} {c₁ c₂ : Cursor} {choices : List (ℕ × Value)} {i : ℕ}
    {a : Argument} :
    (opener s.mention).parse.Accepts (.ofString message) opening c₁ →
    (pick (s.aliases.map literal)).parse.Accepts c₁ label c₂ →
    Schedule s.entries ∅ c₂ choices ((Cursor.ofString message).past message.toList) →
    s.arguments[i]? = some a → a.required = true → i ∉ choices.map Prod.fst →
    RejectsAt s message .arguments
      (.unexpectedSymbol (byteLength message.toList) (lastSymbol message.toList)
        "one of the remaining patterns")
      ((Cursor.ofString message).past message.toList)

namespace RejectsAt

variable {message : String} {stage stage' : Stage} {e e' : ParseError}

/-- A message is rejected at one stage only. -/
lemma stage_eq (h : s.RejectsAt message stage e c) (h' : s.RejectsAt message stage' e' c') :
    stage = stage' := by
  have hopeners : ∀ {opening d}, (∀ p ∈ openers s.mention, p.parse.Fails (.ofString message)) →
      ¬ (opener s.mention).parse.Accepts (.ofString message) opening d :=
    fun hfails haccepts =>
      haccepts.not_fails ((fails_pick_iff (orderly_openers s.mention)).mpr hfails)
  have hlabels : ∀ {d label d'}, (∀ p ∈ s.aliases.map literal, p.parse.Fails d) →
      ¬ (pick (s.aliases.map literal)).parse.Accepts d label d' :=
    fun hfails haccepts =>
      haccepts.not_fails ((fails_pick_iff (orderly_literals s.aliases)).mpr hfails)
  cases h with
  | opening hfails =>
    cases h' with
    | opening => rfl
    | label _ _ haccepts => exact absurd haccepts (hopeners hfails)
    | arguments haccepts => exact absurd haccepts (hopeners hfails)
  | label _ _ haccepts hfails =>
    cases h' with
    | opening hfails' => exact absurd haccepts (hopeners hfails')
    | label => rfl
    | arguments haccepts' hlabel =>
      obtain ⟨-, rfl⟩ := haccepts.unique haccepts'
      exact absurd hlabel (hlabels hfails)
  | arguments haccepts hlabel =>
    cases h' with
    | opening hfails' => exact absurd haccepts (hopeners hfails')
    | label _ _ haccepts' hfails =>
      obtain ⟨-, rfl⟩ := haccepts.unique haccepts'
      exact absurd hlabel (hlabels hfails)
    | arguments => rfl

/-- Errors of other kinds do not come out of a command. -/
lemma kind_of_error (h : s.RejectsAt message stage e c) :
    (∀ i remaining, e ≠ .expectedEnd i remaining) ∧ ∀ text, e ≠ .custom text := by
  cases h with
  | opening | label | arguments => exact ⟨nofun, nofun⟩

lemma exists_required (h : s.RejectsAt message .arguments e c) :
    ∃ a ∈ s.arguments, a.required = true := by
  cases h with
  | arguments _ _ _ hargument hrequired =>
    exact ⟨_, List.mem_of_getElem? hargument, hrequired⟩

end RejectsAt

/-! ## Rejected messages -/

variable {message : String} {e : ParseError}

lemma rejectsAt_opening
    (h : (opener s.mention).parse.Rejects (.ofString message) e c) :
    s.RejectsAt message .opening e c := by
  obtain ⟨rfl, rfl, hfails⟩ := (rejects_pick_iff (orderly_openers s.mention)).mp h
  exact .opening hfails

lemma rejectsAt_label {opening : String} {c₁ : Cursor}
    (hopening : (opener s.mention).parse.Accepts (.ofString message) opening c₁)
    (h : (pick (s.aliases.map literal)).parse.Rejects c₁ e c) : s.RejectsAt message .label e c := by
  obtain ⟨rfl, rfl, hfails⟩ := (rejects_pick_iff (orderly_literals s.aliases)).mp h
  obtain ⟨-, blanks, hblanks, ⟨rest, hrest⟩, rfl⟩ := exists_blank_of_accepts_opener hopening
  have hmessage : message.toList = blanks ++ opening.toList ++ rest := hrest.symm
  rw [Cursor.unexpectedEnd, Cursor.offset_of_place_eq (Cursor.place_past_ofString hmessage)]
  exact .label hmessage hblanks hopening hfails

lemma rejectsAt_arguments (hkinds : ∀ a ∈ s.arguments, a.kind.attempt.Orderly)
    {opening label : String} {c₁ c₂ : Cursor}
    (hopening : (opener s.mention).parse.Accepts (.ofString message) opening c₁)
    (hlabel : (pick (s.aliases.map literal)).parse.Accepts c₁ label c₂)
    (h : (unordered s.entries).parse.Rejects c₂ e c) : s.RejectsAt message .arguments e c := by
  obtain ⟨rfl, hend, choices, i, a, hschedule, hargument, hrequired, hnever⟩ :=
    exists_required_of_rejects_entries hkinds h
  obtain ⟨-, -, w₀, w₁, -, -, hc₂, hahead⟩ := exists_blanks_of_accepts_beginning hopening hlabel
  -- the beginning and what is read behind it are the whole message
  have hc : c = (Cursor.ofString message).past message.toList := by
    have hmessage : message.toList = w₀ ++ opening.toList ++ w₁ ++ label.toList ++ c₂.ahead :=
      hahead
    rw [hend, hmessage, ← Cursor.past_past, ← hc₂]
  have hplace := Cursor.place_past_ofString (List.append_nil message.toList).symm
  subst hc
  rw [Cursor.unexpectedSymbol_of_place_eq hplace]
  exact .arguments hopening hlabel hschedule hargument hrequired hnever

/-- A message that is rejected is rejected at exactly one stage, with the error and the cursor of
that stage, whatever the arguments are and whatever errors their values raise. A command without
required arguments rejects nothing because of its arguments. -/
theorem rejects_at_one_stage (s : Signature)
    (hkinds : ∀ a ∈ s.arguments, ∃ (rules : Rules) (g : Grammar), a.kind = g.parser rules)
    {message : String} {e : ParseError} {c : Cursor}
    (h : s.parser.parse.Rejects (.ofString message) e c) :
    (∃! stage, s.RejectsAt message stage e c) ∧
      (∀ i remaining, e ≠ .expectedEnd i remaining) ∧ (∀ text, e ≠ .custom text) ∧
      (s.required = [] → ¬ s.RejectsAt message .arguments e c) := by
  have horderly : ∀ a ∈ s.arguments, a.kind.attempt.Orderly := by
    intro a ha
    obtain ⟨rules, g, hg⟩ := hkinds a ha
    rw [hg]
    exact g.orderly_attempt rules
  have hstage : ∃ stage, s.RejectsAt message stage e c := by
    rcases rejects_parser_iff.mp h with h | ⟨opening, c₁, hopening, h | ⟨label, c₂, hlabel, h⟩⟩
    · exact ⟨.opening, rejectsAt_opening h⟩
    · exact ⟨.label, rejectsAt_label hopening h⟩
    · exact ⟨.arguments, rejectsAt_arguments horderly hopening hlabel h⟩
  obtain ⟨stage, hrejects⟩ := hstage
  obtain ⟨hnotEnd, hnotCustom⟩ := hrejects.kind_of_error
  refine ⟨⟨stage, hrejects, fun other hother => hother.stage_eq hrejects⟩, hnotEnd, hnotCustom, ?_⟩
  intro hnone harguments
  obtain ⟨a, ha, hrequired⟩ := harguments.exists_required
  have hmem : a.name ∈ s.required :=
    List.mem_map_of_mem (List.mem_filter.mpr ⟨ha, hrequired⟩)
  rw [hnone] at hmem
  exact absurd hmem List.not_mem_nil

/-- A required argument whose value is always refused, next to an optional one. -/
theorem rejects_at_one_stage_ping :
    let kind := (Grammar.map "user" (.reject "no such user") (.token .word)).parser []
    let s := ofDeclarations ["ping"] [.argument ⟨"user", true, kind⟩, .argument ⟨"by", false, kind⟩]
    let message := " /ping -user é"
    let e := ParseError.unexpectedSymbol 15 "é" "one of the remaining patterns"
    let c := (Cursor.ofString message).past message.toList
    (∀ a ∈ s.arguments, ∃ (rules : Rules) (g : Grammar), a.kind = g.parser rules) ∧
      s.parser.parse.Rejects (.ofString message) e c ∧
      ∃! stage, s.RejectsAt message stage e c := by
  intro kind s message e c
  have hkinds : ∀ a ∈ s.arguments, ∃ (rules : Rules) (g : Grammar), a.kind = g.parser rules := by
    intro a ha
    have harguments : s.arguments = [⟨"user", true, kind⟩, ⟨"by", false, kind⟩] := rfl
    rw [harguments, List.mem_cons, List.mem_singleton] at ha
    rcases ha with rfl | rfl
    · exact ⟨[], _, rfl⟩
    · exact ⟨[], _, rfl⟩
  have hrejects : s.parser.parse.Rejects (.ofString message) e c := ⟨0, by decide +kernel⟩
  exact ⟨hkinds, hrejects, (rejects_at_one_stage s hkinds hrejects).1⟩

end Signature

end Parlance.Command
