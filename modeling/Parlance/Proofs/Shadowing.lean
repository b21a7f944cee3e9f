import Parlance.Proofs.Token.Blank

/-!
# Literals that shadow others

Where several texts are to choose from, the first one that matches is taken, and those behind it
have no chance there. Blanks are skipped in front of some texts and not in front of others, so a
text can be shadowed by one that is no prefix of it: behind `"a"`, the text `" a"` has no chance at
all. Still the texts alone decide. If a text matches, whatever matches in front of that text itself
matches as well (`IsReadIn.trans`), so a text that has a chance anywhere has one in front of itself.
-/

namespace Parlance

/-! ## Texts in front of a text -/

/-- Whether blanks are skipped in front of a text depends on its first symbol only. -/
lemma startsSolid_eq_of_begins {s t : List Char} (h : s <+: t) (hne : s ≠ []) :
    startsSolid t = startsSolid s := by
  obtain ⟨rest, rfl⟩ := h
  cases s with
  | nil => exact absurd rfl hne
  | cons x s => rfl

lemma dropWhile_prefix_dropWhile {s t : List Char} {p : Char → Bool} (h : s <+: t)
    (hne : s.dropWhile p ≠ []) : s.dropWhile p <+: t.dropWhile p := by
  obtain ⟨rest, rfl⟩ := h
  rw [List.dropWhile_append, if_neg (by simpa using hne)]
  exact List.prefix_append _ _

/-- The literal for `text` matches in front of `ahead`, outside all verbatim tokens. -/
def IsReadIn (text : String) (ahead : List Char) : Prop :=
  text.toList <+: if startsSolid text.toList then ahead.dropWhile isBlank else ahead

instance (text : String) (ahead : List Char) : Decidable (IsReadIn text ahead) :=
  inferInstanceAs (Decidable (_ <+: _))

namespace IsReadIn

variable {other text : String} {ahead : List Char}

/-- A text matches in front of whatever it is a prefix of: no blank is skipped there. -/
lemma of_begins (h : text.toList <+: ahead) : IsReadIn text ahead := by
  unfold IsReadIn
  split
  · next hsolid =>
    have hne : text.toList ≠ [] := by
      intro hnil
      rw [hnil] at hsolid
      cases hsolid
    have hahead : startsBlank ahead = false :=
      startsBlank_eq_false_of_startsSolid ((startsSolid_eq_of_begins h hne).trans hsolid)
    rw [show ahead.dropWhile isBlank = ahead from dropWhile_isBlank_append blank_nil hahead]
    exact h
  · exact h

/-- What matches in front of a text matches wherever that text does. -/
theorem trans (hother : IsReadIn other text.toList) (htext : IsReadIn text ahead) :
    IsReadIn other ahead := by
  unfold IsReadIn at hother ⊢
  by_cases hsolid : startsSolid other.toList = true
  · rw [if_pos hsolid] at hother ⊢
    have hne : text.toList.dropWhile isBlank ≠ [] := by
      intro hnil
      rw [hnil, List.prefix_nil] at hother
      rw [hother] at hsolid
      cases hsolid
    refine hother.trans ?_
    -- blanks that were skipped in front of the text are skipped in front of the other one, too
    unfold IsReadIn at htext
    split at htext
    · have hdrop := dropWhile_prefix_dropWhile htext hne
      rwa [show (ahead.dropWhile isBlank).dropWhile isBlank = ahead.dropWhile isBlank from
        dropWhile_isBlank_append blank_nil (startsBlank_dropWhile ahead)] at hdrop
    · exact dropWhile_prefix_dropWhile htext hne
  · rw [if_neg hsolid] at hother ⊢
    by_cases hnil : other.toList = []
    · rw [hnil]
      exact List.nil_prefix
    · -- the text begins with the same blank, so that none is skipped in front of it
      have hstarts : ¬ startsSolid text.toList = true := by
        rwa [startsSolid_eq_of_begins hother hnil]
      unfold IsReadIn at htext
      rw [if_neg hstarts] at htext
      exact hother.trans htext

end IsReadIn

namespace Parser

variable {c c' : Cursor}

lemma ahead_approach_literal (text : String) (hverbatim : c.isVerbatim = false) :
    ((literal text).approach c).ahead =
      if startsSolid text.toList then c.ahead.dropWhile isBlank else c.ahead := by
  rw [approach, show (literal text).skipsBlank = startsSolid text.toList from rfl]
  split
  · exact Cursor.ahead_skipBlank hverbatim
  · rfl

lemma fails_literal_iff_not_isReadIn {text : String} (hverbatim : c.isVerbatim = false) :
    (literal text).parse.Fails c ↔ ¬ IsReadIn text c.ahead := by
  rw [fails_literal_iff, ahead_approach_literal text hverbatim]
  rfl

lemma succeeds_literal_iff {text : String} (hverbatim : c.isVerbatim = false) :
    (literal text).parse.succeeds c = true ↔ IsReadIn text c.ahead := by
  simp only [Parse.succeeds_iff, accepts_literal_iff, ahead_approach_literal text hverbatim]
  unfold IsReadIn
  tauto

/-! ## The first text that matches -/

/-- At `c` the entry at `i` is the first of `texts` whose literal matches. -/
def Wins (texts : List String) (i : ℕ) (c : Cursor) : Prop :=
  ∃ text, texts[i]? = some text ∧ (literal text).parse.succeeds c = true ∧
    ∀ other ∈ texts.take i, (literal other).parse.Fails c

lemma wins_iff {texts : List String} {i : ℕ} {text : String} (htext : texts[i]? = some text)
    (hverbatim : c.isVerbatim = false) :
    Wins texts i c ↔ IsReadIn text c.ahead ∧ ∀ other ∈ texts.take i, ¬ IsReadIn other c.ahead := by
  unfold Wins
  simp only [htext, Option.some.injEq, exists_eq_left', succeeds_literal_iff hverbatim,
    fails_literal_iff_not_isReadIn hverbatim]

/-- The choice goes to the entry that wins. -/
lemma accepts_pick_iff_wins {texts : List String} {value : String} :
    (pick (texts.map literal)).parse.Accepts c value c' ↔
      ∃ i, Wins texts i c ∧ texts[i]? = some value ∧ (literal value).parse.Accepts c value c' := by
  rw [accepts_pick_iff (orderly_literals texts)]
  constructor
  · intro ⟨before, p, after, heq, hfails, haccepts⟩
    obtain ⟨texts₁, texts₂, rfl, rfl, htail⟩ := List.map_eq_append_iff.mp heq
    obtain ⟨text, texts₃, rfl, rfl, -⟩ := List.map_eq_cons_iff.mp htail
    obtain ⟨rfl, -⟩ := accepts_literal_iff.mp haccepts
    have hvalue : (texts₁ ++ value :: texts₃)[texts₁.length]? = some value := by simp
    refine ⟨texts₁.length, ⟨value, hvalue, ?_, fun other hother => ?_⟩, hvalue, haccepts⟩
    · exact Parse.succeeds_iff.mpr ⟨value, c', haccepts⟩
    · rw [List.take_left] at hother
      exact hfails (literal other) (List.mem_map_of_mem hother)
  · intro ⟨i, ⟨_, _, _, hfails⟩, hvalue, haccepts⟩
    have hsplit : texts = texts.take i ++ value :: texts.drop (i + 1) := by
      obtain ⟨hi, rfl⟩ := List.getElem?_eq_some_iff.mp hvalue
      rw [List.getElem_cons_drop, List.take_append_drop]
    refine ⟨(texts.take i).map literal, literal value, (texts.drop (i + 1)).map literal, ?_, ?_,
      haccepts⟩
    · rw [← List.map_cons, ← List.map_append, ← hsplit]
    · exact List.forall_mem_map.mpr hfails

/-- A choice between texts goes to the first one that matches. A text has a chance at some place
outside all verbatim tokens just if it has one in front of itself, that is, if every earlier text
fails there. So no earlier one is a prefix of a text that wins. -/
theorem pick_literals_reaches (texts : List String) {i : ℕ} {text : String}
    (htext : texts[i]? = some text) :
    (∀ c value c', (pick (texts.map literal)).parse.Accepts c value c' ↔
      ∃ j, Wins texts j c ∧ texts[j]? = some value ∧
        (literal value).parse.Accepts c value c') ∧
    (∀ c, (pick (texts.map literal)).parse.Fails c ↔
      ∀ other ∈ texts, (literal other).parse.Fails c) ∧
    ((∃ c, c.isVerbatim = false ∧ Wins texts i c) ↔
      ∀ other ∈ texts.take i, (literal other).parse.Fails (.ofString text)) ∧
    ∀ c, c.isVerbatim = false → Wins texts i c →
      ∀ other ∈ texts.take i, ¬ other.toList <+: text.toList := by
  have hitself : (Cursor.ofString text).isVerbatim = false := rfl
  refine ⟨fun c value c' => accepts_pick_iff_wins, fun c => ?_, ⟨?_, fun hfails => ?_⟩, ?_⟩
  · rw [fails_pick_iff (orderly_literals texts), List.forall_mem_map]
  · intro ⟨c, hverbatim, hwins⟩ other hother
    obtain ⟨hread, hnot⟩ := (wins_iff htext hverbatim).mp hwins
    rw [fails_literal_iff_not_isReadIn hitself]
    exact fun h => hnot other hother (IsReadIn.trans h hread)
  · refine ⟨.ofString text, hitself, (wins_iff htext hitself).mpr ⟨?_, fun other hother => ?_⟩⟩
    · exact IsReadIn.of_begins (List.prefix_refl _)
    · exact (fails_literal_iff_not_isReadIn hitself).mp (hfails other hother)
  · intro c hverbatim hwins other hother hprefix
    obtain ⟨hread, hnot⟩ := (wins_iff htext hverbatim).mp hwins
    exact hnot other hother ((IsReadIn.of_begins hprefix).trans hread)

/-- A text that begins with a blank is shadowed by one that does not, and the empty text has a
chance behind both. -/
theorem pick_literals_reaches_blank :
    let texts := ["a", " a", ""]
    (¬ ∃ c, c.isVerbatim = false ∧ Wins texts 1 c) ∧
      ∃ c, c.isVerbatim = false ∧ Wins texts 2 c := by
  intro texts
  obtain ⟨-, -, hblank, -⟩ := pick_literals_reaches texts (i := 1) rfl
  obtain ⟨-, -, hempty, -⟩ := pick_literals_reaches texts (i := 2) rfl
  have hread : (literal "a").parse.Accepts (.ofString " a") "a"
      ((Cursor.ofString " a").past [' ', 'a']) := ⟨0, by decide +kernel⟩
  refine ⟨fun h => ?_, hempty.mpr fun other hother => ?_⟩
  · exact hread.not_fails (hblank.mp h "a" List.mem_cons_self)
  · have hnone : ∀ other ∈ ["a", " a"], ¬ IsReadIn other "".toList := by decide +kernel
    exact (fails_literal_iff_not_isReadIn rfl).mpr (hnone other hother)

end Parser

end Parlance
