import Parlance.Proofs.Terminal
import Parlance.Proofs.Unordered
import Mathlib.Data.List.Pairwise

/-!
# Literals in any order

If none of the texts is a prefix of another, at most one of them stands ahead. So literals in any
order are settled one after the other as their texts are written, whatever blanks stand before them
and however long the part is that two texts begin with (`Schedule.of_spaced`), and the values come
in the order of declaration (`Grammar.unordered_ignores_order`).
-/

namespace Parlance

/-! ## Prefix-free texts -/

/-- None of the texts begins with another one. -/
def PrefixFree (texts : List String) : Prop :=
  texts.Pairwise fun s t => ¬ s.toList <+: t.toList ∧ ¬ t.toList <+: s.toList

instance (texts : List String) : Decidable (PrefixFree texts) :=
  inferInstanceAs (Decidable (texts.Pairwise _))

namespace PrefixFree

variable {texts : List String} {s t : String}

lemma nodup (h : PrefixFree texts) : texts.Nodup := by
  refine List.Pairwise.imp (fun hst heq => hst.1 ?_) h
  rw [heq]

lemma eq_of_prefix (h : PrefixFree texts) (hs : s ∈ texts) (ht : t ∈ texts)
    (hst : s.toList <+: t.toList) : s = t := by
  have hsymm : Std.Symm fun s t : String => ¬ s.toList <+: t.toList ∧ ¬ t.toList <+: s.toList :=
    ⟨fun _ _ h => h.symm⟩
  by_contra hne
  exact (List.Pairwise.forall h hs ht hne).1 hst

/-- In front of one of the texts no other one stands. -/
lemma eq_of_prefix_append (h : PrefixFree texts) (hs : s ∈ texts) (ht : t ∈ texts)
    {rest : List Char} (hst : s.toList <+: t.toList ++ rest) : s = t := by
  rcases List.prefix_or_prefix_of_prefix hst (List.prefix_append t.toList rest) with hst | hts
  · exact h.eq_of_prefix hs ht hst
  · exact (h.eq_of_prefix ht hs hts).symm

end PrefixFree

/-! ## Texts behind blanks -/

/-- Texts one after the other, each behind its blanks. -/
def spaced (entries : List (List Char × String)) : List Char :=
  entries.flatMap fun entry => entry.1 ++ entry.2.toList

lemma spaced_cons (blanks : List Char) (t : String) (entries : List (List Char × String)) :
    spaced ((blanks, t) :: entries) = blanks ++ (t.toList ++ spaced entries) := by
  rw [spaced, List.flatMap_cons, List.append_assoc]
  rfl

lemma startsSolid_append {text : List Char} (h : startsSolid text = true) (rest : List Char) :
    startsSolid (text ++ rest) = true := by
  cases text with
  | nil => cases h
  | cons x text => exact h

namespace Parser

variable {c : Cursor} {texts : List String}

/-- The literals of the texts, as parsers of values. -/
def literals (texts : List String) : List (Parser Value) :=
  texts.map fun t => (literal t).convert .str

lemma parseBranch_literals {i : ℕ} (hi : i < texts.length) :
    parseBranch (literals texts) i = ((literal texts[i]).convert Value.str).parse := by
  refine parseBranch_of_getElem? ?_
  rw [literals, List.getElem?_map, List.getElem?_eq_getElem hi]
  rfl

/-- In front of a text that starts solid, behind some blanks, a solid literal looks for its own
text there. -/
lemma approach_literal_of_append (hverbatim : c.isVerbatim = false) {s : String}
    (hs : startsSolid s.toList = true) {blanks text : List Char} (hblanks : Blank blanks)
    (htext : startsSolid text = true) (hahead : c.ahead = blanks ++ text) :
    (literal s).approach c = c.past blanks := by
  rw [approach_literal hs]
  exact Cursor.skipBlank_of_append hverbatim hblanks (startsBlank_eq_false_of_startsSolid htext)
    hahead

section Solid

variable (hsolid : ∀ t ∈ texts, startsSolid t.toList = true) (hfree : PrefixFree texts)

include hsolid hfree

/-- Of prefix-free literals exactly the one succeeds whose text stands behind the blanks. -/
lemma accepts_literal_of_ahead (hverbatim : c.isVerbatim = false) {t : String} (ht : t ∈ texts)
    {blanks rest : List Char} (hblanks : Blank blanks)
    (hahead : c.ahead = blanks ++ (t.toList ++ rest)) :
    (literal t).parse.Accepts c t (c.past (blanks ++ t.toList)) ∧
      ∀ s ∈ texts, s ≠ t → (literal s).parse.Fails c := by
  have happroach : ∀ s ∈ texts, (literal s).approach c = c.past blanks := fun s hs =>
    approach_literal_of_append hverbatim (hsolid s hs) hblanks
      (startsSolid_append (hsolid t ht) rest) hahead
  have hbehind : (c.past blanks).ahead = t.toList ++ rest := Cursor.ahead_past_of_eq hahead
  constructor
  · rw [accepts_literal_iff, happroach t ht, hbehind, Cursor.past_past]
    exact ⟨rfl, List.prefix_append _ _, rfl⟩
  · intro s hs hne
    rw [fails_literal_iff, happroach s hs, hbehind]
    exact fun hprefix => hne (hfree.eq_of_prefix_append hs ht hprefix)

/-- Prefix-free literals are chosen as they are written, if those that are left are written once
each. -/
theorem Schedule.of_spaced {entries : List (List Char × String)}
    (hwritten : ∀ entry ∈ entries, Blank entry.1 ∧ entry.2 ∈ texts)
    (hnodup : (entries.map Prod.snd).Nodup) {chosen : Finset ℕ}
    (hleft : ∀ i (hi : i < texts.length), i ∉ chosen ↔ texts[i] ∈ entries.map Prod.snd)
    (hverbatim : c.isVerbatim = false) {rest : List Char}
    (hahead : c.ahead = spaced entries ++ rest) :
    Schedule (literals texts) chosen c
      (entries.map fun entry => (texts.idxOf entry.2, .str entry.2)) (c.past (spaced entries)) := by
  -- the literal whose text is written first is chosen, and the others are left as they were
  induction entries generalizing c chosen with
  | nil =>
    refine .stop fun i hi hnot => ?_
    rw [literals, List.length_map] at hi
    exact absurd ((hleft i hi).mp hnot) List.not_mem_nil
  | cons entry entries ih =>
    obtain ⟨blanks, t⟩ := entry
    obtain ⟨⟨hblanks, ht⟩, hwritten⟩ := List.forall_mem_cons.mp hwritten
    obtain ⟨honce, hnodup⟩ := List.nodup_cons.mp hnodup
    rw [spaced_cons, List.append_assoc, List.append_assoc] at hahead
    obtain ⟨haccepts, hothers⟩ :=
      accepts_literal_of_ahead hsolid hfree hverbatim ht hblanks hahead
    have hi : texts.idxOf t < texts.length := List.idxOf_lt_length_of_mem ht
    have hget : texts[texts.idxOf t] = t := List.getElem_idxOf hi
    have hplace : ∀ k (hk : k < texts.length), texts[k] = t ↔ k = texts.idxOf t := by
      intro k hk
      constructor
      · exact fun heq => hfree.nodup.getElem_inj_iff.mp (heq.trans hget.symm)
      · rintro rfl
        exact hget
    have hfresh : texts.idxOf t ∉ chosen := by
      rw [hleft _ hi, hget]
      exact List.mem_cons_self
    have hleft' : ∀ k (hk : k < texts.length),
        k ∉ insert (texts.idxOf t) chosen ↔ texts[k] ∈ entries.map Prod.snd := by
      intro k hk
      rw [Finset.mem_insert, not_or, hleft k hk, ← hplace k hk, List.map_cons, List.mem_cons]
      constructor
      · intro ⟨hne, hmem⟩
        exact hmem.resolve_left hne
      · intro hmem
        exact ⟨fun heq => honce (heq ▸ hmem), Or.inr hmem⟩
    have hrest := ih hwritten hnodup hleft' (c := c.past (blanks ++ t.toList)) hverbatim
      (Cursor.ahead_past_of_eq (by rw [hahead, List.append_assoc]))
    rw [Cursor.past_past, List.append_assoc, ← spaced_cons] at hrest
    refine .choose hfresh (fun k hk _ => ?_) ?_ hrest
    · have hk' := hk.trans hi
      rw [parseBranch_literals hk', fails_convert_iff]
      exact hothers _ (List.getElem_mem hk') fun heq => hk.ne ((hplace k hk').mp heq)
    · rw [parseBranch_literals hi, hget, accepts_convert_iff]
      exact ⟨t, haccepts, rfl⟩

/-- Where prefix-free literals stand ahead in some order, reading them in any order gives their
texts in the order of declaration. -/
theorem accepts_unordered_of_spaced {entries : List (List Char × String)}
    (hblanks : ∀ entry ∈ entries, Blank entry.1) (hperm : (entries.map Prod.snd).Perm texts)
    (hverbatim : c.isVerbatim = false) {rest : List Char}
    (hahead : c.ahead = spaced entries ++ rest) :
    (unordered (literals texts)).parse.Accepts c (texts.map .str) (c.past (spaced entries)) := by
  have hnodup : (entries.map Prod.snd).Nodup := hperm.nodup_iff.mpr hfree.nodup
  have hmem : ∀ entry ∈ entries, entry.2 ∈ texts := fun entry hentry =>
    hperm.mem_iff.mp (List.mem_map_of_mem hentry)
  have hleft : ∀ i (hi : i < texts.length),
      i ∉ (∅ : Finset ℕ) ↔ texts[i] ∈ entries.map Prod.snd := by
    intro i hi
    exact iff_of_true (Finset.notMem_empty i) (hperm.mem_iff.mpr (List.getElem_mem hi))
  have hschedule := Schedule.of_spaced hsolid hfree
    (fun entry hentry => ⟨hblanks entry hentry, hmem entry hentry⟩) hnodup hleft hverbatim hahead
  have horderly : ∀ p ∈ literals texts, p.parse.Orderly :=
    List.forall_mem_map.mpr fun t _ => (Grammar.literal t).orderly_parse []
  have hlength : (literals texts).length = texts.length := List.length_map _
  refine (accepts_unordered_iff horderly).mpr ⟨_, hschedule, ?_, ?_, ?_⟩
  · rw [hlength, ← hperm.length_eq, List.length_map, List.length_map]
  · rw [hlength, List.length_map]
  · -- each value is the text that is declared at its place
    intro choice hchoice
    obtain ⟨entry, hentry, rfl⟩ := List.mem_map.mp hchoice
    have ht := hmem entry hentry
    rw [List.getElem?_map, List.getElem?_eq_getElem (List.idxOf_lt_length_of_mem ht),
      List.getElem_idxOf]
    rfl

end Solid

end Parser

namespace Grammar

/-- Prefix-free literals, written in any order and with any blanks before each of them, are read in
any order with the texts in the order of declaration as the value, and no more than what was written
is consumed: all of it if it is the whole text. -/
theorem unordered_ignores_order (rules : Rules) {texts : List String}
    (hsolid : ∀ t ∈ texts, startsSolid t.toList = true) (hfree : PrefixFree texts)
    {entries : List (List Char × String)} (hblanks : ∀ entry ∈ entries, Blank entry.1)
    (hperm : (entries.map Prod.snd).Perm texts) :
    let p := (Grammar.unordered (texts.map .literal)).parser rules
    (∃ c', p.parse.Accepts (Cursor.ofSymbols (spaced entries)) (Value.ofStrings texts) c'
      ∧ c'.isAtEnd = true) ∧
    ∀ c rest, c.isVerbatim = false → c.ahead = spaced entries ++ rest →
      p.parse.Accepts c (Value.ofStrings texts) (c.past (spaced entries))
        ∧ (c.past (spaced entries)).ahead = rest := by
  intro p
  have hp : p = (Parser.unordered (Parser.literals texts)).convert .list := by
    show parser rules (.unordered _) = _
    rw [parser_unordered, List.map_map]
    rfl
  have haccepts : ∀ c rest, c.isVerbatim = false → c.ahead = spaced entries ++ rest →
      p.parse.Accepts c (Value.ofStrings texts) (c.past (spaced entries)) := by
    intro c rest hverbatim hahead
    rw [hp, Parser.accepts_convert_iff]
    exact ⟨_, Parser.accepts_unordered_of_spaced hsolid hfree hblanks hperm hverbatim hahead, rfl⟩
  have hfresh : (Cursor.ofSymbols (spaced entries)).ahead = spaced entries ++ [] :=
    (List.append_nil _).symm
  refine ⟨⟨_, haccepts _ [] rfl hfresh, ?_⟩, fun c rest hverbatim hahead =>
    ⟨haccepts c rest hverbatim hahead, Cursor.ahead_past_of_eq hahead⟩⟩
  rw [Cursor.isAtEnd]
  exact List.isEmpty_iff.mpr (Cursor.ahead_past_of_eq hfresh)

/-- Texts that begin with the same symbols, or with a blank inside, in another order. -/
theorem unordered_ignores_order_common :
    let texts := ["ééa", "éé b", "éb"]
    let entries := [([], "éb"), (" \n".toList, "éé b"), ([], "ééa")]
    let p := (Grammar.unordered (texts.map .literal)).parser []
    (∀ t ∈ texts, startsSolid t.toList = true) ∧ PrefixFree texts ∧
      (∀ entry ∈ entries, Blank entry.1) ∧ (entries.map Prod.snd).Perm texts ∧
      spaced entries = "éb \néé bééa".toList ∧
      ∃ c', p.parse.Accepts (Cursor.ofString "éb \néé bééa") (Value.ofStrings texts) c'
        ∧ c'.isAtEnd = true := by
  intro texts entries p
  have hsolid : ∀ t ∈ texts, startsSolid t.toList = true := by decide
  have hfree : PrefixFree texts := by decide
  have hblanks : ∀ entry ∈ entries, Blank entry.1 := by decide
  have hperm : (entries.map Prod.snd).Perm texts := by decide
  have hspaced : spaced entries = "éb \néé bééa".toList := by decide
  obtain ⟨hfresh, -⟩ := unordered_ignores_order [] hsolid hfree hblanks hperm
  rw [hspaced] at hfresh
  exact ⟨hsolid, hfree, hblanks, hperm, hspaced, hfresh⟩

end Grammar

end Parlance
