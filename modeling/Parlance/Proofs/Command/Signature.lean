import Parlance.Command.Signature
import Parlance.Proofs.Command.Argument
import Parlance.Proofs.Unordered
import Mathlib.Data.List.Induction
import Mathlib.Data.List.Perm.Basic

/-!
# What a signature reads

A message is read as an opening, a name of the command, and the arguments and the remainder in any
order. Here are the parts on their own, and `assemble`, which gives the values back to the names:
the names are pairwise distinct, however the signature was declared, so each gets its own value.
-/

namespace Parlance

/-! ## Values by name -/

namespace ArgumentMap

variable {name key : String} {v : Value} {pairs : List (String × Value)}

lemma lookup_cons_eq (other : String) (w : Value) (m : ArgumentMap) :
    List.lookup key ((other, w) :: m) = if key = other then some w else List.lookup key m := by
  rw [List.lookup_cons]
  by_cases hkey : key = other
  · rw [if_pos hkey, beq_iff_eq.mpr hkey]
  · rw [if_neg hkey, beq_false_of_ne hkey]

/-- Only the value of the name that is inserted changes. -/
lemma lookup_insert (m : ArgumentMap) :
    List.lookup key (insert name v m) = if key = name then some v else List.lookup key m := by
  induction m with
  | nil => exact lookup_cons_eq name v []
  | cons entry m ih =>
    obtain ⟨other, w⟩ := entry
    rw [insert]
    split
    · next hname =>
      rw [lookup_cons_eq, lookup_cons_eq, hname]
      split <;> rfl
    · next hname =>
      split
      · exact lookup_cons_eq name v _
      · rw [lookup_cons_eq, lookup_cons_eq, ih]
        -- `name` is not `other`, so the key cannot be both
        by_cases hother : key = other
        · rw [if_pos hother, if_neg (hother ▸ Ne.symm hname), if_pos hother]
        · rw [if_neg hother, if_neg hother]

/-- A name that had no value is added to the names. -/
lemma keys_insert {m : ArgumentMap} (hnew : name ∉ m.map Prod.fst) :
    ((insert name v m).map Prod.fst).Perm (name :: m.map Prod.fst) := by
  induction m with
  | nil => exact List.Perm.refl _
  | cons entry m ih =>
    obtain ⟨other, w⟩ := entry
    rw [List.map_cons, List.mem_cons, not_or] at hnew
    rw [insert, if_neg hnew.1]
    split
    · exact List.Perm.refl _
    · exact ((ih hnew.2).cons other).trans (List.Perm.swap name other _)

lemma ofList_append_singleton :
    ofList (pairs ++ [(name, v)]) = insert name v (ofList pairs) := by
  rw [ofList, List.foldl_append]
  rfl

/-- The names are those that were given a value. -/
lemma keys_ofList (hnodup : (pairs.map Prod.fst).Nodup) :
    ((ofList pairs).map Prod.fst).Perm (pairs.map Prod.fst) := by
  -- the last pair is the one that is inserted last
  induction pairs using List.reverseRecOn with
  | nil => exact List.Perm.refl _
  | append_singleton pairs entry ih =>
    obtain ⟨name, v⟩ := entry
    rw [List.map_append, List.nodup_append] at hnodup
    obtain ⟨hpairs, -, hdisjoint⟩ := hnodup
    have hperm := ih hpairs
    have hnew : name ∉ (ofList pairs).map Prod.fst := by
      intro hmem
      exact hdisjoint name (hperm.mem_iff.mp hmem) name (List.mem_singleton_self name) rfl
    rw [ofList_append_singleton, List.map_append]
    refine (keys_insert hnew).trans ((hperm.cons name).trans ?_)
    exact (List.perm_append_singleton name _).symm

/-- Every name has the value that it was given. -/
lemma lookup_ofList (hnodup : (pairs.map Prod.fst).Nodup) (h : (key, v) ∈ pairs) :
    List.lookup key (ofList pairs) = some v := by
  induction pairs using List.reverseRecOn with
  | nil => exact absurd h List.not_mem_nil
  | append_singleton pairs entry ih =>
    obtain ⟨name, w⟩ := entry
    have hunique := lookup_eq_some_of_mem hnodup h
    rw [ofList_append_singleton, lookup_insert]
    split
    · -- the last pair has this key, and no other pair has
      next hkey =>
      have hlast : (key, w) ∈ pairs ++ [(name, w)] := by
        rw [hkey]
        exact List.mem_append_right _ (List.mem_singleton_self _)
      rw [← hunique]
      exact (lookup_eq_some_of_mem hnodup hlast).symm
    · next hkey =>
      rcases List.mem_append.mp h with h | h
      · rw [List.map_append] at hnodup
        exact ih (List.nodup_append.mp hnodup).1 h
      · rw [List.mem_singleton, Prod.mk.injEq] at h
        exact absurd h.1 hkey

end ArgumentMap

namespace Command

open Parlance.Parser

variable {c c' : Cursor}

/-! ## Openings -/

lemma orderly_openers (mention : String) :
    ∀ p ∈ [literal "/", literal "$", mentionOpener mention], p.parse.Orderly := by
  intro p hp
  have hall := Parse.hereditary_orderly
  simp only [List.mem_cons, List.not_mem_nil, or_false] at hp
  rcases hp with rfl | rfl | rfl
  · exact hall.parse (hall.literal "/")
  · exact hall.parse (hall.literal "$")
  · exact hall.parse (hall.mentionOpener mention)

/-- A mention is followed by a space or not. -/
lemma exists_blank_of_accepts_mentionOpener {mention opening : String}
    (h : (mentionOpener mention).parse.Accepts c opening c') :
    (opening = mention ∨ opening = mention ++ " ") ∧
      ∃ blanks, Blank blanks ∧ blanks ++ opening.toList <+: c.ahead
        ∧ c' = c.past (blanks ++ opening.toList) := by
  obtain ⟨⟨written, space⟩, c₁, hparts, hpure⟩ := Parse.accepts_bind_iff.mp h
  obtain ⟨rfl, rfl⟩ := Parse.accepts_pure_iff.mp hpure
  obtain ⟨_, c₂, hmention, hparts⟩ := Parse.accepts_bind_iff.mp hparts
  obtain ⟨_, c₃, hspace, hpure⟩ := Parse.accepts_bind_iff.mp hparts
  obtain ⟨heq, rfl⟩ := Parse.accepts_pure_iff.mp hpure
  rw [Prod.mk.injEq] at heq
  obtain ⟨rfl, rfl⟩ := heq
  obtain ⟨rfl, blanks, hblanks, ⟨rest, hrest⟩, rfl⟩ := exists_blank_of_accepts_literal hmention
  have hliteral : (literal " ").parse.Orderly :=
    Parse.hereditary_orderly.parse (Parse.hereditary_orderly.literal " ")
  cases space with
  | none =>
    obtain ⟨rfl, -⟩ := (accepts_none_optional_iff hliteral).mp hspace
    rw [Option.getD_none, String.append_empty]
    exact ⟨Or.inl rfl, blanks, hblanks, ⟨rest, hrest⟩, rfl⟩
  | some space =>
    -- the space itself is what a literal of one space reads, without skipping any
    have hread := (accepts_some_optional_iff hliteral).mp hspace
    have happroach : ∀ d, (literal " ").approach d = d := fun _ => rfl
    rw [accepts_literal_iff, happroach, Cursor.ahead_past_of_eq hrest.symm] at hread
    obtain ⟨rfl, ⟨rest', hrest'⟩, rfl⟩ := hread
    rw [Option.getD_some, String.toList_append]
    refine ⟨Or.inr rfl, blanks, hblanks, ⟨rest', ?_⟩, ?_⟩
    · rw [← hrest, ← hrest']
      simp only [List.append_assoc]
    · rw [Cursor.past_past, List.append_assoc]

/-- What opens a message is one of three texts, the last with or without a space. -/
lemma exists_blank_of_accepts_opener {mention opening : String}
    (h : (opener mention).parse.Accepts c opening c') :
    opening ∈ ["/", "$", mention, mention ++ " "] ∧
      ∃ blanks, Blank blanks ∧ blanks ++ opening.toList <+: c.ahead
        ∧ c' = c.past (blanks ++ opening.toList) := by
  obtain ⟨before, p, after, heq, -, haccepts⟩ := (accepts_pick_iff (orderly_openers mention)).mp h
  have hp : p ∈ [literal "/", literal "$", mentionOpener mention] := by
    rw [heq]
    exact List.mem_append_right _ List.mem_cons_self
  simp only [List.mem_cons, List.not_mem_nil, or_false] at hp
  rcases hp with rfl | rfl | rfl
  · obtain ⟨rfl, hread⟩ := exists_blank_of_accepts_literal haccepts
    exact ⟨by simp, hread⟩
  · obtain ⟨rfl, hread⟩ := exists_blank_of_accepts_literal haccepts
    exact ⟨by simp, hread⟩
  · obtain ⟨hopening, hread⟩ := exists_blank_of_accepts_mentionOpener haccepts
    exact ⟨by rcases hopening with rfl | rfl <;> simp, hread⟩

/-- A slash opens a message. -/
lemma accepts_opener_slash (mention : String) {rest : List Char}
    (hahead : c.ahead = '/' :: rest) : (opener mention).parse.Accepts c "/" (c.past ['/']) := by
  have hsolid : startsBlank c.ahead = false := by rw [hahead]; rfl
  refine (accepts_pick_iff (orderly_openers mention)).mpr
    ⟨[], literal "/", _, rfl, List.forall_mem_nil _, ?_⟩
  rw [accepts_literal_iff, approach_of_not_startsBlank _ hsolid, hahead]
  exact ⟨rfl, ⟨rest, rfl⟩, rfl⟩

/-- A name of the command is written out, perhaps after blanks. -/
lemma exists_blank_of_accepts_label {aliases : List String} {label : String}
    (h : (pick (aliases.map literal)).parse.Accepts c label c') :
    label ∈ aliases ∧ ∃ blanks, Blank blanks ∧ blanks ++ label.toList <+: c.ahead
      ∧ c' = c.past (blanks ++ label.toList) := by
  obtain ⟨before, p, after, heq, -, haccepts⟩ := (accepts_pick_iff (orderly_literals aliases)).mp h
  have hp : p ∈ aliases.map literal := by
    rw [heq]
    exact List.mem_append_right _ List.mem_cons_self
  obtain ⟨text, htext, rfl⟩ := List.mem_map.mp hp
  obtain ⟨rfl, hread⟩ := exists_blank_of_accepts_literal haccepts
  exact ⟨htext, hread⟩

namespace Signature

variable {s : Signature} {i : ℕ} {a : Argument}

/-! ## Names -/

lemma nodup_names_declare (h : s.names.Nodup) (a : Argument) : (s.declare a).names.Nodup := by
  unfold names declare
  rw [List.map_append, List.nodup_append]
  refine ⟨?_, List.nodup_singleton _, ?_⟩
  · exact h.sublist (List.filter_sublist.map Argument.name)
  · intro name hname other hother heq
    obtain ⟨b, hb, rfl⟩ := List.mem_map.mp hname
    rw [List.map_singleton, List.mem_singleton] at hother
    exact (decide_eq_true_iff.mp (List.mem_filter.mp hb).2) (heq.trans hother)

/-- No two arguments of a signature have the same name, however it was declared. -/
theorem nodup_names_ofDeclarations (aliases : List String) (steps : List Declaration) :
    (ofDeclarations aliases steps).names.Nodup := by
  have hsteps : ∀ (s : Signature), s.names.Nodup → (steps.foldl apply s).names.Nodup := by
    induction steps with
    | nil => exact fun s h => h
    | cons step steps ih =>
      intro s h
      apply ih _
      cases step with
      | argument a => exact nodup_names_declare h a
      | mention mention => exact h
      | config config => exact h
  exact hsteps (ofAliases aliases) List.nodup_nil

/-- An argument is known by its name. -/
lemma eq_of_name_eq (hnames : s.names.Nodup) {j : ℕ} {b : Argument}
    (ha : s.arguments[i]? = some a) (hb : s.arguments[j]? = some b) (hname : a.name = b.name) :
    i = j := by
  have hi : s.names[i]? = some a.name := by rw [names, List.getElem?_map, ha]; rfl
  have hj : s.names[j]? = some a.name := by rw [names, List.getElem?_map, hb, hname]; rfl
  exact (List.getElem?_inj (List.getElem?_eq_some_iff.mp hi).1 hnames).mp (hi.trans hj.symm)

/-! ## Entries -/

lemma parseBranch_of_argument (h : s.arguments[i]? = some a) :
    parseBranch s.entries i = a.parser.parse := by
  have hi : i < s.arguments.length := (List.getElem?_eq_some_iff.mp h).1
  apply parseBranch_of_getElem?
  rw [entries, List.getElem?_append_left (by rwa [List.length_map]), List.getElem?_map, h]
  rfl

lemma parseBranch_remainder (s : Signature) :
    parseBranch s.entries s.arguments.length = remainder.parse := by
  apply parseBranch_of_getElem?
  rw [entries, List.getElem?_append_right (by rw [List.length_map]), List.length_map,
    Nat.sub_self]
  rfl

lemma length_entries (s : Signature) : s.entries.length = s.arguments.length + 1 := by
  rw [entries, List.length_append, List.length_map, List.length_singleton]

lemma orderly_entries (hkinds : ∀ a ∈ s.arguments, a.kind.attempt.Orderly) :
    ∀ p ∈ s.entries, p.parse.Orderly := by
  intro p hp
  have hall := Parse.hereditary_orderly
  rw [entries, List.mem_append, List.mem_singleton] at hp
  rcases hp with hp | rfl
  · obtain ⟨a, ha, rfl⟩ := List.mem_map.mp hp
    exact hall.parse (hall.argument (hkinds a ha))
  · exact hall.parse hall.remainder

/-- The remainder is all the text ahead but the blanks that it begins with. -/
lemma accepts_remainder (c : Cursor) :
    remainder.parse.Accepts c (.str (String.ofList (c.ahead.dropWhile isBlank)))
      (c.past c.ahead) := by
  have hall := Parse.hereditary_orderly
  have horderly : (few (do let _ ← Token.skip.parse; rest.parse)).parse.Orderly :=
    hall.parse (hall.bind (hall.parse hall.skip) fun _ => hall.parse hall.rest)
  have hahead : (c.past (c.ahead.takeWhile isBlank)).ahead = c.ahead.dropWhile isBlank :=
    Cursor.ahead_past_of_eq List.takeWhile_append_dropWhile.symm
  -- the rest is read from behind the blanks
  have hrest := accepts_rest (c.past (c.ahead.takeWhile isBlank))
  rw [Cursor.tail, hahead, Cursor.past_past, List.takeWhile_append_dropWhile] at hrest
  have hread : (few (do let _ ← Token.skip.parse; rest.parse)).parse.Accepts c
      (String.ofList (c.ahead.dropWhile isBlank)) (c.past c.ahead) :=
    (Token.accepts_skip_iff.mpr ⟨rfl, rfl⟩).bind hrest
  exact ((accepts_some_optional_iff horderly).mpr hread).bind
    (Parse.accepts_pure_iff.mpr ⟨rfl, rfl⟩)

/-! ## The assembled command -/

section Assemble

variable {values : List Value} (hlength : values.length = s.arguments.length + 1)
  (hnames : s.names.Nodup) (opening label : String)

include hlength

lemma map_fst_zip_names :
    (s.names.zip values.dropLast).map Prod.fst = s.names := by
  apply List.map_fst_zip
  rw [names, List.length_map, List.length_dropLast, hlength]
  exact Nat.le_refl _

/-- The text left over is the last value. -/
lemma remaining_assemble {text : String}
    (htext : values[s.arguments.length]? = some (.str text)) :
    (s.assemble opening label values).remaining = text := by
  show ((values.getLast?).bind Value.asStr).getD "" = text
  rw [List.getLast?_eq_getElem?, hlength, Nat.add_sub_cancel, htext]
  rfl

include hnames

/-- The names in a command are those of the arguments. -/
lemma keys_assemble :
    ((s.assemble opening label values).arguments.map Prod.fst).Perm s.names := by
  have hfst := map_fst_zip_names hlength
  have hnodup : ((s.names.zip values.dropLast).map Prod.fst).Nodup := by rwa [hfst]
  have hperm := ArgumentMap.keys_ofList hnodup
  rwa [hfst] at hperm

/-- Each argument has the value at its place. -/
lemma get?_assemble {v : Value} (ha : s.arguments[i]? = some a) (hv : values[i]? = some v) :
    (s.assemble opening label values).get? a.name = some v := by
  apply ArgumentMap.lookup_ofList (by rwa [map_fst_zip_names hlength])
  have hi : i < s.arguments.length := (List.getElem?_eq_some_iff.mp ha).1
  refine List.mem_iff_getElem?.mpr ⟨i, List.getElem?_zip_eq_some.mpr ⟨?_, ?_⟩⟩
  · rw [names, List.getElem?_map, ha]
    rfl
  · rw [List.getElem?_dropLast, hlength, Nat.add_sub_cancel, if_pos hi, hv]

end Assemble

/-! ## Messages -/

/-- A message is the opening, the name, and the entries in any order. -/
theorem accepts_parser_iff {command : Command} :
    s.parser.parse.Accepts c command c' ↔
      ∃ opening c₁ label c₂ values, (opener s.mention).parse.Accepts c opening c₁
        ∧ (pick (s.aliases.map literal)).parse.Accepts c₁ label c₂
        ∧ (unordered s.entries).parse.Accepts c₂ values c'
        ∧ command = s.assemble opening label values := by
  constructor
  · intro h
    obtain ⟨⟨opening, label, values⟩, c₃, hparts, hpure⟩ := Parse.accepts_bind_iff.mp h
    obtain ⟨hcommand, rfl⟩ := Parse.accepts_pure_iff.mp hpure
    obtain ⟨_, c₁, hopening, hparts⟩ := Parse.accepts_bind_iff.mp hparts
    obtain ⟨_, c₂, hlabel, hparts⟩ := Parse.accepts_bind_iff.mp hparts
    obtain ⟨_, c₃, hvalues, hpure⟩ := Parse.accepts_bind_iff.mp hparts
    obtain ⟨heq, rfl⟩ := Parse.accepts_pure_iff.mp hpure
    simp only [Prod.mk.injEq] at heq
    obtain ⟨rfl, rfl, rfl⟩ := heq
    exact ⟨opening, c₁, label, c₂, values, hopening, hlabel, hvalues, hcommand⟩
  · intro ⟨opening, c₁, label, c₂, values, hopening, hlabel, hvalues, hcommand⟩
    refine Parse.accepts_bind_iff.mpr ⟨(opening, label, values), c', ?_, ?_⟩
    · exact hopening.bind (hlabel.bind (hvalues.bind (Parse.accepts_pure_iff.mpr ⟨rfl, rfl⟩)))
    · exact Parse.accepts_pure_iff.mpr ⟨hcommand, rfl⟩

/-- A message is rejected because of its opening, or of the name behind it, or of the entries behind
both. -/
theorem rejects_parser_iff {e : ParseError} :
    s.parser.parse.Rejects c e c' ↔
      (opener s.mention).parse.Rejects c e c' ∨
        ∃ opening c₁, (opener s.mention).parse.Accepts c opening c₁ ∧
          ((pick (s.aliases.map literal)).parse.Rejects c₁ e c' ∨
            ∃ label c₂, (pick (s.aliases.map literal)).parse.Accepts c₁ label c₂ ∧
              (unordered s.entries).parse.Rejects c₂ e c') := by
  constructor
  · intro h
    rcases Parse.rejects_bind_iff.mp h with hparts | ⟨_, _, -, hpure⟩
    · rcases Parse.rejects_bind_iff.mp hparts with h | ⟨opening, c₁, hopening, hparts⟩
      · exact Or.inl h
      refine Or.inr ⟨opening, c₁, hopening, ?_⟩
      rcases Parse.rejects_bind_iff.mp hparts with h | ⟨label, c₂, hlabel, hparts⟩
      · exact Or.inl h
      refine Or.inr ⟨label, c₂, hlabel, ?_⟩
      rcases Parse.rejects_bind_iff.mp hparts with h | ⟨_, _, -, hpure⟩
      · exact h
      · exact absurd hpure Parse.not_rejects_pure
    · exact absurd hpure Parse.not_rejects_pure
  · intro hout
    refine Parse.Rejects.bind ?_ _
    rcases hout with h | ⟨opening, c₁, hopening, h | ⟨label, c₂, hlabel, h⟩⟩
    · exact h.bind _
    · exact hopening.bind_rejects (h.bind _)
    · exact hopening.bind_rejects (hlabel.bind_rejects (h.bind _))

/-- Where an entry is missing, the message is rejected. -/
lemma rejects_of_rejects_entries {opening label : String} {c₁ c₂ : Cursor} {e : ParseError}
    (hopening : (opener s.mention).parse.Accepts c opening c₁)
    (hlabel : (pick (s.aliases.map literal)).parse.Accepts c₁ label c₂)
    (hentries : (unordered s.entries).parse.Rejects c₂ e c') : s.parser.parse.Rejects c e c' :=
  rejects_parser_iff.mpr (Or.inr ⟨opening, c₁, hopening, Or.inr ⟨label, c₂, hlabel, hentries⟩⟩)

end Signature

end Command

end Parlance
