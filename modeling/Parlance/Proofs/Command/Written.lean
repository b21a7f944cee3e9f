import Parlance.Proofs.Command.Scan
import Parlance.Proofs.Token.Spelling

/-!
# Arguments written out

The texts of string arguments that are given one after another, each after a space and with its
value in quotes. Where one of them is written, it is the only argument that can be read, and it is
read with its value. So a run of them is read one by one, as long as none has been settled before
its turn (`Plain.exists_schedule_of_written`).
-/

namespace Parlance.Command.Signature

open Parlance.Parser

variable {s : Signature} {c c' : Cursor} {i : ℕ} {name value : String}
  {given : List (String × String)} {rest : List Char}

/-! ## Signatures and texts -/

/-- The names of the command are solid texts, and the arguments are strings with different names,
in which there are no blanks. -/
structure Plain (s : Signature) : Prop where
  solid_aliases : ∀ text ∈ s.aliases, startsSolid text.toList = true
  string_kinds : ∀ a ∈ s.arguments, a.kind = Token.string.convert .str
  distinct_names : s.names.Nodup
  solid_names : ∀ name ∈ s.names, ∀ x ∈ name.toList, isBlank x = false

/-- A name and a value as they are written in a message. -/
def writtenOne (name value : String) : List Char :=
  ' ' :: '-' :: name.toList ++ ' ' :: Token.enquote value

/-- Names and values as they are written in a message, one after another. -/
def written (given : List (String × String)) : List Char :=
  given.flatMap fun entry => writtenOne entry.1 entry.2

/-! ## Places -/

lemma exists_argument_of_mem_names (h : name ∈ s.names) :
    ∃ a, s.arguments[s.names.idxOf name]? = some a ∧ a.name = name := by
  have hget := List.getElem?_idxOf h
  unfold names at hget ⊢
  rw [List.getElem?_map, Option.map_eq_some_iff] at hget
  exact hget

lemma isOptional_idxOf (hnames : s.names.Nodup) (h : name ∈ s.names) :
    s.isOptional (s.names.idxOf name) = !s.required.contains name := by
  obtain ⟨a, ha, rfl⟩ := exists_argument_of_mem_names h
  rw [isOptional_eq ha]
  congr 1
  rw [Bool.eq_iff_iff, List.contains_iff_mem, required, List.mem_map]
  constructor
  · intro hrequired
    exact ⟨a, List.mem_filter.mpr ⟨List.mem_of_getElem? ha, hrequired⟩, rfl⟩
  · intro ⟨b, hb, hname⟩
    obtain ⟨hb, hrequired⟩ := List.mem_filter.mp hb
    obtain ⟨k, hk⟩ := List.mem_iff_getElem?.mp hb
    obtain rfl := eq_of_name_eq hnames hk ha hname
    obtain rfl : b = a := Option.some.inj (hk.symm.trans ha)
    exact hrequired

/-! ## One argument -/

lemma writtenOne_eq (name value : String) :
    writtenOne name value = front name [' '] [' '] ++ Token.enquote value := by
  simp [writtenOne, front]

lemma blank_space : Blank [' '] := by
  intro x hx
  rw [List.mem_singleton] at hx
  subst hx
  rfl

lemma flagged_writtenOne (hahead : c.ahead = writtenOne name value ++ rest) :
    Flagged name c.ahead [' '] [' '] (Token.enquote value ++ rest) where
  blank_lead := blank_space
  blank_gap := blank_space
  gap_ne_nil := List.cons_ne_nil _ _
  body_solid := rfl
  text_eq := by rw [hahead, writtenOne_eq, List.append_assoc]

namespace Plain

variable (hs : s.Plain)

include hs

lemma orderly_kinds : ∀ a ∈ s.arguments, a.kind.attempt.Orderly := by
  intro a ha
  rw [hs.string_kinds a ha]
  exact Parse.hereditary_orderly.convert Parse.hereditary_orderly.string _

/-- An argument can only be read where its flag is the next word. -/
lemma quiet_of_firstWord_ne
    (h : ∀ a, s.arguments[i]? = some a → firstWord c.ahead ≠ '-' :: a.name.toList) :
    s.Quiet c i := by
  intro a ha
  refine fails_positional fun lead gap body hflagged => h a ha (hflagged.firstWord_eq ?_)
  exact hs.solid_names a.name (List.mem_map_of_mem (List.mem_of_getElem? ha))

/-- Where an argument is written, no other one can be read. -/
lemma quiet_of_ne (hname : name ∈ s.names) (hahead : c.ahead = writtenOne name value ++ rest)
    (hne : i ≠ s.names.idxOf name) : s.Quiet c i := by
  refine hs.quiet_of_firstWord_ne fun b hb => ?_
  rw [(flagged_writtenOne hahead).firstWord_eq (hs.solid_names name hname)]
  intro heq
  obtain ⟨a, ha, hname'⟩ := exists_argument_of_mem_names hname
  have hnames : a.name = b.name := by
    rw [hname']
    exact String.toList_injective (List.cons.inj heq).2
  exact hne (eq_of_name_eq hs.distinct_names hb ha hnames.symm)

/-- Where an argument is written, it is read. -/
lemma accepts_writtenOne (hname : name ∈ s.names)
    (hahead : c.ahead = writtenOne name value ++ rest) :
    (parseBranch s.entries (s.names.idxOf name)).Accepts c (.str value)
      (c.past (writtenOne name value)) := by
  obtain ⟨a, ha, rfl⟩ := exists_argument_of_mem_names hname
  have hmem := List.mem_of_getElem? ha
  have hflagged := flagged_writtenOne hahead
  have hvalue := Token.accepts_string (Cursor.ahead_past_of_eq hflagged.text_eq)
  rw [Cursor.past_past, ← writtenOne_eq] at hvalue
  rw [parseBranch_of_argument ha]
  refine (Argument.accepts_parser_iff (hs.orderly_kinds a hmem)).mpr (Or.inl ?_)
  rw [hflagged.parse_positional_eq.1, hs.string_kinds a hmem]
  exact accepts_convert_iff.mpr ⟨value, hvalue, rfl⟩

end Plain

/-! ## Arguments one after another -/

/-- The choices made for arguments that are given: each has its value, and others are left out. -/
def ChoicesOf (s : Signature) (given : List (String × String)) (choices : List (ℕ × Value)) :
    Prop :=
  (∀ entry ∈ given, (s.names.idxOf entry.1, .str entry.2) ∈ choices) ∧
    ∀ choice ∈ choices, (s.isOptional choice.1 = true ∧ choice.2 = .null) ∨
      ∃ entry ∈ given, choice = (s.names.idxOf entry.1, .str entry.2)

/-- An argument that is not given is left out, and is optional then. -/
lemma ChoicesOf.eq_null {choices : List (ℕ × Value)} {v w : Value} (h : s.ChoicesOf given choices)
    (hname : name ∈ s.names) (hnot : name ∉ given.map Prod.fst)
    (hmem : (s.names.idxOf name, v) ∈ choices ++ [(s.arguments.length, w)]) :
    s.isOptional (s.names.idxOf name) = true ∧ v = .null := by
  rcases List.mem_append.mp hmem with hmem | hmem
  · rcases h.2 _ hmem with hnull | ⟨entry, hentry, heq⟩
    · exact hnull
    · have hplace : s.names.idxOf name = s.names.idxOf entry.1 := (Prod.mk.inj heq).1
      rw [(List.idxOf_inj hname).mp hplace] at hnot
      exact absurd (List.mem_map_of_mem hentry) hnot
  · rw [List.mem_singleton, Prod.mk.injEq] at hmem
    obtain ⟨a, ha, -⟩ := exists_argument_of_mem_names hname
    have hlt := (List.getElem?_eq_some_iff.mp ha).1
    omega

/-- An argument is given in front of others, behind optional ones that are left out. -/
lemma ChoicesOf.cons {choices nulls : List (ℕ × Value)} (h : s.ChoicesOf given choices)
    (hnulls : ∀ choice ∈ nulls, s.isOptional choice.1 = true ∧ choice.2 = .null) :
    s.ChoicesOf ((name, value) :: given)
      (nulls ++ (s.names.idxOf name, .str value) :: choices) := by
  refine ⟨List.forall_mem_cons.mpr ⟨?_, fun entry hentry => ?_⟩, fun choice hchoice => ?_⟩
  · exact List.mem_append_right _ List.mem_cons_self
  · exact List.mem_append_right _ (List.mem_cons_of_mem _ (h.1 entry hentry))
  · rcases List.mem_append.mp hchoice with hmem | hmem
    · exact Or.inl (hnulls choice hmem)
    · rcases List.mem_cons.mp hmem with heq | hmem
      · exact Or.inr ⟨(name, value), List.mem_cons_self, heq⟩
      · rcases h.2 choice hmem with hnull | ⟨entry, hentry, heq⟩
        · exact Or.inl hnull
        · exact Or.inr ⟨entry, List.mem_cons_of_mem _ hentry, heq⟩

/-- Optional arguments may be left out behind those that are given. -/
lemma ChoicesOf.append {choices nulls : List (ℕ × Value)} (h : s.ChoicesOf given choices)
    (hnulls : ∀ choice ∈ nulls, s.isOptional choice.1 = true ∧ choice.2 = .null) :
    s.ChoicesOf given (choices ++ nulls) := by
  refine ⟨fun entry hentry => List.mem_append_left _ (h.1 entry hentry), fun choice hchoice => ?_⟩
  rcases List.mem_append.mp hchoice with hmem | hmem
  · exact h.2 choice hmem
  · exact Or.inl (hnulls choice hmem)

/-- Arguments none of which has been settled when its turn comes are read one after another. -/
lemma Plain.exists_schedule_of_written (hs : s.Plain) {chosen : Finset ℕ}
    {later : List (ℕ × Value)} (hdeclared : ∀ entry ∈ given, entry.1 ∈ s.names)
    (hahead : c.ahead = written given ++ rest)
    (hfresh : ∀ before t after, given.map (fun entry => s.names.idxOf entry.1)
      = before ++ t :: after → t ∉ before.foldl s.settleAt chosen)
    (h : Schedule s.entries
      ((given.map fun entry => s.names.idxOf entry.1).foldl s.settleAt chosen)
      (c.past (written given)) later c') :
    ∃ choices, Schedule s.entries chosen c (choices ++ later) c' ∧ s.ChoicesOf given choices := by
  -- the induction is on what is still to be read; the settled places grow with what has been
  induction given generalizing c chosen with
  | nil => exact ⟨[], h, List.forall_mem_nil _, List.forall_mem_nil _⟩
  | cons entry given ih =>
    obtain ⟨name, value⟩ := entry
    obtain ⟨hname, hdeclared⟩ := List.forall_mem_cons.mp hdeclared
    have hahead' : c.ahead = writtenOne name value ++ (written given ++ rest) := by
      rw [hahead, written, List.flatMap_cons, List.append_assoc]
      rfl
    have hlater := Cursor.ahead_past_of_eq hahead'
    have hfresh' : ∀ before t after, given.map (fun entry => s.names.idxOf entry.1)
        = before ++ t :: after →
        t ∉ before.foldl s.settleAt (s.settleAt chosen (s.names.idxOf name)) := by
      intro before t after heq
      apply hfresh (s.names.idxOf name :: before) t after
      rw [List.map_cons, heq]
      rfl
    have hrest : (c.past (writtenOne name value)).past (written given)
        = c.past (written ((name, value) :: given)) := by
      rw [Cursor.past_past]
      rfl
    rw [← hrest] at h
    obtain ⟨choices, hschedule, hchoices⟩ := ih hdeclared hlater hfresh' h
    obtain ⟨a, ha, -⟩ := exists_argument_of_mem_names hname
    -- this argument is read behind the optional ones that it settles
    obtain ⟨nulls, hstep, hnulls⟩ := exists_settle_step hs.orderly_kinds
      (List.getElem?_eq_some_iff.mp ha).1 (hfresh [] _ _ rfl)
      (fun k hk => hs.quiet_of_ne hname hahead' (Nat.ne_of_lt hk))
      (hs.accepts_writtenOne hname hahead') hschedule
    exact ⟨nulls ++ (s.names.idxOf name, .str value) :: choices, by rwa [List.append_assoc],
      hchoices.cons hnulls⟩

end Parlance.Command.Signature
