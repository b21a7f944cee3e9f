import Parlance.Proofs.Command.Written

/-!
# Which orders of arguments are understood

A command whose arguments are all strings is given some of them, each at most once, in any order and
with its value in quotes. What is read is the longest beginning of them in which no optional
argument comes after one that is declared behind it: at the first that does, the scan has left it
out already. From there on everything is text left over. The message is understood exactly if every
argument that has to be given is among those that are read (`reads_order`).
-/

namespace Parlance.Command.Signature

open Parlance.Parser

variable {s : Signature} {c c' : Cursor} {i : ℕ} {name label : String}
  {given : List (String × String)} {rest text : List Char}

/-! ## The cut -/

/-- Whether the `i`-th of the names given is optional and comes after one that is declared behind
it. -/
def isLate (s : Signature) (names : List String) (i : ℕ) : Bool :=
  (names[i]?).any fun name =>
    !s.required.contains name &&
      (names.take i).any fun earlier => decide (s.names.idxOf name < s.names.idxOf earlier)

/-- How many of the names given come before the first that is late. -/
def cut (s : Signature) (names : List String) : ℕ :=
  (List.range names.length).findIdx (s.isLate names)

/-- Text that may follow the arguments: nothing, or a space and something that is not taken for an
argument. -/
def FreeText (s : Signature) (text : List Char) : Prop :=
  text = [] ∨ ∃ rest, text = ' ' :: rest ∧ startsSolid rest = true ∧
    ∀ name ∈ s.names, firstWord rest ≠ '-' :: name.toList

/-- A name is late if its place has been settled by those before it. -/
lemma isLate_iff (hnames : s.names.Nodup) {names₁ names₂ : List String} (hname : name ∈ s.names) :
    s.isLate (names₁ ++ name :: names₂) names₁.length = true ↔
      s.isOptional (s.names.idxOf name) = true ∧
        ∃ earlier ∈ names₁, s.names.idxOf name < s.names.idxOf earlier := by
  have hget : (names₁ ++ name :: names₂)[names₁.length]? = some name := by
    rw [List.getElem?_append_right (Nat.le_refl _), Nat.sub_self]
    rfl
  rw [isLate, hget, List.take_left, isOptional_idxOf hnames hname]
  simp

/-- What comes before the cut is not late. -/
lemma isLate_eq_false_of_lt_cut {names : List String} (h : i < s.cut names) :
    s.isLate names i = false := by
  have hnot := List.not_of_lt_findIdx h
  rwa [List.getElem_range] at hnot

lemma isLate_cut {names : List String} (h : s.cut names < names.length) :
    s.isLate names (s.cut names) = true := by
  have hlt : (List.range names.length).findIdx (s.isLate names)
      < (List.range names.length).length := by
    rwa [List.length_range]
  have hlate := List.findIdx_getElem (w := hlt)
  rwa [List.getElem_range] at hlate

/-- The names given, split where the arguments are. -/
lemma map_fst_eq_of_eq {before after : List (String × String)} {entry : String × String}
    (h : given = before ++ entry :: after) :
    given.map Prod.fst = before.map Prod.fst ++ entry.1 :: after.map Prod.fst := by
  rw [h, List.map_append, List.map_cons]

/-- Before the cut no place has been settled when its turn comes. -/
lemma Plain.not_mem_settled_of_take_cut (hs : s.Plain)
    (hdeclared : ∀ entry ∈ given, entry.1 ∈ s.names) (hdistinct : (given.map Prod.fst).Nodup)
    {before after : List ℕ} {t : ℕ}
    (h : (given.take (s.cut (given.map Prod.fst))).map (fun entry => s.names.idxOf entry.1)
      = before ++ t :: after) : t ∉ before.foldl s.settleAt ∅ := by
  obtain ⟨given₁, given₂, htake, rfl, htail⟩ := List.map_eq_append_iff.mp h
  obtain ⟨entry, given₃, rfl, rfl, rfl⟩ := List.map_eq_cons_iff.mp htail
  have hgiven : given = given₁ ++ entry :: (given₃ ++ given.drop (s.cut (given.map Prod.fst))) := by
    rw [← List.cons_append, ← List.append_assoc, ← htake, List.take_append_drop]
  have hentry : entry.1 ∈ s.names := by
    apply hdeclared entry
    rw [hgiven]
    exact List.mem_append_right _ List.mem_cons_self
  rw [mem_foldl_settleAt_iff]
  intro hmem
  rcases hmem with hmem | hmem | ⟨hoptional, hlater⟩
  · exact absurd hmem (Finset.notMem_empty _)
  · -- the same name would have been given twice
    obtain ⟨other, hother, heq⟩ := List.mem_map.mp hmem
    have hname : entry.1 = other.1 := (List.idxOf_inj hentry).mp heq.symm
    rw [map_fst_eq_of_eq hgiven, List.nodup_append] at hdistinct
    exact hdistinct.2.2 other.1 (List.mem_map_of_mem hother) entry.1 List.mem_cons_self hname.symm
  · -- the argument would be late
    have hlength := congrArg List.length htake
    simp only [List.length_append, List.length_cons, List.length_take] at hlength
    have hlt : (given₁.map Prod.fst).length < s.cut (given.map Prod.fst) := by
      rw [List.length_map]
      omega
    have hnot := isLate_eq_false_of_lt_cut hlt
    have hlate : s.isLate (given.map Prod.fst) (given₁.map Prod.fst).length = true := by
      rw [map_fst_eq_of_eq hgiven, isLate_iff hs.distinct_names hentry]
      obtain ⟨place, hplace, hlt⟩ := hlater
      obtain ⟨earlier, hearlier, rfl⟩ := List.mem_map.mp hplace
      exact ⟨hoptional, earlier.1, List.mem_map_of_mem hearlier, hlt⟩
    rw [hnot] at hlate
    cases hlate

/-- The argument at the cut is late, so its place has been settled by those before it. -/
lemma Plain.mem_settled_of_drop_cut (hs : s.Plain)
    (hdeclared : ∀ entry ∈ given, entry.1 ∈ s.names) {entry : String × String}
    {later : List (String × String)}
    (hdrop : given.drop (s.cut (given.map Prod.fst)) = entry :: later) :
    s.names.idxOf entry.1 ∈ ((given.take (s.cut (given.map Prod.fst))).map
      fun entry => s.names.idxOf entry.1).foldl s.settleAt ∅ := by
  have hgiven : given = given.take (s.cut (given.map Prod.fst)) ++ entry :: later := by
    rw [← hdrop, List.take_append_drop]
  have hentry : entry.1 ∈ s.names := by
    apply hdeclared entry
    rw [hgiven]
    exact List.mem_append_right _ List.mem_cons_self
  have hlt : s.cut (given.map Prod.fst) < given.length := by
    by_contra hle
    rw [List.drop_eq_nil_of_le (Nat.le_of_not_lt hle)] at hdrop
    cases hdrop
  have hlength : ((given.take (s.cut (given.map Prod.fst))).map Prod.fst).length
      = s.cut (given.map Prod.fst) := by
    rw [List.length_map, List.length_take, Nat.min_eq_left hlt.le]
  have hlate : s.isLate (given.map Prod.fst) (s.cut (given.map Prod.fst)) = true :=
    isLate_cut (by rwa [List.length_map])
  -- the names given are split at the cut, as `isLate_iff` has them
  generalize s.cut (given.map Prod.fst) = j at hgiven hlength hlate ⊢
  have hlate' : s.isLate ((given.take j).map Prod.fst ++ entry.1 :: later.map Prod.fst)
      ((given.take j).map Prod.fst).length = true := by
    rwa [hlength, ← map_fst_eq_of_eq hgiven]
  obtain ⟨hoptional, name, hname, hlt⟩ := (isLate_iff hs.distinct_names hentry).mp hlate'
  obtain ⟨earlier, hearlier, rfl⟩ := List.mem_map.mp hname
  rw [mem_foldl_settleAt_iff]
  exact Or.inr (Or.inr ⟨hoptional, _, List.mem_map_of_mem hearlier, hlt⟩)

/-- No argument can be read where free text stands. -/
lemma Plain.quiet_of_freeText (hs : s.Plain) (htext : s.FreeText text) (hahead : c.ahead = text) :
    s.Quiet c i := by
  refine hs.quiet_of_firstWord_ne fun a ha => ?_
  have hname : a.name ∈ s.names := List.mem_map_of_mem (List.mem_of_getElem? ha)
  rw [hahead]
  rcases htext with rfl | ⟨rest, rfl, hsolid, hword⟩
  · exact (List.cons_ne_nil _ _).symm
  · -- the space in front does not change the first word
    have hrest : (' ' :: rest).dropWhile isBlank = rest :=
      dropWhile_isBlank_append blank_space (startsBlank_eq_false_of_startsSolid hsolid)
    have hrest' : rest.dropWhile isBlank = rest :=
      dropWhile_isBlank_append blank_nil (startsBlank_eq_false_of_startsSolid hsolid)
    have hfirst := hword a.name hname
    rw [firstWord, hrest'] at hfirst
    rwa [firstWord, hrest]

/-- At the cut nothing is flagged whose place has not been settled. -/
lemma Plain.quiet_at_cut (hs : s.Plain) (hdeclared : ∀ entry ∈ given, entry.1 ∈ s.names)
    (htext : s.FreeText text)
    (hahead : c.ahead = written (given.drop (s.cut (given.map Prod.fst))) ++ text) {k : ℕ}
    (hk : k ∉ ((given.take (s.cut (given.map Prod.fst))).map
      fun entry => s.names.idxOf entry.1).foldl s.settleAt ∅) : s.Quiet c k := by
  cases hdrop : given.drop (s.cut (given.map Prod.fst)) with
  | nil =>
    rw [hdrop] at hahead
    exact hs.quiet_of_freeText htext hahead
  | cons entry later =>
    have hsettled := hs.mem_settled_of_drop_cut hdeclared hdrop
    have hentry : entry ∈ given.drop (s.cut (given.map Prod.fst)) := by
      rw [hdrop]
      exact List.mem_cons_self
    rw [hdrop, written, List.flatMap_cons, List.append_assoc] at hahead
    refine hs.quiet_of_ne (hdeclared entry (List.mem_of_mem_drop hentry)) hahead fun heq => hk ?_
    rwa [heq]

/-- The schedule of a message: the arguments before the cut are read, and all text from there on is
left over. -/
lemma Plain.exists_schedule (hs : s.Plain) (hdeclared : ∀ entry ∈ given, entry.1 ∈ s.names)
    (hdistinct : (given.map Prod.fst).Nodup) (htext : s.FreeText text)
    (hahead : c.ahead = written given ++ text) :
    let j := s.cut (given.map Prod.fst)
    ∃ choices, Schedule s.entries ∅ c
        (choices ++ [(s.arguments.length,
          .str (String.ofList ((written (given.drop j) ++ text).dropWhile isBlank)))])
        (c.past c.ahead) ∧
      s.ChoicesOf (given.take j) choices := by
  intro j
  have hsplit : c.ahead = written (given.take j) ++ (written (given.drop j) ++ text) := by
    rw [hahead, ← List.append_assoc, written, written, written, ← List.flatMap_append,
      List.take_append_drop]
  have hcut := Cursor.ahead_past_of_eq hsplit
  have hbefore : ∀ entry ∈ given.take j, entry.1 ∈ s.names :=
    fun entry hentry => hdeclared entry (List.mem_of_mem_take hentry)
  -- the remainder has not been settled by the arguments
  have hnot : s.arguments.length ∉
      ((given.take j).map fun entry => s.names.idxOf entry.1).foldl s.settleAt ∅ := by
    rw [mem_foldl_settleAt_iff]
    intro hmem
    rcases hmem with hmem | hmem | ⟨hoptional, -⟩
    · exact absurd hmem (Finset.notMem_empty _)
    · obtain ⟨entry, hentry, heq⟩ := List.mem_map.mp hmem
      obtain ⟨a, ha, -⟩ := exists_argument_of_mem_names (hbefore entry hentry)
      have hlt := (List.getElem?_eq_some_iff.mp ha).1
      omega
    · exact absurd (lt_of_isOptional hoptional) (Nat.lt_irrefl _)
  obtain ⟨nulls, hfinish, hnulls⟩ := exists_finish hs.orderly_kinds hnot
    fun k _ hk => hs.quiet_at_cut hdeclared htext hcut hk
  rw [hcut, Cursor.past_past, ← hsplit] at hfinish
  obtain ⟨choices, hschedule, hchoices⟩ := hs.exists_schedule_of_written hbefore hsplit
    (fun _ _ _ h => hs.not_mem_settled_of_take_cut hdeclared hdistinct h) hfinish
  exact ⟨choices ++ nulls, by rwa [List.append_assoc], hchoices.append hnulls⟩

/-- The schedule settles all entries if every argument that has to be given is given. -/
lemma Plain.length_eq_iff (hs : s.Plain) (hdeclared : ∀ entry ∈ given, entry.1 ∈ s.names)
    {choices : List (ℕ × Value)} {w : Value}
    (h : Schedule s.entries ∅ c (choices ++ [(s.arguments.length, w)]) c')
    (hchoices : s.ChoicesOf given choices) :
    (choices ++ [(s.arguments.length, w)]).length = s.entries.length ↔
      s.required ⊆ given.map Prod.fst := by
  rw [h.length_eq_iff, length_entries]
  constructor
  · intro hall name hrequired
    have hname : name ∈ s.names := List.filter_sublist.map Argument.name |>.subset hrequired
    obtain ⟨a, ha, -⟩ := exists_argument_of_mem_names hname
    have hlt := (List.getElem?_eq_some_iff.mp ha).1
    obtain ⟨⟨k, v⟩, hmem, hk⟩ := List.mem_map.mp (hall _ (Nat.lt_succ_of_lt hlt))
    dsimp only at hk
    subst hk
    by_contra hnot
    have hoptional := (hchoices.eq_null hname hnot hmem).1
    rw [isOptional_idxOf hs.distinct_names hname, List.contains_iff_mem.mpr hrequired] at hoptional
    cases hoptional
  · intro hrequired i hi
    by_contra hnever
    have hfails := h.fails_of_not_mem (by rwa [length_entries]) (Finset.notMem_empty i) hnever
    rcases Nat.lt_succ_iff_lt_or_eq.mp hi with hlt | rfl
    · -- only an argument that has to be given fails, and then it has been read
      have ha : s.arguments[i]? = some s.arguments[i] := List.getElem?_eq_getElem hlt
      rw [parseBranch_of_argument ha] at hfails
      have hmem : s.arguments[i].name ∈ s.required :=
        List.mem_map_of_mem (List.mem_filter.mpr
          ⟨List.mem_of_getElem? ha, (Argument.fails_parser_iff.mp hfails).1⟩)
      obtain ⟨entry, hentry, hname⟩ := List.mem_map.mp (hrequired hmem)
      obtain ⟨b, hb, hname'⟩ := exists_argument_of_mem_names (hdeclared entry hentry)
      obtain rfl := eq_of_name_eq hs.distinct_names hb ha (hname'.trans hname)
      exact hnever (List.mem_map_of_mem (List.mem_append_left _ (hchoices.1 entry hentry)))
    · exact hnever (List.mem_map_of_mem (List.mem_append_right choices (List.mem_singleton_self _)))

/-- If every argument that has to be given is given, the entries are read, and the values given and
the text left over are found in the command. -/
lemma Plain.exists_values (hs : s.Plain) (hdeclared : ∀ entry ∈ given, entry.1 ∈ s.names)
    {choices : List (ℕ × Value)} {remaining : String}
    (h : Schedule s.entries ∅ c (choices ++ [(s.arguments.length, .str remaining)]) c')
    (hchoices : s.ChoicesOf given choices) (hrequired : s.required ⊆ given.map Prod.fst)
    (opening label : String) :
    ∃ values, (unordered s.entries).parse.Accepts c values c' ∧
      ((s.assemble opening label values).arguments.map Prod.fst).Perm s.names ∧
      (∀ entry ∈ given,
        (s.assemble opening label values).get? entry.1 = some (.str entry.2)) ∧
      (∀ name ∈ s.names, name ∉ given.map Prod.fst →
        (s.assemble opening label values).get? name = some .null) ∧
      (s.assemble opening label values).remaining = remaining := by
  have hcount := (hs.length_eq_iff hdeclared h hchoices).mpr hrequired
  have hrange : ∀ choice ∈ choices ++ [(s.arguments.length, .str remaining)],
      choice.1 < s.entries.length := fun choice hchoice => (h.mem_range choice hchoice).1
  obtain ⟨hlength, hvalues⟩ := (eq_inPlace_iff h.nodup_places hrange hcount).mp rfl
  refine ⟨_, (accepts_unordered_iff (orderly_entries hs.orderly_kinds)).mpr
    ⟨_, h, hcount, hlength, hvalues⟩, ?_⟩
  rw [length_entries] at hlength hvalues
  -- a value that was chosen for the place of a name is the value of that name
  have hget : ∀ name ∈ s.names, ∀ v, (s.names.idxOf name, v)
      ∈ choices ++ [(s.arguments.length, .str remaining)] →
      (s.assemble opening label (inPlace (s.arguments.length + 1)
        (choices ++ [(s.arguments.length, .str remaining)]))).get? name = some v := by
    intro name hname v hmem
    obtain ⟨a, ha, hname'⟩ := exists_argument_of_mem_names hname
    have hassemble := get?_assemble hlength hs.distinct_names opening label ha (hvalues _ hmem)
    rwa [hname'] at hassemble
  rw [length_entries]
  refine ⟨keys_assemble hlength hs.distinct_names opening label, ?_, ?_, ?_⟩
  · intro entry hentry
    exact hget entry.1 (hdeclared entry hentry) _
      (List.mem_append_left _ (hchoices.1 entry hentry))
  · intro name hname hnot
    obtain ⟨a, ha, -⟩ := exists_argument_of_mem_names hname
    have hlt : s.names.idxOf name < s.entries.length := by
      rw [length_entries]
      exact Nat.lt_succ_of_lt (List.getElem?_eq_some_iff.mp ha).1
    obtain ⟨v, hmem⟩ := exists_mem_of_length_eq h.nodup_places hrange hcount hlt
    obtain ⟨-, rfl⟩ := hchoices.eq_null hname hnot hmem
    exact hget name hname _ hmem
  · exact remaining_assemble hlength opening label
      (hvalues _ (List.mem_append_right _ (List.mem_singleton_self _)))

/-! ## Messages -/

lemma dropWhile_written (htext : s.FreeText text) (given : List (String × String)) :
    (written given ++ text).dropWhile isBlank = (written given ++ text).drop 1 := by
  have hspace : ∀ rest, startsBlank rest = false →
      (' ' :: rest).dropWhile isBlank = (' ' :: rest).drop 1 :=
    fun rest hrest => dropWhile_isBlank_append blank_space hrest
  cases given with
  | nil =>
    rcases htext with rfl | ⟨rest, rfl, hsolid, -⟩
    · rfl
    · exact hspace rest (startsBlank_eq_false_of_startsSolid hsolid)
  | cons entry given => exact hspace _ rfl

/-- A name of the command is read if it is the first of them that the text begins with. -/
lemma Plain.accepts_label (hs : s.Plain) (hahead : c.ahead = label.toList ++ rest)
    (hlabel : s.aliases.find? (fun name => name.toList.isPrefixOf (label.toList ++ rest))
      = some label) :
    (pick (s.aliases.map literal)).parse.Accepts c label (c.past label.toList) := by
  have hsolid : startsBlank c.ahead = false := by
    have hlabel' := hs.solid_aliases label (List.mem_of_find?_eq_some hlabel)
    rw [hahead]
    cases hcases : label.toList with
    | nil => simp [hcases, startsSolid] at hlabel'
    | cons x text => simpa [hcases, startsSolid, startsBlank] using hlabel'
  rw [accepts_pick_literals_iff fun text _ => approach_of_not_startsBlank _ hsolid, hahead]
  exact ⟨hlabel, rfl⟩

/-- Of the arguments given, those before the cut are read and the others are left in the text. If
all that have to be given are among them, the message is understood: these have the values given,
and all other arguments have none. If not, the message is rejected at its end. -/
theorem reads_order (hs : s.Plain) (hdeclared : ∀ entry ∈ given, entry.1 ∈ s.names)
    (hdistinct : (given.map Prod.fst).Nodup) (htext : s.FreeText text)
    (hlabel : s.aliases.find?
      (fun name => name.toList.isPrefixOf (label.toList ++ (written given ++ text)))
        = some label) :
    let names := given.map Prod.fst
    let j := s.cut names
    let message := "/" ++ label ++ String.ofList (written given ++ text)
    let stop := (Cursor.ofString message).past message.toList
    (s.required ⊆ names.take j →
      ∃ command, s.parser.parse.Accepts (.ofString message) command stop ∧
        command.opening = "/" ∧ command.label = label ∧
        (command.arguments.map Prod.fst).Perm s.names ∧
        (∀ entry ∈ given.take j, command.get? entry.1 = some (.str entry.2)) ∧
        (∀ name ∈ s.names, name ∉ names.take j → command.get? name = some .null) ∧
        command.remaining = String.ofList ((written (given.drop j) ++ text).drop 1)) ∧
    (¬ s.required ⊆ names.take j →
      s.parser.parse.Rejects (.ofString message)
        (stop.unexpectedSymbol "one of the remaining patterns") stop) := by
  intro names j message stop
  have hmessage : message.toList = ['/'] ++ (label.toList ++ (written given ++ text)) := by
    simp [message]
  -- the opening and the name
  have hahead : (Cursor.ofString message).ahead = _ := hmessage
  have hopening := accepts_opener_slash s.mention hahead
  have hahead₁ := Cursor.ahead_past_of_eq hahead
  have hname := hs.accepts_label hahead₁ hlabel
  have hahead₂ := Cursor.ahead_past_of_eq hahead₁
  -- the arguments and the remainder
  obtain ⟨choices, hschedule, hchoices⟩ := hs.exists_schedule hdeclared hdistinct htext hahead₂
  have hstop : stop = (((Cursor.ofString message).past ['/']).past label.toList).past
      (written given ++ text) := by
    rw [Cursor.past_past, Cursor.past_past, ← List.append_assoc, ← List.append_assoc,
      List.append_assoc, List.append_assoc, ← hmessage]
  rw [hahead₂, ← hstop, dropWhile_written htext] at hschedule
  have horderly := orderly_entries hs.orderly_kinds
  have hbefore : ∀ entry ∈ given.take j, entry.1 ∈ s.names :=
    fun entry hentry => hdeclared entry (List.mem_of_mem_take hentry)
  have hlength := hs.length_eq_iff hbefore hschedule hchoices
  rw [List.map_take] at hlength
  refine ⟨fun hrequired => ?_, fun hmissing => ?_⟩
  · have hrequired' : s.required ⊆ (given.take j).map Prod.fst := by rwa [List.map_take]
    obtain ⟨values, hvalues, hkeys, hgiven, hnull, hremaining⟩ :=
      hs.exists_values hbefore hschedule hchoices hrequired' "/" label
    rw [List.map_take] at hnull
    exact ⟨s.assemble "/" label values,
      accepts_parser_iff.mpr ⟨"/", _, label, _, values, hopening, hname, hvalues, rfl⟩,
      rfl, rfl, hkeys, hgiven, hnull, hremaining⟩
  · have hlt := Nat.lt_of_le_of_ne hschedule.length_le (mt hlength.mp hmissing)
    exact rejects_of_rejects_entries hopening hname ((rejects_unordered_iff horderly).mpr
      ⟨_, hschedule, hlt, rfl⟩)

/-- An optional argument that comes too late stays in the text, and one in quotes is read back. -/
theorem reads_order_ban :
    let s : Signature := ⟨["ban"], [.string false "reason", .string true "user"], defaultMention⟩
    let given := [("user", "a \"b\""), ("reason", "c")]
    let message := "/ban -user \"a \\\"b\\\"\" -reason \"c\" now"
    s.Plain ∧ (∀ entry ∈ given, entry.1 ∈ s.names) ∧ (given.map Prod.fst).Nodup ∧
      s.FreeText " now".toList ∧ s.cut (given.map Prod.fst) = 1 ∧
      ∃ command c, s.parser.parse.Accepts (.ofString message) command c ∧
        command.label = "ban" ∧ command.get? "user" = some (.str "a \"b\"") ∧
        command.get? "reason" = some .null ∧ command.remaining = "-reason \"c\" now" := by
  intro s given message
  have hsolid : (s.names.all fun name => name.toList.all fun x => !isBlank x) = true := by
    decide +kernel
  have hplain : s.Plain :=
    { solid_aliases := by decide +kernel
      string_kinds := by
        intro a ha
        rw [List.mem_cons, List.mem_singleton] at ha
        rcases ha with rfl | rfl <;> rfl
      distinct_names := by decide +kernel
      solid_names := by
        intro name hname x hx
        have hall := List.all_eq_true.mp hsolid name hname
        simpa using List.all_eq_true.mp hall x hx }
  have hdeclared : ∀ entry ∈ given, entry.1 ∈ s.names := by decide +kernel
  have hdistinct : (given.map Prod.fst).Nodup := by decide +kernel
  have htext : s.FreeText " now".toList := Or.inr ⟨"now".toList, rfl, rfl, by decide +kernel⟩
  have hcut : s.cut (given.map Prod.fst) = 1 := by decide +kernel
  have hfirst : s.aliases.find? (fun name => name.toList.isPrefixOf
      ("ban".toList ++ (written given ++ " now".toList))) = some "ban" := by decide +kernel
  have hmessage : message = "/" ++ "ban" ++ String.ofList (written given ++ " now".toList) := by
    decide +kernel
  obtain ⟨command, haccepts, -, hlabel, -, hgiven, hnull, hremaining⟩ :=
    (reads_order hplain hdeclared hdistinct htext hfirst).1 (by decide +kernel)
  rw [← hmessage] at haccepts
  refine ⟨hplain, hdeclared, hdistinct, htext, hcut, command, _, haccepts, hlabel, ?_, ?_, ?_⟩
  · exact hgiven ("user", "a \"b\"") (by decide +kernel)
  · exact hnull "reason" (by decide +kernel) (by decide +kernel)
  · rw [hremaining]
    decide +kernel

end Parlance.Command.Signature
