import Parlance.Proofs.Command.Signature

/-!
# Nothing is lost in a message

A command that is read accounts for its whole message: every symbol belongs to the opening, to the
name, to an argument that was given, to the text left over, or to the blanks between them.

The argument is an induction on the greedy schedule. Every choice but that of the remainder is an
argument that was given or an optional one that was left out and read nothing. The remainder takes
all the text, and it is tried last, when only arguments that have to be given are left. These fail
at the end of the text as well, so the remainder is the last choice.
-/

namespace Parlance.Command

open Parlance.Parser

/-! ## Arguments that were given -/

/-- An argument that was given: what stands in front of its flag, between the flag and its value,
and as its value, and the value that this is. -/
structure Given where
  argument : Argument
  lead : List Char
  gap : List Char
  body : List Char
  value : Value

namespace Given

/-- What stands in front of the value. -/
def front (g : Given) : List Char := Command.front g.argument.name g.lead g.gap

/-- The whole text of the argument. -/
def text (g : Given) : List Char := g.front ++ g.body

/-- From `c` on the arguments stand one after another. Each is some blanks, its flag, a gap, and a
text that its kind reads as its value. -/
def Read (c : Cursor) : List Given → Prop
  | [] => True
  | g :: given =>
    Blank g.lead ∧ Blank g.gap ∧ g.gap ≠ [] ∧
      g.argument.kind.parse.Accepts (c.past g.front) g.value (c.past g.text) ∧
      Read (c.past g.text) given

end Given

namespace Signature

variable {s : Signature} {chosen : Finset ℕ} {c c' : Cursor} {choices : List (ℕ × Value)}
  {given : List Given} {blanks remaining : List Char} {i : ℕ}

/-! ## Schedules -/

/-- What the choices of a schedule from `c` to `c'` are: `given` lists the arguments that were
given, and behind them come `blanks` and the text left over. -/
structure Reading (s : Signature) (chosen : Finset ℕ) (c : Cursor) (choices : List (ℕ × Value))
    (c' : Cursor) (given : List Given) (blanks remaining : List Char) : Prop where
  read : Given.Read c given
  ahead_eq : c.ahead = given.flatMap Given.text ++ (blanks ++ remaining)
  blank : Blank blanks
  solid : startsBlank remaining = false
  cursor_eq : c' = c.past c.ahead
  mem_remaining : (s.arguments.length, .str (String.ofList remaining)) ∈ choices
  mem_given : ∀ g ∈ given, ∃ i ∉ chosen, s.arguments[i]? = some g.argument ∧
    (i, g.value) ∈ choices
  nodup : (given.map fun g => g.argument.name).Nodup
  given_or_left_out : ∀ i a, s.arguments[i]? = some a → i ∉ chosen →
    a ∈ given.map Given.argument ∨ a.required = false ∧ (i, .null) ∈ choices

/-- An optional argument that is left out reads nothing. -/
lemma Reading.leave_out {a : Argument} (ha : s.arguments[i]? = some a)
    (hoptional : a.required = false)
    (h : Reading s (insert i chosen) c choices c' given blanks remaining) :
    Reading s chosen c ((i, .null) :: choices) c' given blanks remaining where
  read := h.read
  ahead_eq := h.ahead_eq
  blank := h.blank
  solid := h.solid
  cursor_eq := h.cursor_eq
  mem_remaining := List.mem_cons_of_mem _ h.mem_remaining
  mem_given g hg := by
    obtain ⟨k, hk, hargument, hmem⟩ := h.mem_given g hg
    exact ⟨k, fun hmem => hk (Finset.mem_insert_of_mem hmem), hargument,
      List.mem_cons_of_mem _ hmem⟩
  nodup := h.nodup
  given_or_left_out k b hb hk := by
    by_cases hki : k = i
    · subst hki
      obtain rfl : a = b := Option.some.inj (ha.symm.trans hb)
      exact Or.inr ⟨hoptional, List.mem_cons_self⟩
    · have hk' : k ∉ insert i chosen := by simp [Finset.mem_insert, hki, hk]
      rcases h.given_or_left_out k b hb hk' with hgiven | ⟨hrequired, hmem⟩
      · exact Or.inl hgiven
      · exact Or.inr ⟨hrequired, List.mem_cons_of_mem _ hmem⟩

/-- An argument that is given stands in front of those that are given later. -/
lemma Reading.give (hnames : s.names.Nodup) {g : Given} (hi : i ∉ chosen)
    (hargument : s.arguments[i]? = some g.argument) (hlead : Blank g.lead) (hgap : Blank g.gap)
    (hne : g.gap ≠ [])
    (hkind : g.argument.kind.parse.Accepts (c.past g.front) g.value (c.past g.text))
    (hbegins : g.text <+: c.ahead)
    (h : Reading s (insert i chosen) (c.past g.text) choices c' given blanks remaining) :
    Reading s chosen c ((i, g.value) :: choices) c' (g :: given) blanks remaining := by
  obtain ⟨rest, hrest⟩ := hbegins
  have hahead : (c.past g.text).ahead = rest := Cursor.ahead_past_of_eq hrest.symm
  refine ⟨⟨hlead, hgap, hne, hkind, h.read⟩, ?_, h.blank, h.solid, ?_,
    List.mem_cons_of_mem _ h.mem_remaining, ?_, ?_, ?_⟩
  · rw [List.flatMap_cons, List.append_assoc, ← h.ahead_eq, hahead, hrest]
  · rw [h.cursor_eq, Cursor.past_past, hahead, hrest]
  · refine List.forall_mem_cons.mpr ⟨⟨i, hi, hargument, List.mem_cons_self⟩, fun g' hg' => ?_⟩
    obtain ⟨k, hk, hargument', hmem⟩ := h.mem_given g' hg'
    exact ⟨k, fun hmem => hk (Finset.mem_insert_of_mem hmem), hargument',
      List.mem_cons_of_mem _ hmem⟩
  · refine List.nodup_cons.mpr ⟨fun hmem => ?_, h.nodup⟩
    -- a later argument of the same name would have the same place, which is taken
    obtain ⟨g', hg', hname⟩ := List.mem_map.mp hmem
    obtain ⟨k, hk, hargument', -⟩ := h.mem_given g' hg'
    obtain rfl := eq_of_name_eq hnames hargument' hargument hname
    exact hk (Finset.mem_insert_self k chosen)
  · intro k b hb hk
    by_cases hki : k = i
    · subst hki
      obtain rfl : g.argument = b := Option.some.inj (hargument.symm.trans hb)
      exact Or.inl List.mem_cons_self
    · have hk' : k ∉ insert i chosen := by simp [Finset.mem_insert, hki, hk]
      rcases h.given_or_left_out k b hb hk' with hgiven | ⟨hrequired, hmem⟩
      · exact Or.inl (List.mem_cons_of_mem _ hgiven)
      · exact Or.inr ⟨hrequired, List.mem_cons_of_mem _ hmem⟩

/-- At the end of the text no argument succeeds that has to be given. -/
lemma fails_at_end {a : Argument} (hrequired : a.required = true) (hahead : c.ahead = []) :
    a.parser.parse.Fails c := by
  refine Argument.fails_parser_iff.mpr ⟨hrequired, fails_positional fun lead gap body => ?_⟩
  rw [hahead]
  exact not_flagged_nil

/-- The remainder is the last choice, and all arguments are settled before it. -/
lemma reading_of_remainder
    (hbefore : ∀ k < s.arguments.length, k ∉ chosen → (parseBranch s.entries k).Fails c)
    {v : Value} {c₁ : Cursor}
    (hremainder : (parseBranch s.entries s.arguments.length).Accepts c v c₁)
    (hrest : Schedule s.entries (insert s.arguments.length chosen) c₁ choices c')
    (hall : ∀ k ≤ s.arguments.length, k ∉ chosen →
      ∃ w, (k, w) ∈ (s.arguments.length, v) :: choices) :
    ∃ blanks remaining, Reading s chosen c ((s.arguments.length, v) :: choices) c' [] blanks
      remaining := by
  rw [parseBranch_remainder] at hremainder
  obtain ⟨rfl, rfl⟩ := hremainder.unique (accepts_remainder c)
  have hend : (c.past c.ahead).ahead = [] := ahead_past_ahead c
  cases hrest with
  | stop =>
    refine ⟨c.ahead.takeWhile isBlank, c.ahead.dropWhile isBlank, ⟨trivial, ?_, blank_takeWhile _,
      startsBlank_dropWhile _, rfl, List.mem_cons_self, List.forall_mem_nil _, List.nodup_nil, ?_⟩⟩
    · exact List.takeWhile_append_dropWhile.symm
    · intro k a ha hk
      have hlt : k < s.arguments.length := (List.getElem?_eq_some_iff.mp ha).1
      obtain ⟨w, hmem⟩ := hall k (Nat.le_of_lt hlt) hk
      rw [List.mem_singleton, Prod.mk.injEq] at hmem
      omega
  | @choose _ _ _ _ k w _ hk _ haccepts _ =>
    -- what failed before the remainder has to be given, and fails again
    rw [Finset.mem_insert, not_or] at hk
    have hlt : k < s.arguments.length := by
      have hle := lt_of_accepts_parseBranch haccepts
      rw [length_entries] at hle
      omega
    have ha : s.arguments[k]? = some s.arguments[k] := List.getElem?_eq_getElem hlt
    have hfails := hbefore k hlt hk.2
    rw [parseBranch_of_argument ha] at hfails haccepts
    have hrequired := (Argument.fails_parser_iff.mp hfails).1
    exact absurd (fails_at_end hrequired hend) haccepts.not_fails

/-- An argument that is chosen is one that was given, or an optional one that was left out. -/
lemma exists_reading_of_argument (hnames : s.names.Nodup) {a : Argument} {v : Value} {c₁ : Cursor}
    (ha : s.arguments[i]? = some a) (hkind : a.kind.attempt.Orderly) (hi : i ∉ chosen)
    (haccepts : a.parser.parse.Accepts c v c₁)
    (h : Reading s (insert i chosen) c₁ choices c' given blanks remaining) :
    ∃ given, Reading s chosen c ((i, v) :: choices) c' given blanks remaining := by
  rcases (Argument.accepts_parser_iff hkind).mp haccepts with haccepts | ⟨hoptional, rfl, rfl, -⟩
  · obtain ⟨lead, gap, body, hflagged⟩ := exists_flagged_of_accepts_positional haccepts
    have hvalue := (hflagged.parse_positional_eq.1 _ _).mp haccepts
    -- the value takes some of the text behind the gap
    obtain ⟨t, ⟨rest, hbody⟩, rfl⟩ :=
      (Parse.hereditary_orderly.parse hkind).exists_past_of_accepts hvalue
    rw [Cursor.ahead_past_of_eq hflagged.text_eq] at hbody
    rw [Cursor.past_past] at hvalue h
    have hbegins : front a.name lead gap ++ t <+: c.ahead :=
      ⟨rest, by rw [hflagged.text_eq, ← hbody, List.append_assoc]⟩
    exact ⟨⟨a, lead, gap, t, v⟩ :: given,
      Reading.give (g := ⟨a, lead, gap, t, v⟩) hnames hi ha hflagged.blank_lead
        hflagged.blank_gap hflagged.gap_ne_nil hvalue hbegins h⟩
  · exact ⟨given, h.leave_out ha hoptional⟩

/-- A schedule that settles all entries reads the text to its end. -/
theorem exists_reading (hkinds : ∀ a ∈ s.arguments, a.kind.attempt.Orderly)
    (hnames : s.names.Nodup) (h : Schedule s.entries chosen c choices c')
    (hnot : s.arguments.length ∉ chosen)
    (hall : ∀ k ≤ s.arguments.length, k ∉ chosen → ∃ w, (k, w) ∈ choices) :
    ∃ given blanks remaining, Reading s chosen c choices c' given blanks remaining := by
  -- the invariant: all places that have not been chosen so far are among the choices to come
  induction h with
  | stop =>
    obtain ⟨w, hmem⟩ := hall _ (Nat.le_refl _) hnot
    exact absurd hmem List.not_mem_nil
  | @choose chosen c c₁ c' i v choices hi hbefore haccepts hrest ih =>
    have hle : i < s.arguments.length + 1 := by
      rw [← length_entries]
      exact lt_of_accepts_parseBranch haccepts
    -- the choice is an argument, or it is the remainder
    rcases Nat.lt_succ_iff_lt_or_eq.mp hle with hlt | rfl
    · have hnot' : s.arguments.length ∉ insert i chosen := by
        rw [Finset.mem_insert, not_or]
        exact ⟨by omega, hnot⟩
      have hall' : ∀ k ≤ s.arguments.length, k ∉ insert i chosen → ∃ w, (k, w) ∈ choices := by
        intro k hk hmem
        rw [Finset.mem_insert, not_or] at hmem
        obtain ⟨w, hw⟩ := hall k hk hmem.2
        rcases List.mem_cons.mp hw with heq | hw
        · exact absurd (Prod.mk.inj heq).1 hmem.1
        · exact ⟨w, hw⟩
      obtain ⟨given, blanks, remaining, hreading⟩ := ih hnot' hall'
      have ha : s.arguments[i]? = some s.arguments[i] := List.getElem?_eq_getElem hlt
      rw [parseBranch_of_argument ha] at haccepts
      obtain ⟨given', hreading'⟩ := exists_reading_of_argument hnames ha
        (hkinds _ (List.mem_of_getElem? ha)) hi haccepts hreading
      exact ⟨given', blanks, remaining, hreading'⟩
    · obtain ⟨blanks, remaining, hreading⟩ :=
        reading_of_remainder hbefore haccepts hrest hall
      exact ⟨[], blanks, remaining, hreading⟩

/-- Entries that are read give such a reading, and the value of each choice at its place. -/
lemma exists_reading_of_accepts_entries (hkinds : ∀ a ∈ s.arguments, a.kind.attempt.Orderly)
    (hnames : s.names.Nodup) {values : List Value}
    (h : (unordered s.entries).parse.Accepts c values c') :
    values.length = s.arguments.length + 1 ∧
      ∃ choices given blanks remaining, Reading s ∅ c choices c' given blanks remaining ∧
        ∀ choice ∈ choices, values[choice.1]? = some choice.2 := by
  obtain ⟨choices, hschedule, hcount, hlength, hvalue⟩ :=
    (accepts_unordered_iff (orderly_entries hkinds)).mp h
  rw [length_entries] at hcount hlength
  have hrange : ∀ choice ∈ choices, choice.1 < s.arguments.length + 1 := by
    intro choice hchoice
    rw [← length_entries]
    exact (hschedule.mem_range choice hchoice).1
  have hall : ∀ k ≤ s.arguments.length, k ∉ (∅ : Finset ℕ) → ∃ w, (k, w) ∈ choices :=
    fun k hk _ => exists_mem_of_length_eq hschedule.nodup_places hrange hcount
      (Nat.lt_succ_of_le hk)
  obtain ⟨given, blanks, remaining, hreading⟩ :=
    exists_reading hkinds hnames hschedule (Finset.notMem_empty _) hall
  exact ⟨hlength, choices, given, blanks, remaining, hreading, hvalue⟩

/-! ## Messages -/

/-- In front of the entries stand the opening and the name, each perhaps after blanks. -/
lemma exists_blanks_of_accepts_beginning {opening label : String} {c₁ c₂ : Cursor}
    (hparse₀ : (opener s.mention).parse.Accepts c opening c₁)
    (hparse₁ : (pick (s.aliases.map literal)).parse.Accepts c₁ label c₂) :
    opening ∈ ["/", "$", s.mention, s.mention ++ " "] ∧ label ∈ s.aliases ∧
      ∃ w₀ w₁, Blank w₀ ∧ Blank w₁ ∧
        c₂ = c.past (w₀ ++ opening.toList ++ w₁ ++ label.toList) ∧
        c.ahead = w₀ ++ opening.toList ++ w₁ ++ label.toList ++ c₂.ahead := by
  obtain ⟨hopening, w₀, hw₀, ⟨rest₀, hrest₀⟩, rfl⟩ := exists_blank_of_accepts_opener hparse₀
  obtain ⟨hlabel, w₁, hw₁, ⟨rest₁, hrest₁⟩, rfl⟩ := exists_blank_of_accepts_label hparse₁
  have hahead₂ := Cursor.ahead_past_of_eq hrest₁.symm
  rw [Cursor.ahead_past_of_eq hrest₀.symm] at hrest₁
  refine ⟨hopening, hlabel, w₀, w₁, hw₀, hw₁, ?_, ?_⟩
  · rw [Cursor.past_past, ← List.append_assoc]
  · rw [hahead₂, ← hrest₀, ← hrest₁]
    simp only [List.append_assoc]

/-- `command` accounts for all of `message`, read by `s`: the arguments that were given are `given`,
and `w₀`, `w₁` and `w₂` are the blanks in front of the opening, of the name, and of the text left
over. -/
structure Accounts (s : Signature) (message : String) (command : Command)
    (w₀ w₁ w₂ : List Char) (given : List Given) : Prop where
  message_eq : message.toList = w₀ ++ command.opening.toList ++ w₁ ++ command.label.toList
    ++ given.flatMap Given.text ++ w₂ ++ command.remaining.toList
  blank_before_opening : Blank w₀
  blank_before_label : Blank w₁
  blank_before_remaining : Blank w₂
  opening_mem : command.opening ∈ ["/", "$", s.mention, s.mention ++ " "]
  label_mem : command.label ∈ s.aliases
  /-- Each argument was read where it stands. -/
  read : Given.Read ((Cursor.ofString message).past
    (w₀ ++ command.opening.toList ++ w₁ ++ command.label.toList)) given
  declared : ∀ g ∈ given, g.argument ∈ s.arguments
  distinct : (given.map fun g => g.argument.name).Nodup
  value : ∀ g ∈ given, command.get? g.argument.name = some g.value
  required : ∀ a ∈ s.arguments, a.required = true → a ∈ given.map Given.argument
  left_out : ∀ a ∈ s.arguments, a ∉ given.map Given.argument →
    a.required = false ∧ command.get? a.name = some .null
  names : (command.arguments.map Prod.fst).Perm s.names
  remaining_solid : startsBlank command.remaining.toList = false

/-- The reading of the entries, behind the opening and the name, accounts for the message. -/
lemma accounts_of_reading (hnames : s.names.Nodup) {message opening label : String}
    {values : List Value} {w₀ w₁ w₂ : List Char}
    (hopening : opening ∈ ["/", "$", s.mention, s.mention ++ " "]) (hlabel : label ∈ s.aliases)
    (hw₀ : Blank w₀) (hw₁ : Blank w₁)
    (hc : c = (Cursor.ofString message).past
      (w₀ ++ opening.toList ++ w₁ ++ label.toList))
    (hahead : message.toList = w₀ ++ opening.toList ++ w₁ ++ label.toList ++ c.ahead)
    (hlength : values.length = s.arguments.length + 1)
    (hreading : Reading s ∅ c choices c' given w₂ remaining)
    (hvalue : ∀ choice ∈ choices, values[choice.1]? = some choice.2) :
    s.Accounts message (s.assemble opening label values) w₀ w₁ w₂ given := by
  have hget : ∀ i a v, s.arguments[i]? = some a → (i, v) ∈ choices →
      (s.assemble opening label values).get? a.name = some v :=
    fun i a v ha hv => get?_assemble hlength hnames opening label ha (hvalue (i, v) hv)
  have hremaining := remaining_assemble hlength opening label (hvalue _ hreading.mem_remaining)
  refine
    { message_eq := ?_
      blank_before_opening := hw₀
      blank_before_label := hw₁
      blank_before_remaining := hreading.blank
      opening_mem := hopening
      label_mem := hlabel
      read := by subst hc; exact hreading.read
      declared := ?_
      distinct := hreading.nodup
      value := ?_
      required := ?_
      left_out := ?_
      names := keys_assemble hlength hnames opening label
      remaining_solid := ?_ }
  · rw [hremaining, String.toList_ofList, hahead, hreading.ahead_eq]
    simp only [assemble, List.append_assoc]
  · intro g hg
    obtain ⟨i, -, hargument, -⟩ := hreading.mem_given g hg
    exact List.mem_of_getElem? hargument
  · intro g hg
    obtain ⟨i, -, hargument, hmem⟩ := hreading.mem_given g hg
    exact hget i _ _ hargument hmem
  · intro a ha hrequired
    obtain ⟨i, hi⟩ := List.mem_iff_getElem?.mp ha
    rcases hreading.given_or_left_out i a hi (Finset.notMem_empty _) with hgiven | ⟨hoptional, -⟩
    · exact hgiven
    · rw [hrequired] at hoptional
      cases hoptional
  · intro a ha hnot
    obtain ⟨i, hi⟩ := List.mem_iff_getElem?.mp ha
    rcases hreading.given_or_left_out i a hi (Finset.notMem_empty _) with hgiven | hleft
    · exact absurd hgiven hnot
    · exact ⟨hleft.1, hget i a _ hi hleft.2⟩
  · rw [hremaining, String.toList_ofList]
    exact hreading.solid

/-- Whatever arguments a command declares, of whatever kinds, what it reads from a message accounts
for the whole message, and the message is read to its end. -/
theorem accounts_of_accepts (aliases : List String) (steps : List Declaration)
    (hkinds : ∀ a ∈ (ofDeclarations aliases steps).arguments,
      ∃ (rules : Rules) (g : Grammar), a.kind = g.parser rules)
    {message : String} {command : Command} {c : Cursor}
    (h : (ofDeclarations aliases steps).parser.parse.Accepts (.ofString message) command c) :
    c.isAtEnd = true ∧
      ∃ w₀ w₁ w₂ given, (ofDeclarations aliases steps).Accounts message command w₀ w₁ w₂ given := by
  have hnames := nodup_names_ofDeclarations aliases steps
  generalize ofDeclarations aliases steps = s at hkinds hnames h
  have horderly : ∀ a ∈ s.arguments, a.kind.attempt.Orderly := by
    intro a ha
    obtain ⟨rules, g, hg⟩ := hkinds a ha
    rw [hg]
    exact g.orderly_attempt rules
  obtain ⟨opening, c₁, label, c₂, values, hparse₀, hparse₁, hvalues, rfl⟩ :=
    accepts_parser_iff.mp h
  obtain ⟨hopening, hlabel, w₀, w₁, hw₀, hw₁, hc₂, hahead⟩ :=
    exists_blanks_of_accepts_beginning hparse₀ hparse₁
  obtain ⟨hlength, choices, given, w₂, remaining, hreading, hvalue⟩ :=
    exists_reading_of_accepts_entries horderly hnames hvalues
  have hend : c.isAtEnd = true := by
    rw [hreading.cursor_eq]
    exact List.isEmpty_iff.mpr (ahead_past_ahead _)
  exact ⟨hend, w₀, w₁, w₂, given, accounts_of_reading hnames hopening hlabel hw₀ hw₁ hc₂ hahead
    hlength hreading hvalue⟩

lemma kind_string_eq (rules : Rules) (required : Bool) (name : String) :
    (Argument.string required name).kind = (Grammar.token .string).parser rules := by
  rw [Grammar.parser, Grammar.parserWith]
  rfl

/-- A message with a required argument, without the optional one, and with text left over that looks
like it. -/
theorem accounts_of_accepts_ping :
    let s := ofDeclarations ["ping"]
      [.argument (.string false "reason"), .argument (.string true "user")]
    let message := " /ping -user hm -reason x"
    let command : Command :=
      ⟨"/", "ping", [("reason", .null), ("user", .str "hm")], "-reason x"⟩
    (∀ a ∈ s.arguments, ∃ (rules : Rules) (g : Grammar), a.kind = g.parser rules) ∧
      ∃ c, s.parser.parse.Accepts (.ofString message) command c ∧ c.isAtEnd = true ∧
        ∃ w₀ w₁ w₂ given, s.Accounts message command w₀ w₁ w₂ given := by
  intro s message command
  have hkinds : ∀ a ∈ s.arguments, ∃ (rules : Rules) (g : Grammar), a.kind = g.parser rules := by
    intro a ha
    have harguments : s.arguments = [.string false "reason", .string true "user"] := rfl
    rw [harguments, List.mem_cons, List.mem_singleton] at ha
    rcases ha with rfl | rfl
    · exact ⟨[], _, kind_string_eq [] false "reason"⟩
    · exact ⟨[], _, kind_string_eq [] true "user"⟩
  have haccepts : s.parser.parse.Accepts (.ofString message) command
      ((Cursor.ofString message).past message.toList) :=
    ⟨0, by decide +kernel⟩
  exact ⟨hkinds, _, haccepts, accounts_of_accepts ["ping"] _ hkinds haccepts⟩

end Signature

end Parlance.Command
