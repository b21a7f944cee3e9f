import Parlance.Proofs.Command.Account
import Parlance.Token.Number

/-!
# Only the last declarations count

Every step in the declaration of a command sets one thing: the argument of a name, or the mention. A
later step for the same thing replaces what was set, and an argument that is declared again moves to
the end. So a signature is determined by the last step for each target (`lastOnly`), in the order of
these last steps.

The closed form `ofDeclarations_eq` carries this. It is an induction on the steps: from any
signature on, the arguments that no step declares stay in front, and the last declarations follow.
-/

namespace Parlance.Command.Signature

open Parlance.Parser

namespace Declaration

/-- The argument that the step declares. -/
def argument? : Declaration → Option Argument
  | .argument a => some a
  | .mention _ => none
  | .config _ => none

/-- The mention that the step sets. -/
def mention? : Declaration → Option String
  | .argument _ => none
  | .mention text => some text
  | .config settings => some settings.mention

/-- What the step is about: the argument of a name, or else the mention. -/
def target (step : Declaration) : Option String := step.argument?.map Argument.name

end Declaration

variable {step : Declaration} {steps : List Declaration} {a : Argument} {s : Signature}
  {c c' : Cursor}

/-- A step declares an argument, or it sets a mention and nothing else. -/
lemma apply_cases (step : Declaration) :
    (∃ a, step = .argument a) ∨ ∃ text, step.argument? = none ∧ step.mention? = some text ∧
      ∀ s : Signature, s.apply step = s.withMention text := by
  cases step with
  | argument a => exact Or.inl ⟨a, rfl⟩
  | mention text => exact Or.inr ⟨text, rfl, rfl, fun _ => rfl⟩
  | config settings => exact Or.inr ⟨settings.mention, rfl, rfl, fun _ => rfl⟩

/-! ## Last steps -/

/-- The steps without those that a later one replaces. -/
def lastOnly : List Declaration → List Declaration
  | [] => []
  | step :: steps =>
    if ∀ later ∈ steps, later.target ≠ step.target then step :: lastOnly steps
    else lastOnly steps

lemma lastOnly_cons_of_last (h : ∀ later ∈ steps, later.target ≠ step.target) :
    lastOnly (step :: steps) = step :: lastOnly steps := if_pos h

lemma lastOnly_cons_of_not_last (h : ¬ ∀ later ∈ steps, later.target ≠ step.target) :
    lastOnly (step :: steps) = lastOnly steps := if_neg h

lemma lastOnly_subset_cons (step : Declaration) (steps : List Declaration) :
    lastOnly steps ⊆ lastOnly (step :: steps) := by
  by_cases hlast : ∀ later ∈ steps, later.target ≠ step.target
  · rw [lastOnly_cons_of_last hlast]
    exact List.subset_cons_self _ _
  · rw [lastOnly_cons_of_not_last hlast]
    exact List.Subset.refl _

/-- The steps that are left are those without a later one for the same target. -/
lemma mem_lastOnly_iff :
    step ∈ lastOnly steps ↔ ∃ before after, steps = before ++ step :: after ∧
      ∀ later ∈ after, later.target ≠ step.target := by
  induction steps with
  | nil => simp [lastOnly]
  | cons first steps ih =>
    constructor
    · intro h
      by_cases hmem : step ∈ lastOnly steps
      · obtain ⟨before, after, rfl, hafter⟩ := ih.mp hmem
        exact ⟨first :: before, after, rfl, hafter⟩
      · -- only the first step itself can be new
        by_cases hlast : ∀ later ∈ steps, later.target ≠ first.target
        · rw [lastOnly_cons_of_last hlast, List.mem_cons] at h
          obtain rfl := h.resolve_right hmem
          exact ⟨[], steps, rfl, hlast⟩
        · rw [lastOnly_cons_of_not_last hlast] at h
          exact absurd h hmem
    · intro ⟨before, after, heq, hafter⟩
      cases before with
      | nil =>
        obtain ⟨rfl, rfl⟩ := List.cons.inj heq
        rw [lastOnly_cons_of_last hafter]
        exact List.mem_cons_self
      | cons other before =>
        obtain ⟨rfl, rfl⟩ := List.cons.inj heq
        exact lastOnly_subset_cons _ _ (ih.mpr ⟨before, after, rfl, hafter⟩)

lemma lastOnly_subset (steps : List Declaration) : lastOnly steps ⊆ steps := by
  intro step h
  obtain ⟨before, after, rfl, -⟩ := mem_lastOnly_iff.mp h
  exact List.mem_append_right _ List.mem_cons_self

/-- For every step there is a last one about the same thing. -/
lemma exists_mem_lastOnly (h : step ∈ steps) :
    ∃ last ∈ lastOnly steps, last.target = step.target := by
  induction steps generalizing step with
  | nil => exact absurd h List.not_mem_nil
  | cons first steps ih =>
    have hlater : ∀ later ∈ steps, ∃ last ∈ lastOnly (first :: steps),
        last.target = later.target := by
      intro later hmem
      obtain ⟨last, hlast, htarget⟩ := ih hmem
      exact ⟨last, lastOnly_subset_cons _ _ hlast, htarget⟩
    rcases List.mem_cons.mp h with rfl | hmem
    · by_cases hlast : ∀ later ∈ steps, later.target ≠ step.target
      · exact ⟨step, by rw [lastOnly_cons_of_last hlast]; exact List.mem_cons_self, rfl⟩
      · simp only [not_forall, not_not] at hlast
        obtain ⟨later, hmem, htarget⟩ := hlast
        rw [← htarget]
        exact hlater later hmem
    · exact hlater step hmem

/-- Of last steps none is replaced. -/
lemma lastOnly_lastOnly (steps : List Declaration) :
    lastOnly (lastOnly steps) = lastOnly steps := by
  induction steps with
  | nil => rfl
  | cons step steps ih =>
    by_cases hlast : ∀ later ∈ steps, later.target ≠ step.target
    · have hlast' : ∀ later ∈ lastOnly steps, later.target ≠ step.target :=
        fun later hmem => hlast later (lastOnly_subset steps hmem)
      rw [lastOnly_cons_of_last hlast, lastOnly_cons_of_last hlast', ih]
    · rw [lastOnly_cons_of_not_last hlast, ih]

/-! ## Last declarations -/

/-- The arguments that are declared last for their names, in the order of these declarations. -/
def lastArguments (steps : List Declaration) : List Argument :=
  (lastOnly steps).filterMap Declaration.argument?

/-- The mention that is set last. -/
def lastMention (steps : List Declaration) : Option String :=
  (steps.filterMap Declaration.mention?).getLast?

/-- The steps declare the argument, and no other one of its name after it. -/
def DeclaredLast (steps : List Declaration) (a : Argument) : Prop :=
  ∃ before after, steps = before ++ .argument a :: after ∧
    ∀ later ∈ after, later.target ≠ some a.name

lemma mem_lastArguments_iff : a ∈ lastArguments steps ↔ DeclaredLast steps a := by
  have hargument : ∀ step : Declaration, step.argument? = some a ↔ step = .argument a := by
    intro step
    cases step <;> simp [Declaration.argument?]
  simp only [lastArguments, List.mem_filterMap, hargument, exists_eq_right]
  exact mem_lastOnly_iff

/-- The names of the last declarations are all names that are declared. -/
lemma exists_declaredLast_iff {name : String} :
    (∃ a, DeclaredLast steps a ∧ a.name = name) ↔ ∃ a, .argument a ∈ steps ∧ a.name = name := by
  constructor
  · intro ⟨a, ⟨before, after, heq, _⟩, hname⟩
    rw [heq]
    exact ⟨a, List.mem_append_right _ List.mem_cons_self, hname⟩
  · intro ⟨a, hmem, hname⟩
    obtain ⟨last, hlast, htarget⟩ := exists_mem_lastOnly hmem
    obtain ⟨b, hb, hnames⟩ := Option.map_eq_some_iff.mp htarget
    have hdeclared : b ∈ lastArguments steps := List.mem_filterMap.mpr ⟨last, hlast, hb⟩
    exact ⟨b, mem_lastArguments_iff.mp hdeclared, hnames.trans hname⟩

lemma lastArguments_argument_cons (a : Argument) (steps : List Declaration) :
    lastArguments (.argument a :: steps) =
      [a].filter (fun b => ∀ later ∈ steps, later.target ≠ some b.name)
        ++ lastArguments steps := by
  by_cases hlast : ∀ later ∈ steps, later.target ≠ some a.name
  · have hkept : lastOnly (.argument a :: steps) = .argument a :: lastOnly steps :=
      lastOnly_cons_of_last hlast
    rw [lastArguments, hkept, List.filter_cons_of_pos (by simpa using hlast)]
    rfl
  · have hdropped : lastOnly (.argument a :: steps) = lastOnly steps :=
      lastOnly_cons_of_not_last hlast
    rw [lastArguments, hdropped, List.filter_cons_of_neg (by simpa using hlast)]
    rfl

lemma lastArguments_cons_of_none (h : step.argument? = none) (steps : List Declaration) :
    lastArguments (step :: steps) = lastArguments steps := by
  unfold lastArguments
  by_cases hlast : ∀ later ∈ steps, later.target ≠ step.target
  · rw [lastOnly_cons_of_last hlast, List.filterMap_cons_none h]
  · rw [lastOnly_cons_of_not_last hlast]

lemma lastMention_argument_cons (a : Argument) (steps : List Declaration) :
    lastMention (.argument a :: steps) = lastMention steps := by
  rw [lastMention, List.filterMap_cons_none rfl, lastMention]

lemma lastMention_cons_of_some {text : String} (h : step.mention? = some text)
    (steps : List Declaration) :
    lastMention (step :: steps) = some ((lastMention steps).getD text) := by
  rw [lastMention, List.filterMap_cons_some h, List.getLast?_cons, lastMention]

lemma exists_lastMention_eq (h : step ∈ steps) (hargument : step.argument? = none) :
    ∃ text, lastMention steps = some text := by
  rcases apply_cases step with ⟨a, rfl⟩ | ⟨text, -, hmention, -⟩
  · cases hargument
  · have hmem : text ∈ steps.filterMap Declaration.mention? :=
      List.mem_filterMap.mpr ⟨step, h, hmention⟩
    exact ⟨_, List.getLast?_eq_some_getLast (List.ne_nil_of_mem hmem)⟩

lemma lastMention_lastOnly (steps : List Declaration) :
    lastMention (lastOnly steps) = lastMention steps := by
  induction steps with
  | nil => rfl
  | cons step steps ih =>
    rcases apply_cases step with ⟨a, rfl⟩ | ⟨text, hargument, hmention, -⟩
    · rw [lastMention_argument_cons, ← ih]
      by_cases hlast : ∀ later ∈ steps, later.target ≠ (Declaration.argument a).target
      · rw [lastOnly_cons_of_last hlast, lastMention_argument_cons]
      · rw [lastOnly_cons_of_not_last hlast]
    · rw [lastMention_cons_of_some hmention, ← ih]
      by_cases hlast : ∀ later ∈ steps, later.target ≠ step.target
      · rw [lastOnly_cons_of_last hlast, lastMention_cons_of_some hmention]
      · rw [lastOnly_cons_of_not_last hlast, ih]
        -- the later step sets a mention as well
        simp only [not_forall, not_not] at hlast
        obtain ⟨later, hmem, htarget⟩ := hlast
        rw [Declaration.target, Declaration.target, hargument, Option.map_none,
          Option.map_eq_none_iff] at htarget
        obtain ⟨last, hlast⟩ := exists_lastMention_eq hmem htarget
        rw [hlast]
        rfl

/-! ## The signature that is declared -/

/-- Arguments that no step declares stay in front, and the last declarations follow. -/
lemma arguments_foldl_apply (s : Signature) (steps : List Declaration) :
    (steps.foldl apply s).arguments =
      s.arguments.filter (fun a => ∀ step ∈ steps, step.target ≠ some a.name)
        ++ lastArguments steps := by
  induction steps generalizing s with
  | nil => simp [lastArguments, lastOnly]
  | cons step steps ih =>
    rw [List.foldl_cons, ih]
    rcases apply_cases step with ⟨a, rfl⟩ | ⟨text, hargument, -, happly⟩
    · rw [lastArguments_argument_cons, apply, declare, List.filter_append, List.filter_filter,
        List.append_assoc]
      congr 1
      refine List.filter_congr fun b _ => ?_
      rw [← Bool.decide_and, decide_eq_decide, List.forall_mem_cons]
      simp [Declaration.target, Declaration.argument?, and_comm, eq_comm]
    · have htarget : step.target = none := by rw [Declaration.target, hargument]; rfl
      rw [lastArguments_cons_of_none hargument, happly, withMention]
      simp [htarget]

lemma mention_foldl_apply (s : Signature) (steps : List Declaration) :
    (steps.foldl apply s).mention = (lastMention steps).getD s.mention := by
  induction steps generalizing s with
  | nil => rfl
  | cons step steps ih =>
    rw [List.foldl_cons, ih]
    rcases apply_cases step with ⟨a, rfl⟩ | ⟨text, -, hmention, happly⟩
    · rw [lastMention_argument_cons]
      rfl
    · rw [lastMention_cons_of_some hmention, happly]
      rfl

lemma aliases_foldl_apply (s : Signature) (steps : List Declaration) :
    (steps.foldl apply s).aliases = s.aliases := by
  induction steps generalizing s with
  | nil => rfl
  | cons step steps ih =>
    rw [List.foldl_cons, ih]
    cases step <;> rfl

/-- A signature has the arguments and the mention that are declared last. -/
theorem ofDeclarations_eq (aliases : List String) (steps : List Declaration) :
    ofDeclarations aliases steps =
      ⟨aliases, lastArguments steps, (lastMention steps).getD defaultMention⟩ := by
  have harguments : (ofDeclarations aliases steps).arguments = lastArguments steps :=
    arguments_foldl_apply (ofAliases aliases) steps
  have hmention : (ofDeclarations aliases steps).mention
      = (lastMention steps).getD defaultMention := mention_foldl_apply (ofAliases aliases) steps
  have haliases : (ofDeclarations aliases steps).aliases = aliases :=
    aliases_foldl_apply (ofAliases aliases) steps
  calc ofDeclarations aliases steps
      = ⟨(ofDeclarations aliases steps).aliases, (ofDeclarations aliases steps).arguments,
          (ofDeclarations aliases steps).mention⟩ := rfl
    _ = _ := by rw [haliases, harguments, hmention]

/-- Steps that a later one replaces make no difference. -/
theorem ofDeclarations_lastOnly (aliases : List String) (steps : List Declaration) :
    ofDeclarations aliases (lastOnly steps) = ofDeclarations aliases steps := by
  have harguments : lastArguments (lastOnly steps) = lastArguments steps := by
    rw [lastArguments, lastOnly_lastOnly, lastArguments]
  rw [ofDeclarations_eq, ofDeclarations_eq, harguments, lastMention_lastOnly]

/-! ## The values of a command -/

section Values

variable {command : Command}

lemma keys_of_accepts (hnames : s.names.Nodup) (h : s.parser.parse.Accepts c command c') :
    (command.arguments.map Prod.fst).Perm s.names := by
  obtain ⟨opening, c₁, label, c₂, values, -, -, hvalues, rfl⟩ := accepts_parser_iff.mp h
  have hlength := (source_of_accepts_unordered hvalues).1
  rw [length_entries] at hlength
  exact keys_assemble hlength hnames opening label

/-- Each argument has a value that its own parser read, and where all kinds are orderly, read it
from the text ahead. -/
lemma exists_value_of_accepts (hnames : s.names.Nodup)
    (h : s.parser.parse.Accepts c command c') (ha : a ∈ s.arguments) :
    ∃ v, command.get? a.name = some v ∧ (∃ d d', a.parser.parse.Accepts d v d') ∧
      ((∀ b ∈ s.arguments, b.kind.attempt.Orderly) →
        ∃ t u, t ++ u <+: c.ahead ∧ a.parser.parse.Accepts (c.past t) v (c.past (t ++ u))) := by
  obtain ⟨opening, c₁, label, c₂, values, hopening, hlabel, hvalues, rfl⟩ :=
    accepts_parser_iff.mp h
  obtain ⟨i, hi⟩ := List.mem_iff_getElem?.mp ha
  obtain ⟨hlength, hsource⟩ := source_of_accepts_unordered hvalues
  rw [length_entries] at hlength
  have hlt : i < values.length := by
    have hplace := (List.getElem?_eq_some_iff.mp hi).1
    omega
  have hv : values[i]? = some values[i] := List.getElem?_eq_getElem hlt
  have hread := hsource i _ hv
  rw [parseBranch_of_argument hi] at hread
  refine ⟨values[i], get?_assemble hlength hnames opening label hi hv, hread, fun hkinds => ?_⟩
  -- the entries begin behind the opening and the name
  obtain ⟨-, -, w₀, w₁, -, -, hc₂, hahead⟩ := exists_blanks_of_accepts_beginning hopening hlabel
  obtain ⟨t, u, ⟨rest, hrest⟩, hread⟩ :=
    exists_read_of_accepts_unordered (orderly_entries hkinds) hvalues hv
  rw [parseBranch_of_argument hi, hc₂, Cursor.past_past, Cursor.past_past,
    ← List.append_assoc] at hread
  exact ⟨_, u, ⟨rest, by rw [hahead, ← hrest]; simp only [List.append_assoc]⟩, hread⟩

end Values

/-- Only the last step for each name and the last one for the mention count. Without the others the
same arguments are required, those that were declared as required last, and every text is read with
the same outcome. A command that is read has a value for each name that was declared, and the value
was read by the parser that was declared last for this name; if all kinds are orderly, it was read
from the text itself. -/
theorem last_declarations_count (aliases : List String) (steps : List Declaration) :
    let s := ofDeclarations aliases steps
    let last := ofDeclarations aliases (lastOnly steps)
    last.required = s.required ∧
    s.required = ((lastArguments steps).filter Argument.required).map Argument.name ∧
    (∀ c, last.parser.parse c = s.parser.parse c) ∧
    ∀ c command c', s.parser.parse.Accepts c command c' →
      (command.arguments.map Prod.fst).Nodup ∧
      (∀ name, name ∈ command.arguments.map Prod.fst ↔
        ∃ a, .argument a ∈ steps ∧ a.name = name) ∧
      ∀ name v, (name, v) ∈ command.arguments → ∃ a, DeclaredLast steps a ∧ a.name = name ∧
        (∃ d d', a.parser.parse.Accepts d v d') ∧
        ((∀ b, DeclaredLast steps b → b.kind.attempt.Orderly) →
          ∃ t u, t ++ u <+: c.ahead ∧ a.parser.parse.Accepts (c.past t) v (c.past (t ++ u))) := by
  intro s last
  have hlast : last = s := ofDeclarations_lastOnly aliases steps
  have harguments : s.arguments = lastArguments steps := by
    rw [show s = _ from ofDeclarations_eq aliases steps]
  have hnames : s.names.Nodup := nodup_names_ofDeclarations aliases steps
  refine ⟨by rw [hlast], by rw [required, harguments], fun c => by rw [hlast], ?_⟩
  intro c command c' h
  have hkeys := keys_of_accepts hnames h
  have hnodup := hkeys.nodup_iff.mpr hnames
  have hdeclared : ∀ name, name ∈ command.arguments.map Prod.fst ↔
      ∃ a, DeclaredLast steps a ∧ a.name = name := by
    intro name
    rw [hkeys.mem_iff, names, harguments, List.mem_map]
    simp only [mem_lastArguments_iff]
  refine ⟨hnodup, fun name => (hdeclared name).trans exists_declaredLast_iff, ?_⟩
  intro name v hv
  obtain ⟨a, ha, rfl⟩ := (hdeclared name).mp (List.mem_map_of_mem hv)
  have hmem : a ∈ s.arguments := by
    rw [harguments]
    exact mem_lastArguments_iff.mpr ha
  obtain ⟨w, hw, hread, hahead⟩ := exists_value_of_accepts hnames h hmem
  obtain rfl : v = w := Option.some.inj ((lookup_eq_some_of_mem hnodup hv).symm.trans hw)
  refine ⟨a, ha, rfl, hread, fun horderly => hahead fun b hb => ?_⟩
  rw [harguments] at hb
  exact horderly b (mem_lastArguments_iff.mp hb)

/-- An argument that is declared again as required, with another kind, and a mention that is set
twice. -/
theorem last_declarations_count_roll :
    let steps : List Declaration :=
      [.argument (.string false "sides"), .mention "<@1>", .argument (.string true "user"),
        .argument ⟨"sides", true, Token.nat.convert .nat⟩, .config ⟨"<@99>"⟩]
    let s := ofDeclarations ["roll"] steps
    let message := "<@99> roll -sides 20 -user hm"
    let command : Command :=
      ⟨"<@99> ", "roll", [("sides", .nat 20), ("user", .str "hm")], ""⟩
    s.required = ["user", "sides"] ∧
      ∃ c, s.parser.parse.Accepts (.ofString message) command c ∧
        (ofDeclarations ["roll"] (lastOnly steps)).parser.parse.Accepts (.ofString message)
          command c := by
  intro steps s message command
  obtain ⟨-, hrequired, hparse, -⟩ := last_declarations_count ["roll"] steps
  have haccepts : s.parser.parse.Accepts (.ofString message) command
      ((Cursor.ofString message).past message.toList) :=
    ⟨0, by decide +kernel⟩
  refine ⟨hrequired.trans rfl, _, haccepts, ?_⟩
  rw [Parse.Accepts, hparse]
  exact haccepts

end Parlance.Command.Signature
