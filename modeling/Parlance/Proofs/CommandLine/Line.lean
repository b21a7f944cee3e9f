import Parlance.CommandLine.Run
import Parlance.Proofs.Command.Declaration
import Parlance.Proofs.Json

/-!
# What is printed for a command

A command is printed on one line. In JSON all texts are escaped. For a reader the values and the
text left over are quoted, but the opening, the name and the names of the arguments stand as they
are. So they must not hold a newline themselves, and where they come from is what the options
declare (`Options.exists_of_mem_arguments`).
-/

namespace Parlance

/-! ## Quoted texts -/

namespace Text

lemma newline_not_mem_enclosed {opening text closing : String} (hopening : '\n' ∉ opening.toList)
    (htext : '\n' ∉ text.toList) (hclosing : '\n' ∉ closing.toList) :
    '\n' ∉ (opening ++ text ++ closing).toList := by
  simp only [String.toList_append, List.mem_append, not_or]
  exact ⟨⟨hopening, htext⟩, hclosing⟩

lemma newline_not_mem_toDigits (n : ℕ) : '\n' ∉ Nat.toDigits 16 n := by
  have hdigit : ∀ d < 16, '\n' ≠ Nat.digitChar d := by decide
  -- the induction is on the number without its last digit
  induction n using Nat.strong_induction_on with
  | _ n ih =>
    by_cases hn : n < 16
    · rw [Nat.toDigits_of_lt_base hn, List.mem_singleton]
      exact hdigit n hn
    · rw [Nat.toDigits_of_base_le (by omega) (by omega), List.mem_append, List.mem_singleton,
        not_or]
      exact ⟨ih (n / 16) (by omega), hdigit (n % 16) (by omega)⟩

lemma newline_not_mem_codePoint (x : Char) : '\n' ∉ (codePoint x).toList := by
  refine newline_not_mem_enclosed (by decide) ?_ (by decide)
  rw [String.toList_ofList]
  exact newline_not_mem_toDigits _

variable {mark : Char}

lemma newline_not_mem_escapeSymbol (hmark : '\n' ≠ mark) (x : Char) :
    '\n' ∉ (escapeSymbol mark x).toList := by
  by_cases hnewline : x = '\n'
  · rw [hnewline]
    show '\n' ∉ ("\\n" : String).toList
    decide
  · have hitself : '\n' ∉ (String.singleton x).toList := by simp [Ne.symm hnewline]
    have hescaped : '\n' ∉ (String.ofList ['\\', mark]).toList := by
      rw [String.toList_ofList]
      simp [hmark]
    unfold escapeSymbol
    split_ifs
    all_goals first | decide | exact hescaped | exact hitself | exact newline_not_mem_codePoint x

lemma newline_not_mem_quote (text : String) : '\n' ∉ (quote text).toList := by
  refine newline_not_mem_enclosed (by decide) ?_ (by decide)
  rw [String.toList_join]
  simp [newline_not_mem_escapeSymbol]

lemma newline_not_mem_quoteSymbol (x : Char) : '\n' ∉ (quoteSymbol x).toList :=
  newline_not_mem_enclosed (by decide) (newline_not_mem_escapeSymbol (by decide) x) (by decide)

end Text

/-! ## Values for a reader -/

lemma Mention.newline_not_mem_describe (m : Mention) : '\n' ∉ m.describe.toList := by
  have hkind : '\n' ∉ m.kind.describe.toList := by cases m.kind <;> decide
  have hid := Json.newline_not_mem_toString_nat m.id
  refine Text.newline_not_mem_enclosed ?_ hid (by decide)
  simp only [String.toList_append, List.mem_append, not_or]
  exact ⟨⟨by decide, hkind⟩, by decide⟩

namespace Value

mutual

/-- A value is described on one line. -/
theorem newline_not_mem_describe : ∀ v : Value, '\n' ∉ v.describe.toList
  | .null => by
    rw [describe]
    decide
  | .str text => by
    rw [describe]
    exact Text.newline_not_mem_enclosed (by decide) (Text.newline_not_mem_quote text) (by decide)
  | .int n => by
    rw [describe]
    exact Text.newline_not_mem_enclosed (by decide) (Json.newline_not_mem_toString n) (by decide)
  | .nat n => by
    rw [describe]
    exact Text.newline_not_mem_enclosed (by decide) (Json.newline_not_mem_toString_nat n)
      (by decide)
  | .char c => by
    rw [describe]
    exact Text.newline_not_mem_enclosed (by decide) (Text.newline_not_mem_quoteSymbol c) (by decide)
  | .mention m => by
    rw [describe]
    exact Text.newline_not_mem_enclosed (by decide) m.newline_not_mem_describe (by decide)
  | .list items => by
    rw [describe]
    refine Text.newline_not_mem_enclosed (by decide) ?_ (by decide)
    rw [String.toList_intercalate]
    exact Json.not_mem_intercalate (by decide)
      (List.forall_mem_map.mpr (newline_not_mem_describeItems items))

theorem newline_not_mem_describeItems :
    ∀ items : List Value, ∀ text ∈ describeItems items, '\n' ∉ text.toList
  | [] => List.forall_mem_nil _
  | item :: items => by
    rw [describeItems]
    exact List.forall_mem_cons.mpr
      ⟨newline_not_mem_describe item, newline_not_mem_describeItems items⟩

end

end Value

namespace CommandLine

open Command Command.Signature

variable {o : Options} {environment : Option String}

/-! ## The signature that the options declare -/

/-- The mention in force: the one that the options set, or else the one from the environment. -/
def Options.mentionFor (o : Options) (environment : Option String) : String :=
  (o.mention <|> environment).getD defaultMention

namespace Options

lemma aliases_signature (o : Options) (environment : Option String) :
    (o.signature environment).aliases = o.aliases := by
  rw [signature, ofDeclarations_eq]

lemma lastMention_arguments (arguments : List Argument) :
    lastMention (arguments.map .argument) = none := by
  induction arguments with
  | nil => rfl
  | cons a arguments ih => rw [List.map_cons, lastMention_argument_cons, ih]

lemma mention_signature (o : Options) (environment : Option String) :
    (o.signature environment).mention = o.mentionFor environment := by
  rw [signature, ofDeclarations_eq, lastMention_cons_of_some rfl, lastMention_arguments]
  rfl

/-- All arguments are strings, and their names are among those that the options give. -/
lemma exists_of_mem_arguments {a : Argument} (ha : a ∈ (o.signature environment).arguments) :
    ∃ required, ∃ name ∈ o.required ++ o.optional, a = Argument.string required name := by
  rw [signature, ofDeclarations_eq] at ha
  obtain ⟨before, after, heq, -⟩ := mem_lastArguments_iff.mp ha
  have hmem : Declaration.argument a ∈ before ++ .argument a :: after :=
    List.mem_append_right _ List.mem_cons_self
  rw [← heq, List.mem_cons] at hmem
  rcases hmem with hmention | hdeclared
  · cases hmention
  · obtain ⟨b, hb, heq⟩ := List.mem_map.mp hdeclared
    cases heq
    rcases List.mem_append.mp hb with hb | hb
    · obtain ⟨name, hname, rfl⟩ := List.mem_map.mp hb
      exact ⟨true, name, List.mem_append_left _ hname, rfl⟩
    · obtain ⟨name, hname, rfl⟩ := List.mem_map.mp hb
      exact ⟨false, name, List.mem_append_right _ hname, rfl⟩

lemma mem_of_mem_names {name : String} (hname : name ∈ (o.signature environment).names) :
    name ∈ o.required ++ o.optional := by
  obtain ⟨a, ha, rfl⟩ := List.mem_map.mp hname
  obtain ⟨required, name, hmem, rfl⟩ := exists_of_mem_arguments ha
  exact hmem

lemma nodup_names_signature (o : Options) (environment : Option String) :
    (o.signature environment).names.Nodup :=
  nodup_names_ofDeclarations _ _

end Options

/-! ## Lines -/

lemma newline_not_mem_showArgument {argument : String × Value} (hname : '\n' ∉ argument.1.toList) :
    '\n' ∉ (showArgument argument).toList := by
  obtain ⟨name, value⟩ := argument
  have hshown : ∀ shown : String, '\n' ∉ shown.toList →
      '\n' ∉ (name ++ "=" ++ shown).toList := by
    intro shown hnot
    simp [hname, hnot]
  cases value with
  | null =>
    show '\n' ∉ (name ++ "=<none>").toList
    simp [hname]
  | str text => exact hshown _ (Text.newline_not_mem_quote text)
  | _ => exact hshown _ (Value.newline_not_mem_describe _)

lemma newline_not_mem_showCommand {command : Command} (hopening : '\n' ∉ command.opening.toList)
    (hlabel : '\n' ∉ command.label.toList)
    (hnames : ∀ name ∈ command.arguments.map Prod.fst, '\n' ∉ name.toList) :
    '\n' ∉ (showCommand command).toList := by
  have harguments : '\n' ∉
      [',', ' '].intercalate ((command.arguments.map showArgument).map String.toList) := by
    refine Json.not_mem_intercalate (by decide) ?_
    rw [List.map_map, List.forall_mem_map]
    exact fun argument hargument =>
      newline_not_mem_showArgument (hnames _ (List.mem_map_of_mem hargument))
  unfold showCommand
  simp only [String.toList_append, String.toList_intercalate, List.mem_append, not_or]
  exact ⟨⟨⟨⟨⟨hopening, hlabel⟩, by decide⟩, harguments⟩, by decide⟩, Text.newline_not_mem_quote _⟩

/-- No newline gets into a line as it is: in JSON all texts are escaped, and otherwise neither the
names that the options give nor the mention in force hold one. -/
def Options.OnOneLine (o : Options) (environment : Option String) : Prop :=
  o.json = true ∨ (∀ name ∈ o.aliases ++ (o.required ++ o.optional), '\n' ∉ name.toList) ∧
    '\n' ∉ (o.mentionFor environment).toList

/-- Then a command is printed on one line. -/
theorem newline_not_mem_lineOf (honeLine : o.OnOneLine environment) {command : Command}
    {c c' : Cursor} (h : (o.signature environment).parser.parse.Accepts c command c') :
    '\n' ∉ (lineOf o.json command).toList := by
  unfold lineOf
  rcases honeLine with hjson | ⟨hnames, hmention⟩
  · rw [if_pos hjson]
    exact Json.newline_not_mem_render _
  · split
    · exact Json.newline_not_mem_render _
    · have hkeys := keys_of_accepts (o.nodup_names_signature environment) h
      obtain ⟨opening, c₁, label, c₂, values, hopening, hlabel, -, rfl⟩ := accepts_parser_iff.mp h
      obtain ⟨hopening, hlabel, -⟩ := exists_blanks_of_accepts_beginning hopening hlabel
      rw [o.aliases_signature] at hlabel
      rw [o.mention_signature] at hopening
      refine newline_not_mem_showCommand ?_ (hnames label (List.mem_append_left _ hlabel)) ?_
      · show '\n' ∉ opening.toList
        simp only [List.mem_cons, List.not_mem_nil, or_false] at hopening
        rcases hopening with rfl | rfl | rfl | rfl
        · decide
        · decide
        · exact hmention
        · simp [hmention]
      · intro name hname
        have hdeclared := Options.mem_of_mem_names (hkeys.mem_iff.mp hname)
        exact hnames name (List.mem_append_right _ hdeclared)

end CommandLine

end Parlance
