import Parlance.Proofs.InStep
import Parlance.Proofs.Terminal

/-!
# Guarded rules

Rules may refer to one another, and a rule that comes back to itself without having read anything
never ends. Rules are guarded if every reference in them stands behind something that always reads:
inside a later component of a sequence. Then a reference inside another one begins further on in
the text, and so every grammar over guarded rules gives a reply, with no more references inside one
another than there are symbols ahead and one (`Rules.guarded_terminates`).

The induction is on the number of symbols ahead. `Parse.AnswerAlike n` compares two parses from all
cursors that have fewer than `n` symbols ahead: both give a reply, and it is the same. Being
compositional, it passes from references to the grammars that contain them. Behind something that
always reads it is enough to know it for `n` in order to have it for `n + 1`
(`Grammar.answerAlike_of_isGuarded`).
-/

namespace Parlance

open Parlance.Parser (Alike parseAll)

variable {α β : Type}

/-! ## Guards -/

namespace Grammar

/-- Whether a grammar is one that never succeeds without having read a symbol. -/
def alwaysReads : Grammar → Bool
  | .literal text => text ≠ ""
  | .range _ _ | .raw _ .any => true
  | _ => false

mutual

/-- Whether every reference in a grammar is guarded: it stands inside a component of a sequence
that has an earlier component which always reads. -/
def isGuarded : Grammar → Bool
  | .lazy _ => false
  | .few gs => isGuardedSequence gs
  | .pick gs | .unordered gs => areGuarded gs
  | .positional _ g | .argument _ _ g | .many g | .sequence g | .optional g | .only g
  | .verbatim g | .spanned g | .grouped g | .metered g | .map _ _ g => g.isGuarded
  | .token _ | .literal _ | .range _ _ | .pattern _ | .capture _ | .quoted _ | .flag _ | .opener _
  | .raw _ _ => true

/-- The same for the components of a sequence. Behind one that always reads, anything may stand. -/
def isGuardedSequence : List Grammar → Bool
  | [] => true
  | g :: gs => g.isGuarded && (g.alwaysReads || isGuardedSequence gs)

/-- The same for grammars that do not stand behind one another. -/
def areGuarded : List Grammar → Bool
  | [] => true
  | g :: gs => g.isGuarded && areGuarded gs

end

lemma isGuarded_of_mem {gs : List Grammar} (h : areGuarded gs = true) :
    ∀ g ∈ gs, g.isGuarded = true := by
  induction gs with
  | nil => exact List.forall_mem_nil _
  | cons g gs ih =>
    rw [areGuarded, Bool.and_eq_true] at h
    exact List.forall_mem_cons.mpr ⟨h.1, ih h.2⟩

/-- Outside of sequences, what is guarded has guarded parts. -/
lemma isGuarded_of_mem_parts {g part : Grammar} (h : g.isGuarded = true)
    (hfew : ∀ gs, g ≠ .few gs) (hpart : part ∈ g.parts []) : part.isGuarded = true := by
  cases g with
  | few gs => exact absurd rfl (hfew gs)
  | pick gs | unordered gs =>
    rw [isGuarded] at h
    exact isGuarded_of_mem h part hpart
  | positional _ g | argument _ _ g | many g | sequence g | optional g | only g | verbatim g
  | spanned g | grouped g | metered g | map _ _ g =>
    obtain rfl := List.mem_singleton.mp hpart
    rwa [isGuarded] at h
  | _ => cases hpart

end Grammar

/-- Whether all rules are guarded. -/
def Rules.Guarded (rules : Rules) : Prop := ∀ rule ∈ rules, rule.2.isGuarded = true

instance (rules : Rules) : Decidable rules.Guarded :=
  inferInstanceAs (Decidable (∀ rule ∈ rules, rule.2.isGuarded = true))

/-- Every rule that a grammar comes to refer to is one of `rules`. -/
def Rules.Cover (rules : Rules) (g : Grammar) : Prop :=
  ∀ name, g.Contains rules (.lazy name) → ∃ body, List.lookup name rules = some body

/-! ## Parsers that read -/

/-- A parser that succeeds leaves fewer symbols ahead. -/
def Parser.Reads (p : Parser α) : Prop :=
  ∀ c a c', p.parse.Accepts c a c' → c'.ahead.length < c.ahead.length

namespace Parser

lemma Reads.convert {p : Parser α} (hp : p.Reads) (f : α → β) : (p.convert f).Reads := by
  intro c b c' h
  obtain ⟨a, ha, -⟩ := accepts_convert_iff.mp h
  exact hp c a c' ha

lemma length_ahead_approach_le (p : Parser α) (c : Cursor) :
    (p.approach c).ahead.length ≤ c.ahead.length := by
  obtain ⟨blanks, -, -, happroach⟩ := p.exists_blank_approach_eq c
  rw [happroach, Cursor.ahead_past, List.length_drop]
  exact Nat.sub_le _ _

lemma reads_literal {text : String} (htext : text ≠ "") : (literal text).Reads := by
  intro c value c' h
  obtain ⟨-, ⟨rest, hrest⟩, rfl⟩ := accepts_literal_iff.mp h
  have hsymbols : text.toList ≠ [] := by simpa using htext
  have hpos : 0 < text.toList.length := List.length_pos_iff.mpr hsymbols
  calc (((literal text).approach c).past text.toList).ahead.length
      = rest.length := by rw [Cursor.ahead_past_of_eq hrest.symm]
    _ < (text.toList ++ rest).length := by rw [List.length_append]; omega
    _ = ((literal text).approach c).ahead.length := by rw [hrest]
    _ ≤ c.ahead.length := (literal text).length_ahead_approach_le c

/-- A parser that reads a symbol and only looks at it has read something when it succeeds. -/
lemma reads_of_advance {p : Parser α} {f : Option Char → Parse α}
    (hattempt : p.attempt = Parse.advance >>= f)
    (hnone : ∀ c a c', ¬ (f none).Accepts c a c')
    (hsome : ∀ x c a c', (f (some x)).Accepts c a c' → c' = c) : p.Reads := by
  intro c a c' h
  have h : (Parse.advance >>= f).Accepts (p.approach c) a c' := hattempt ▸ h
  obtain ⟨found, c₁, hadvance, hf⟩ := Parse.accepts_bind_iff.mp h
  obtain ⟨rfl, rfl⟩ := hadvance.unique (Parse.accepts_advance (p.approach c))
  cases hahead : (p.approach c).ahead with
  | nil =>
    rw [Cursor.advance_of_nil hahead] at hf
    exact absurd hf (hnone _ _ _)
  | cons x rest =>
    rw [Cursor.advance_of_cons hahead] at hf
    obtain rfl := hsome _ _ _ _ hf
    calc ((p.approach c).past [x]).ahead.length = rest.length := by
          rw [Cursor.ahead_past_of_eq (t := [x]) hahead]
      _ < (p.approach c).ahead.length := by rw [hahead]; exact Nat.lt_succ_self _
      _ ≤ c.ahead.length := p.length_ahead_approach_le c

lemma reads_range (low high : Char) : (range low high).Reads := by
  refine reads_of_advance rfl (fun c a c' => Parse.not_accepts_fail) fun x c a c' h => ?_
  dsimp only at h
  split at h
  · exact (Parse.accepts_pure_iff.mp h).2
  · exact absurd h Parse.not_accepts_fail

lemma reads_any (tag : String) : (raw tag Action.any.run).Reads :=
  reads_of_advance rfl (fun _ _ _ => Parse.not_accepts_fail) fun _ _ _ _ h =>
    (Parse.accepts_pure_iff.mp h).2

end Parser

lemma Grammar.reads_of_alwaysReads {g : Grammar} (h : g.alwaysReads = true)
    (rule : String → Parse Value) : (g.parserWith rule).Reads := by
  cases g with
  | literal text => exact (Parser.reads_literal (of_decide_eq_true h)).convert _
  | range low high => exact (Parser.reads_range low high).convert _
  | raw tag action =>
    cases action with
    | any => exact Parser.reads_any tag
    | _ => cases h
  | _ => cases h

/-! ## Parses that give the same reply -/

/-- The same cursor twice, with fewer than `n` symbols ahead. -/
def Within (n : ℕ) (c d : Cursor) : Prop := c = d ∧ c.ahead.length < n

/-- From every cursor with fewer than `n` symbols ahead, `p` and `q` give the same reply and read
on. -/
def Parse.AnswerAlike (n : ℕ) (α : Type) (p q : Parse α) : Prop :=
  ∀ c, c.ahead.length < n → ∃ reply : Reply α, p c = .ok reply ∧ q c = .ok reply ∧
    ∃ t, t <+: c.ahead ∧ reply.cursor = c.past t

namespace Parse.AnswerAlike

variable {n : ℕ} {p q : Parse α}

/-- Steps that always give a reply give the same one as themselves. -/
lemma ofStep {p : Parse α} (hstep : ∀ c, ∃ reply : Reply α, p c = .ok reply ∧
    ∃ t, t <+: c.ahead ∧ reply.cursor = c.past t) : AnswerAlike n α p p := by
  intro c _
  obtain ⟨reply, hreply, hcursor⟩ := hstep c
  exact ⟨reply, hreply, hreply, hcursor⟩

lemma modify {f : Cursor → Cursor} (hf : ∀ c, ∃ t, t <+: c.ahead ∧ f c = c.past t) :
    AnswerAlike n Unit (Parse.modify f) (Parse.modify f) :=
  ofStep fun c => ⟨_, rfl, hf c⟩

/-- What comes second is only run from the cursors that the first parse leaves. -/
lemma bind {m : ℕ} {f g : α → Parse β} (hpq : AnswerAlike n α p q)
    (hleft : ∀ c a c', c.ahead.length < n → p.Accepts c a c' → c'.ahead.length < m)
    (hfg : ∀ a, AnswerAlike m β (f a) (g a)) : AnswerAlike n β (p >>= f) (q >>= g) := by
  intro c hc
  obtain ⟨⟨result, c₁, k⟩, hp, hq, t, ht, hcursor⟩ := hpq c hc
  dsimp only at hcursor
  subst hcursor
  rw [bind_apply, bind_apply, hp, hq]
  cases result with
  | error e => exact ⟨_, rfl, rfl, t, ht, rfl⟩
  | ok a =>
    obtain ⟨reply, hf, hg, s, hs, hcursor⟩ := hfg a (c.past t) (hleft c a _ hc ⟨k, hp⟩)
    dsimp only
    rw [hf, hg]
    refine ⟨_, rfl, rfl, t ++ s, Cursor.append_prefix_ahead ht hs, ?_⟩
    dsimp only
    rw [hcursor, Cursor.past_past]

/-- Reading on leaves no more ahead. -/
lemma length_ahead_lt {c c' : Cursor} {a : α} (hpq : AnswerAlike n α p q)
    (hc : c.ahead.length < n) (h : p.Accepts c a c') : c'.ahead.length < n := by
  obtain ⟨reply, hp, -, t, -, hcursor⟩ := hpq c hc
  obtain ⟨k, hk⟩ := h
  rw [hp, Except.ok.injEq] at hk
  subst hk
  dsimp only at hcursor
  rw [hcursor, Cursor.ahead_past, List.length_drop]
  omega

/-- Parses that prepare the cursor for others, and rework their replies. -/
lemma around {p' q' : Parse β} (hpq : AnswerAlike n α p q) (enter : Cursor → Cursor)
    {leave : Cursor → Reply α → Reply β} (hp : ∀ c, p' c = (p (enter c)).map (leave c))
    (hq : ∀ c, q' c = (q (enter c)).map (leave c)) (henter : ∀ c, (enter c).ahead = c.ahead)
    (hleave : ∀ c t reply, t <+: c.ahead → reply.cursor = (enter c).past t →
      ∃ s, s <+: c.ahead ∧ (leave c reply).cursor = c.past s) : AnswerAlike n β p' q' := by
  intro c hc
  obtain ⟨reply, hpc, hqc, t, ht, hcursor⟩ := hpq (enter c) (by rwa [henter])
  rw [henter] at ht
  exact ⟨leave c reply, by rw [hp, hpc]; rfl, by rw [hq, hqc]; rfl, hleave c t reply ht hcursor⟩

lemma speculate (hpq : AnswerAlike n α p q) : AnswerAlike n α p.speculate q.speculate := by
  intro c hc
  obtain ⟨⟨result, c', k⟩, hp, hq, t, ht, hcursor⟩ := hpq c.commit hc
  dsimp only at hcursor
  subst hcursor
  cases result with
  | ok a =>
    exact ⟨_, speculate_of_accepted hp, speculate_of_accepted hq, t, ht, rfl⟩
  | error e =>
    exact ⟨_, speculate_of_rejected hp, speculate_of_rejected hq, [], List.nil_prefix, rfl⟩

/-- Giving the same reply is compositional. -/
theorem compositional (n : ℕ) : Compositional (Within n) (AnswerAlike n) where
  ahead_eq hcd := congrArg Cursor.ahead hcd.1
  pure a := ofStep fun c => ⟨_, rfl, [], List.nil_prefix, rfl⟩
  bind hpq hfg := hpq.bind (fun _ _ _ hc h => hpq.length_ahead_lt hc h) hfg
  consult := by
    intro α f g hfg c hc
    rw [get_bind_apply, get_bind_apply]
    exact hfg c c ⟨rfl, hc⟩ c hc
  measured {_ p q} hpq := by
    refine hpq.around id p.measured_eq q.measured_eq (fun _ => rfl) ?_
    exact fun c t reply ht hcursor => ⟨t, ht, hcursor⟩
  advance := ofStep fun c => ⟨_, rfl, c.exists_advance_eq⟩
  advanceBytes k := modify fun c => c.exists_advanceBytes_eq k
  skipBlank := modify Cursor.exists_skipBlank_eq
  fail k := ofStep fun c => ⟨_, rfl, [], List.nil_prefix, rfl⟩
  tentatively {_ p q} hpq := by
    refine hpq.speculate.around id (Orderly.tentatively_eq p) (Orderly.tentatively_eq q)
      (fun _ => rfl) fun c t reply ht hcursor => ⟨t, ht, ?_⟩
    rcases reply with ⟨e | a, c', k⟩ <;> exact hcursor
  verbatim {_ p q} hpq := by
    refine hpq.around Cursor.enterVerbatim (Orderly.verbatim_eq p) (Orderly.verbatim_eq q)
      (fun _ => rfl) ?_
    intro c t reply ht hcursor
    exact ⟨t, ht, by rw [hcursor]; rfl⟩
  counted {_ p q} hpq := by
    refine hpq.around id (Orderly.counted_eq p) (Orderly.counted_eq q) (fun _ => rfl) ?_
    exact fun c t reply ht hcursor => ⟨t, ht, hcursor⟩

end Parse.AnswerAlike

/-! ## Grammars -/

namespace Grammar

open Parse (AnswerAlike)

variable {n : ℕ} {rule rule' : String → Parse Value}

/-- A grammar gives the same reply with two ways to read its references that do so. -/
lemma answerAlike_parserWith (g : Grammar)
    (hrule : ∀ name, g.Contains [] (.lazy name) → AnswerAlike n Value (rule name) (rule' name)) :
    Alike (AnswerAlike n) (g.parserWith rule) (g.parserWith rule') := by
  refine (AnswerAlike.compositional n).parserWith g ⟨⟨?_, ?_⟩, hrule⟩
  · exact fun _ _ _ => AnswerAlike.speculate
  · exact fun _ _ _ => fun hcd => congrArg Cursor.place hcd.1

/-- In a guarded sequence, references are only run when a symbol has been read. -/
lemma answerAlike_of_isGuardedSequence {gs : List Grammar} (hgs : isGuardedSequence gs = true)
    (hrule : ∀ g ∈ gs, ∀ name, g.Contains [] (.lazy name) →
      AnswerAlike n Value (rule name) (rule' name))
    (hparts : ∀ g ∈ gs, g.isGuarded = true →
      Alike (AnswerAlike (n + 1)) (g.parserWith rule) (g.parserWith rule')) :
    AnswerAlike (n + 1) (List Value) (parseAll (parsersWith rule gs))
      (parseAll (parsersWith rule' gs)) := by
  have hfewer := AnswerAlike.compositional n
  have hmore := AnswerAlike.compositional (n + 1)
  induction gs with
  | nil => exact hmore.pure []
  | cons g gs ih =>
    rw [isGuardedSequence, Bool.and_eq_true, Bool.or_eq_true] at hgs
    obtain ⟨hg, hgs⟩ := hgs
    obtain ⟨hruleg, hrule⟩ := List.forall_mem_cons.mp hrule
    obtain ⟨hpart, hparts⟩ := List.forall_mem_cons.mp hparts
    have hfirst := hmore.parse (hpart hg)
    rcases hgs with hreads | hgs
    · -- this component reads a symbol, so there are fewer ahead of those that follow
      have hrest := hfewer.parseAll (hfewer.parses (Compositional.parsersWith fun g hg =>
        answerAlike_parserWith g (hrule g hg)))
      refine hfirst.bind (fun c a c' hc h => ?_) fun value =>
        hfewer.bind hrest fun values => hfewer.pure (value :: values)
      have hlt := reads_of_alwaysReads hreads rule c a c' h
      omega
    · exact hmore.bind hfirst fun value =>
        hmore.bind (ih hgs hrule hparts) fun values => hmore.pure (value :: values)

/-- A guarded grammar may have one symbol more ahead than its references. -/
theorem answerAlike_of_isGuarded (g : Grammar) (hg : g.isGuarded = true)
    (hrule : ∀ name, g.Contains [] (.lazy name) → AnswerAlike n Value (rule name) (rule' name)) :
    Alike (AnswerAlike (n + 1)) (g.parserWith rule) (g.parserWith rule') := by
  induction g using Grammar.ofParts with
  | _ g ih =>
    have hmore := AnswerAlike.compositional (n + 1)
    have hrule : ∀ part ∈ g.parts [], ∀ name, part.Contains [] (.lazy name) →
        AnswerAlike n Value (rule name) (rule' name) :=
      fun part hpart name hname => hrule name (.part hpart hname)
    by_cases hfew : ∃ gs, g = .few gs
    · obtain ⟨gs, rfl⟩ := hfew
      rw [isGuarded] at hg
      refine hmore.convert (Compositional.few ?_) _
      exact answerAlike_of_isGuardedSequence hg hrule fun part hpart hguarded =>
        ih part hpart hguarded (hrule part hpart)
    · -- outside of sequences, the parts are guarded as well
      refine hmore.ofParts g (fun _ _ _ _ => AnswerAlike.speculate)
        (fun _ _ _ hcd => congrArg Cursor.place hcd.1) ?_ fun part hpart => ?_
      · rintro name rfl
        cases hg
      · have hguarded := isGuarded_of_mem_parts hg (fun gs hgs => hfew ⟨gs, hgs⟩) hpart
        exact ih part hpart hguarded (hrule part hpart)

end Grammar

/-! ## Rules -/

namespace Rules

open Parse (AnswerAlike)

variable {rules : Rules}

lemma Cover.ofContains {g node : Grammar} (hg : rules.Cover g) (h : g.Contains rules node) :
    rules.Cover node :=
  fun name hname => hg name (h.trans hname)

lemma Guarded.isGuarded_of_lookup (hguarded : rules.Guarded) {name : String} {body : Grammar}
    (h : List.lookup name rules = some body) : body.isGuarded = true := by
  obtain ⟨before, after, rfl, -⟩ := List.lookup_eq_some_iff.mp h
  exact hguarded (name, body) (List.mem_append_right _ List.mem_cons_self)

/-- References inside one another begin further and further on, so as many of them as there are
symbols ahead and one are enough. -/
lemma answerAlike_runWithin (hguarded : rules.Guarded) {n depth depth' : ℕ} {name : String}
    (hdepth : n ≤ depth) (hdepth' : n ≤ depth') (hname : rules.Cover (.lazy name)) :
    AnswerAlike n Value (rules.runWithin depth name) (rules.runWithin depth' name) := by
  induction n generalizing depth depth' name with
  | zero => exact fun c hc => absurd hc (Nat.not_lt_zero _)
  | succ n ih =>
    obtain ⟨depth, rfl⟩ := Nat.exists_eq_succ_of_ne_zero (Nat.ne_zero_of_lt hdepth)
    obtain ⟨depth', rfl⟩ := Nat.exists_eq_succ_of_ne_zero (Nat.ne_zero_of_lt hdepth')
    obtain ⟨body, hbody⟩ := hname name (.self _)
    have hpart : body ∈ (Grammar.lazy name).parts rules := by
      rw [Grammar.parts, hbody]
      exact List.mem_singleton_self body
    unfold runWithin
    rw [hbody]
    refine (AnswerAlike.compositional (n + 1)).parse ?_
    refine body.answerAlike_of_isGuarded (hguarded.isGuarded_of_lookup hbody) fun inner hinner => ?_
    exact ih (Nat.le_of_succ_le_succ hdepth) (Nat.le_of_succ_le_succ hdepth')
      (hname.ofContains (.part hpart hinner.of_nil))

/-- The depth that is chosen for a rule is enough. -/
lemma length_ahead_lt_depthFor {name : String} {body : Grammar}
    (h : List.lookup name rules = some body) (c : Cursor) :
    c.ahead.length < rules.depthFor c := by
  have hrules : 0 < rules.length := by
    obtain ⟨before, after, rfl, -⟩ := List.lookup_eq_some_iff.mp h
    rw [List.length_append, List.length_cons]
    omega
  have hsource : c.ahead.length ≤ c.place.source.length := by
    rw [Place.source, List.length_append]
    exact Nat.le_add_left _ _
  have hmany : c.place.source.length + 1 ≤ rules.length * (c.place.source.length + 1) :=
    Nat.le_mul_of_pos_left _ hrules
  rw [depthFor, Nat.mul_assoc]
  omega

lemma answerAlike_run (hguarded : rules.Guarded) {n depth : ℕ} {name : String} (hdepth : n ≤ depth)
    (hname : rules.Cover (.lazy name)) :
    AnswerAlike n Value (rules.run name) (rules.runWithin depth name) := by
  intro c hc
  obtain ⟨body, hbody⟩ := hname name (.self _)
  have hrun := length_ahead_lt_depthFor hbody c
  have hdepth : c.ahead.length + 1 ≤ depth := by omega
  exact answerAlike_runWithin hguarded hrun hdepth hname c (Nat.lt_succ_self _)

/-- Over guarded rules every grammar gives a reply, from every cursor, wherever its own references
stand. It never has more references inside one another than there are symbols ahead and one: the
reply is the same if references that are nested deeper are an error of their own, which nothing
recovers from. -/
theorem guarded_terminates (hguarded : rules.Guarded) {g : Grammar} (hcover : rules.Cover g)
    (c : Cursor) :
    ∃ reply, (g.parser rules).parse c = .ok reply ∧
      ∀ depth, c.ahead.length + 1 ≤ depth →
        (g.parserWith (rules.runWithin depth)).parse c = .ok reply := by
  have halike : ∀ depth, c.ahead.length + 1 ≤ depth → ∃ reply,
      (g.parser rules).parse c = .ok reply ∧
        (g.parserWith (rules.runWithin depth)).parse c = .ok reply := by
    intro depth hdepth
    have hparser := g.answerAlike_parserWith fun name hname =>
      answerAlike_run hguarded hdepth (hcover.ofContains hname.of_nil)
    obtain ⟨reply, hrun, hwithin, -⟩ :=
      (AnswerAlike.compositional _).parse hparser c (Nat.lt_succ_self _)
    exact ⟨reply, hrun, hwithin⟩
  obtain ⟨reply, hreply, -⟩ := halike _ (Nat.le_refl _)
  refine ⟨reply, hreply, fun depth hdepth => ?_⟩
  obtain ⟨reply', hrun, hwithin⟩ := halike depth hdepth
  rw [hreply, Except.ok.injEq] at hrun
  rw [hwithin, hrun]

/-- Lists of numbers inside one another, of which two are opened and none is closed: with two
symbols ahead there are three references inside one another, the last at the end of the text. -/
theorem guarded_terminates_lists :
    let rules : Rules :=
      [("value", .pick [.token .nat, .few [.literal "[", .many (.lazy "value"), .literal "]"]])]
    let g := Grammar.many (.lazy "value")
    let c := Cursor.ofString "[["
    rules.Guarded ∧ rules.Cover g ∧
      (g.parserWith (rules.runWithin 2)).parse c = .error .endlessRecursion ∧
      ∃ reply, (g.parser rules).parse c = .ok reply ∧
        ∀ depth, 3 ≤ depth → (g.parserWith (rules.runWithin depth)).parse c = .ok reply := by
  intro rules g c
  have hguarded : rules.Guarded := by decide
  have hcover : rules.Cover g := by
    intro name hname
    have hmem : Grammar.lazy name ∈ [g, .lazy "value",
        .pick [.token .nat, .few [.literal "[", g, .literal "]"]], .token .nat,
        .few [.literal "[", g, .literal "]"], .literal "[", .literal "]"] :=
      hname.induct (by simp [g, rules, Grammar.parts]) List.mem_cons_self
    have hvalue : name = "value" := by simpa [g] using hmem
    exact ⟨_, by rw [hvalue]; rfl⟩
  have hdeep : (g.parserWith (rules.runWithin 2)).parse c = .error .endlessRecursion := by
    decide +kernel
  exact ⟨hguarded, hcover, hdeep, guarded_terminates hguarded hcover c⟩

end Rules

end Parlance
