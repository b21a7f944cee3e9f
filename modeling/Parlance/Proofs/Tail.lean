import Parlance.Proofs.InStep
import Parlance.Proofs.Terminal

/-!
# What a parse depends on

A parse sees the text ahead and whether the cursor is verbatim, and nothing else, unless it looks
at the position: what was read before, the saved places and the exact depth of verbatim tokens
have no influence on it. This is stated for two runs of one grammar, from cursors into perhaps
different texts, that have the same text ahead (`Grammar.depends_on_tail`). Their replies agree up
to where the runs began (`Reply.Agree`).

Cursors with the same tail are near in the sense of `Nearness`, so the two runs are in step.
-/

namespace Parlance

variable {α : Type} {o o' : ℕ}

/-! ## Agreement -/

/-- Errors that say the same of two runs, which began at the offsets `o` and `o'`: each was made
`n` bytes further on. The symbol behind is the same if it was read in the run. -/
inductive ParseError.Agree (o o' : ℕ) : ParseError → ParseError → Prop
  | expectedEnd (n : ℕ) (remaining : String) :
    Agree o o' (.expectedEnd (o + n) remaining) (.expectedEnd (o' + n) remaining)
  | unexpectedEnd (n : ℕ) (expected : String) :
    Agree o o' (.unexpectedEnd (o + n) expected) (.unexpectedEnd (o' + n) expected)
  | unexpectedSymbol (n : ℕ) {symbol symbol' : String} (expected : String) :
    (n ≠ 0 → symbol = symbol') →
    Agree o o' (.unexpectedSymbol (o + n) symbol expected)
      (.unexpectedSymbol (o' + n) symbol' expected)
  | custom (message : String) : Agree o o' (.custom message) (.custom message)

/-- Replies of two runs that began at the offsets `o` and `o'`: both have the same value, or errors
that agree, and both runs have read `n` bytes. -/
inductive Reply.Agree (o o' : ℕ) : Reply α → Reply α → Prop
  | accepted (n : ℕ) {a : α} {c d : Cursor} {i j : ℕ} :
    c.offset = o + n → d.offset = o' + n → Agree o o' ⟨.ok a, c, i⟩ ⟨.ok a, d, j⟩
  | rejected (n : ℕ) {e f : ParseError} {c d : Cursor} {i j : ℕ} :
    c.offset = o + n → d.offset = o' + n → e.Agree o o' f →
    Agree o o' ⟨.error e, c, i⟩ ⟨.error f, d, j⟩

/-! ## Cursors with the same tail -/

/-- Cursors with the same text ahead, of which both or neither is verbatim. -/
def SameTail (c d : Cursor) : Prop := c.ahead = d.ahead ∧ c.isVerbatim = d.isVerbatim

lemma SameTail.nearness : Nearness SameTail where
  ahead_eq := And.left
  isVerbatim_eq := And.right
  past h t := ⟨congrArg (List.drop t.length) h.1, h.2⟩
  commit h := h
  enterVerbatim {c d} h := by
    refine ⟨h.1, ?_⟩
    rw [c.isVerbatim_enterVerbatim, d.isVerbatim_enterVerbatim]

lemma SameTail.of_tail_eq {c d : Cursor} (h : c.tail = d.tail)
    (hverbatim : c.isVerbatim = d.isVerbatim) : SameTail c d :=
  ⟨String.ofList_injective h, hverbatim⟩

/-- Errors made behind the same text agree. -/
lemma Complaint.agree_errorAt (k : Complaint) {c d : Cursor} (hcd : SameTail c d)
    (t : List Char) : (k.errorAt (c.past t)).Agree c.offset d.offset (k.errorAt (d.past t)) := by
  have htail : (c.past t).tail = (d.past t).tail :=
    congrArg String.ofList (SameTail.nearness.past hcd t).1
  cases k with
  | leftOver =>
    simp only [errorAt, Cursor.expectedEnd, Cursor.offset_past, htail]
    exact .expectedEnd _ _
  | ended expected =>
    simp only [errorAt, Cursor.unexpectedEnd, Cursor.offset_past]
    exact .unexpectedEnd _ _
  | unexpected expected =>
    simp only [errorAt, Cursor.unexpectedSymbol, Cursor.offset_past]
    refine .unexpectedSymbol _ _ fun hread => ?_
    have hne : t ≠ [] := by
      rintro rfl
      exact hread rfl
    rw [c.lookbehind_one_past hne, d.lookbehind_one_past hne]
  | refused message => exact .custom message

lemma Reply.InStep.agree {strict : Prop} {c d : Cursor} (hcd : SameTail c d) {r r' : Reply α}
    (h : r.InStep strict c d r') : r.Agree c.offset d.offset r' := by
  cases h with
  | @accepted _ t =>
    exact .accepted (byteLength t) (c.offset_past t) (d.offset_past t)
  | @rejected k s t =>
    exact .rejected (byteLength s) (c.offset_past s) (d.offset_past s) (k.agree_errorAt hcd t)

/-! ## Verbatim tokens inside one another -/

/-- A verbatim token that is nothing but another one may as well be that one. -/
lemma SameTail.inStep_verbatim_verbatim {strict : Prop} {p : Parse α}
    (hp : Parse.InStep SameTail strict α p p) :
    Parse.InStep SameTail strict α p.verbatim.verbatim p.verbatim := by
  have htwice : ∀ c, p.verbatim.verbatim c
      = (p c.enterVerbatim.enterVerbatim).map fun reply =>
          { reply with cursor := reply.cursor.exitVerbatim.exitVerbatim } := by
    intro c
    rw [Parse.Orderly.verbatim_eq, Parse.Orderly.verbatim_eq]
    rcases p c.enterVerbatim.enterVerbatim with fault | reply <;> rfl
  refine Nearness.inStep_around hp htwice (Parse.Orderly.verbatim_eq p) (fun c d hcd => ?_)
    fun _ _ _ _ h => h.exitLeft.exitLeft.exitRight
  refine ⟨hcd.1, ?_⟩
  rw [c.enterVerbatim.isVerbatim_enterVerbatim, d.isVerbatim_enterVerbatim]

/-- Inside a verbatim token, the inner one has no blanks to skip. -/
lemma Parser.attempt_verbatim_verbatim (p : Parser α) :
    p.verbatim.verbatim.attempt = p.parse.verbatim.verbatim := by
  funext c
  have hinner : p.verbatim.parse c.enterVerbatim = p.parse.verbatim c.enterVerbatim :=
    congrArg p.parse.verbatim (p.verbatim.approach_of_isVerbatim c.isVerbatim_enterVerbatim)
  show p.verbatim.parse.verbatim c = p.parse.verbatim.verbatim c
  unfold Parse.verbatim
  rw [hinner]
  rfl

lemma SameTail.inStep_parse_verbatim_verbatim {strict : Prop} {p : Parser α}
    (hp : Parse.InStep SameTail strict α p.parse p.parse) :
    Parse.InStep SameTail strict α p.verbatim.verbatim.parse p.verbatim.parse := by
  refine (nearness.compositional strict).parse ⟨rfl, rfl, ?_⟩
  rw [p.attempt_verbatim_verbatim]
  exact inStep_verbatim_verbatim hp

/-! ## Grammars -/

/-- A grammar that does not look at the position depends only on the tail and on whether the cursor
is verbatim. So it reads from the middle of a text as it reads the tail by itself, and one verbatim
token around it is as good as two. -/
theorem Grammar.depends_on_tail (rules : Rules) (g : Grammar)
    (hg : ∀ node, g.Contains rules node → node.observesPosition = false) :
    (∀ c d : Cursor, c.tail = d.tail → c.isVerbatim = d.isVerbatim → ∀ r r',
      (g.parser rules).parse c = .ok r → (g.parser rules).parse d = .ok r' →
        r.Agree c.offset d.offset r') ∧
      (∀ c : Cursor, c.isVerbatim = false → ∀ r r',
        (g.parser rules).parse c = .ok r → (g.parser rules).parseText c.tail = .ok r' →
          r.Agree c.offset 0 r') ∧
      (∀ c d : Cursor, c.tail = d.tail → c.isVerbatim = d.isVerbatim → ∀ r r',
        ((Grammar.verbatim (.verbatim g)).parser rules).parse c = .ok r →
        ((Grammar.verbatim g).parser rules).parse d = .ok r' →
          r.Agree c.offset d.offset r') := by
  have hstep : Parse.InStep SameTail False Value (g.parser rules).parse (g.parser rules).parse := by
    refine Grammar.inStep SameTail.nearness rules g False.elim fun node hnode hobserves => ?_
    rw [hg node hnode] at hobserves
    cases hobserves
  refine ⟨?_, ?_, ?_⟩
  · intro c d htail hverbatim r r' h h'
    have hcd := SameTail.of_tail_eq htail hverbatim
    exact (hstep c d hcd r r' h h').agree hcd
  · intro c hverbatim r r' h h'
    have htail : c.tail = (Cursor.ofString c.tail).tail := by
      show c.tail = String.ofList c.tail.toList
      rw [String.ofList_toList]
    have hcd := SameTail.of_tail_eq htail hverbatim
    exact (hstep c _ hcd r r' h h').agree hcd
  · intro c d htail hverbatim r r' h h'
    have hcd := SameTail.of_tail_eq htail hverbatim
    exact (SameTail.inStep_parse_verbatim_verbatim hstep c d hcd r r' h h').agree hcd

/-- Parentheses inside one another. -/
def parentheses : Rules :=
  [("parentheses", .few [.literal "(", .optional (.lazy "parentheses"), .literal ")"])]

/-- Parentheses that are not all closed, in the second row of a text and by themselves. -/
theorem Grammar.depends_on_tail_parentheses :
    let g := Grammar.lazy "parentheses"
    let c := ((Cursor.ofString "é\n((\n) x").past ['é', '\n']).commit
    let d := Cursor.ofString "((\n) x"
    let expected := ") (full string: ))"
    let r : Reply Value :=
      ⟨.error (.unexpectedSymbol 9 "x" expected), c.past "((\n) x".toList, 0⟩
    let r' : Reply Value :=
      ⟨.error (.unexpectedSymbol 6 "x" expected), d.past "((\n) x".toList, 0⟩
    (∀ node, g.Contains parentheses node → node.observesPosition = false) ∧
      c.tail = d.tail ∧ c.isVerbatim = d.isVerbatim ∧
      (g.parser parentheses).parse c = .ok r ∧ (g.parser parentheses).parse d = .ok r' ∧
      r.Agree c.offset d.offset r' := by
  intro g c d expected r r'
  have hg : ∀ node, g.Contains parentheses node → node.observesPosition = false := by
    intro node hnode
    have hmem : node ∈ [g, .few [.literal "(", .optional g, .literal ")"], .literal "(",
        .optional g, .literal ")"] :=
      hnode.induct (by simp [g, Grammar.parts, parentheses]) List.mem_cons_self
    simp only [List.mem_cons, List.not_mem_nil, or_false] at hmem
    rcases hmem with rfl | rfl | rfl | rfl | rfl <;> rfl
  have hc : (g.parser parentheses).parse c = .ok r := by decide +kernel
  have hd : (g.parser parentheses).parse d = .ok r' := by decide +kernel
  have hagree := (Grammar.depends_on_tail parentheses g hg).1 c d rfl rfl r r' hc hd
  exact ⟨hg, rfl, rfl, hc, hd, hagree⟩

end Parlance
