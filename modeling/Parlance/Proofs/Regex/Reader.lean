import Parlance.Proofs.Regex.Class
import Parlance.Regex.Reader

/-!
# Expressions inside a group

An expression is read inside a group as it is outside of it: each step does the same, with one more
group open around all others (`readSteps_within`). At the end the closing parenthesis is still ahead,
unless a comment has swallowed it.

So an expression in parentheses with the mark for the start of the text in front is read as just
that (`read_anchored`), provided it is an expression by itself. Without this, the parenthesis could
close a group of its own.
-/

namespace Parlance.Regex

variable {text inside rest : List Char} {n : ℕ} {frame : OpenGroup} {s : State}

/-! ## States -/

namespace State

/-- The same state with one more group open around all others. -/
def within (frame : OpenGroup) (s : State) : State := { s with outer := s.outer ++ [frame] }

@[simp] lemma flags_within (frame : OpenGroup) (s : State) : (s.within frame).flags = s.flags := rfl

@[simp] lemma parts_within (frame : OpenGroup) (s : State) : (s.within frame).parts = s.parts := rfl

lemma repeatLast_within (least : ℕ) (most : Option ℕ) (greedy : Bool) :
    (s.within frame).repeatLast least most greedy
      = (s.repeatLast least most greedy).map (within frame) := by
  simp only [repeatLast, parts_within]
  split <;> rfl

lemma closeGroup_within {s' : State} (h : s.closeGroup = .ok s') :
    (s.within frame).closeGroup = .ok (s'.within frame) := by
  unfold closeGroup at h ⊢
  cases houter : s.outer with
  | nil =>
    rw [houter] at h
    cases h
  | cons group outer =>
    rw [houter] at h
    cases h
    simp only [within, houter, List.cons_append]
    rfl

end State

/-- A step has led to the same state inside the group, and at most `n` symbols are left ahead. -/
inductive AgreesWithin (frame : OpenGroup) (n : ℕ) : (result result' : State × List Char) → Prop
  | intro {s : State} {rest rest' : List Char} : rest.length ≤ n → InGroup rest rest' →
    AgreesWithin frame n (s, rest) (s.within frame, rest')

lemma Mirrors.mono_within {m : ℕ} {r r' : Except SyntaxError (State × List Char)}
    (h : Mirrors (AgreesWithin frame n) r r') (hn : n ≤ m) :
    Mirrors (AgreesWithin frame m) r r' := by
  refine h.mono ?_
  rintro _ _ ⟨hlength, hrest⟩
  exact .intro (Nat.le_trans hlength hn) hrest

/-! ## Groups -/

lemma readFlags_mirrors (flags : Flags) (seen : List Char) (h : InGroup text inside) :
    Mirrors (AgreesBoth text.length) (readFlags flags seen text) (readFlags flags seen inside) := by
  induction text generalizing flags seen inside with
  | nil => exact .error _ _
  | cons x rest ih =>
    obtain ⟨rest', rfl, hrest⟩ := h.uncons rfl
    have hlength : rest.length ≤ (x :: rest).length := Nat.le_succ _
    have hlater (flags : Flags) (seen : List Char) :
        Mirrors (AgreesBoth (x :: rest).length) (readFlags flags seen rest)
          (readFlags flags seen rest') := by
      refine (ih flags seen hrest).mono ?_
      rintro _ _ ⟨hleft, hin⟩
      exact .intro (Nat.le_trans hleft hlength) hin
    by_cases hown : x = ':'
    · subst hown
      simp only [readFlags]
      split
      · exact .error _ _
      · exact .ok (.intro hlength hrest)
    by_cases haround : x = ')'
    · subst haround
      simp only [readFlags]
      split
      · exact .error _ _
      · split
        · exact .error _ _
        · exact .ok (.intro hlength hrest)
    · simp only [readFlags]
      split
      · exact .error _ _
      · split
        · exact hlater _ _
        · exact .bind_left _ fun flags => hlater _ _

lemma readName_mirrors (s : State) (h : InGroup text inside) :
    Mirrors (AgreesWithin frame text.length) (readName s text)
      (readName (s.within frame) inside) := by
  cases hdrop : text.dropWhile (· ≠ '>') with
  | nil =>
    simp only [readName, hdrop]
    cases text.takeWhile (· ≠ '>') <;> exact .error _ _
  | cons x rest =>
    obtain ⟨htake, rest', hdrop', hrest⟩ := h.takeWhile_dropWhile hdrop
    have hleft := (List.dropWhile_suffix (· ≠ '>') (l := text)).length_le
    rw [hdrop, List.length_cons] at hleft
    simp only [readName, hdrop, hdrop', htake]
    cases text.takeWhile (· ≠ '>') with
    | nil => exact .error _ _
    | cons first others =>
      simp only
      split
      · next hname =>
        split
        · exact .ok (AgreesWithin.intro (Nat.le_of_lt hleft) hrest)
        · next hno => exact absurd hname hno
      · exact .error _ _

/-- Flags from after the question mark, for the group around or for one of their own. -/
lemma readFlagGroup_mirrors (s : State) (h : InGroup text inside) :
    Mirrors (AgreesWithin frame text.length)
      (do
        let (flags, scope, rest) ← readFlags s.flags [] text
        match scope with
        | .around => return ({ s with flags := flags, parts := .flags :: s.parts }, rest)
        | .own => return (s.openGroup none flags, rest))
      (do
        let s := s.within frame
        let (flags, scope, rest) ← readFlags s.flags [] inside
        match scope with
        | .around => return ({ s with flags := flags, parts := .flags :: s.parts }, rest)
        | .own => return (s.openGroup none flags, rest)) := by
  refine (readFlags_mirrors s.flags [] h).bind ?_
  rintro _ _ ⟨hleft, hin⟩
  next flags scope rest rest' =>
  cases scope with
  | around => exact .ok (AgreesWithin.intro hleft hin)
  | own => exact .ok (AgreesWithin.intro hleft hin)

lemma readGroup_mirrors (s : State) (h : InGroup text inside) :
    Mirrors (AgreesWithin frame text.length) (readGroup s text)
      (readGroup (s.within frame) inside) := by
  have hskip := h.skip s.flags
  have hlength := s.flags.length_skip_le text
  rcases hskip.begins (x := '?') (by decide) with
    ⟨rest, rest', htext, hinside, hrest⟩ | ⟨hno, hno'⟩
  · rw [htext, List.length_cons] at hlength
    simp only [readGroup, State.flags_within, htext, hinside]
    rcases hrest.begins (x := '=') (by decide) with ⟨_, _, rfl, rfl, -⟩ | ⟨hahead, hahead'⟩
    · exact .error _ _
    rcases hrest.begins (x := '!') (by decide) with ⟨_, _, rfl, rfl, -⟩ | ⟨hnot, hnot'⟩
    · exact .error _ _
    rcases hrest.begins_both (x := 'P') (y := '<') (by decide) (by decide) with
      ⟨name, name', rfl, rfl, hname⟩ | ⟨hlong, hlong'⟩
    · refine (readName_mirrors s hname).mono_within ?_
      simp only [List.length_cons] at hlength
      omega
    rcases hrest.begins (x := '<') (by decide) with
      ⟨name, name', rfl, rfl, hname⟩ | ⟨hshort, hshort'⟩
    · rcases hname.begins (x := '=') (by decide) with ⟨_, _, rfl, rfl, -⟩ | ⟨hbehind, hbehind'⟩
      · exact .error _ _
      rcases hname.begins (x := '!') (by decide) with ⟨_, _, rfl, rfl, -⟩ | ⟨hnone, hnone'⟩
      · exact .error _ _
      simp only
      exact (readName_mirrors s hname).mono_within (Nat.le_of_succ_le (Nat.le_of_lt hlength))
    · -- no group of a special kind is opened
      have hbehind (tail : List Char) : rest ≠ '<' :: '=' :: tail := hshort _
      have hbehind' (tail : List Char) : rest' ≠ '<' :: '=' :: tail := hshort' _
      have hnone (tail : List Char) : rest ≠ '<' :: '!' :: tail := hshort _
      have hnone' (tail : List Char) : rest' ≠ '<' :: '!' :: tail := hshort' _
      simp only
      exact (readFlagGroup_mirrors s hrest).mono_within (Nat.le_of_lt hlength)
  · unfold readGroup
    rw [State.flags_within]
    split
    all_goals try exact absurd (by assumption) (hno _)
    split
    all_goals try exact absurd (by assumption) (hno' _)
    exact .ok (AgreesWithin.intro hlength hskip)

/-! ## Repetitions -/

/-- Nothing is read to repeat the last part. -/
lemma repeatLast_mirrors (s : State) (least : ℕ) (most : Option ℕ) (greedy : Bool)
    {rest' : List Char} (hleft : rest.length ≤ n) (h : InGroup rest rest') :
    Mirrors (AgreesWithin frame n)
      (do
        let s ← s.repeatLast least most greedy
        return (s, rest))
      (do
        let s ← (s.within frame).repeatLast least most greedy
        return (s, rest')) := by
  rw [State.repeatLast_within]
  cases s.repeatLast least most greedy with
  | error e => exact .error _ _
  | ok s => exact .ok (.intro hleft h)

lemma readGreed_agrees (h : InGroup text inside) :
    Agrees text.length (readGreed text) (readGreed inside) := by
  rcases h.begins (x := '?') (by decide) with ⟨rest, rest', rfl, rfl, hrest⟩ | ⟨hno, hno'⟩
  · exact .intro (Nat.le_succ _) hrest
  · simp only [readGreed]
    exact .intro (Nat.le_refl _) h

lemma readDigits_agrees (flags : Flags) {fuel fuel' : ℕ} (h : InGroup text inside)
    (hfuel : text.length ≤ fuel) (hfuel' : fuel ≤ fuel') :
    Agrees text.length (readDigits flags fuel text) (readDigits flags fuel' inside) :=
  agrees_of_run flags (p := Char.isDigit) (by decide) (fun _ => rfl) (fun _ => rfl)
    (fun _ _ _ => rfl) h hfuel hfuel'

lemma readCount_mirrors (flags : Flags) (h : InGroup text inside) :
    Mirrors (Agrees text.length) (readCount flags text) (readCount flags inside) := by
  have hspace := h.dropWhile (p := Unicode.isSpace) (by decide)
  have hlength := (List.dropWhile_suffix Unicode.isSpace (l := text)).length_le
  have hdigits := readDigits_agrees flags hspace (Nat.le_succ _)
    (Nat.succ_le_succ hspace.length_le)
  simp only [readCount]
  generalize readDigits flags _ (text.dropWhile Unicode.isSpace) = read,
    readDigits flags _ (inside.dropWhile Unicode.isSpace) = read' at hdigits ⊢
  obtain ⟨hleft, hin⟩ := hdigits
  next digits rest rest' =>
  have hend : (rest.dropWhile Unicode.isSpace).length ≤ text.length :=
    Nat.le_trans (List.dropWhile_suffix _).length_le (Nat.le_trans hleft hlength)
  split
  · exact .done hend (hin.dropWhile (by decide))
  · split
    · exact .done hend (hin.dropWhile (by decide))
    · exact .error _ _

lemma readBounds_mirrors (flags : Flags) (h : InGroup text inside) :
    Mirrors (AgreesBoth text.length) (readBounds flags text) (readBounds flags inside) := by
  refine ((readCount_mirrors flags (h.skip flags)).mono_agrees (flags.length_skip_le text)).andThen
    fun least rest rest' hleft hrest => ?_
  cases least with
  | none => exact .error _ _
  | some least =>
    rcases hrest.begins (x := '}') (by decide) with ⟨_, _, rfl, rfl, hin⟩ | ⟨hclose, hclose'⟩
    · exact .ok (AgreesBoth.intro (Nat.le_of_succ_le hleft) hin)
    rcases hrest.begins (x := ',') (by decide) with
      ⟨more, more', rfl, rfl, hmore⟩ | ⟨hcomma, hcomma'⟩
    · have hlength := Nat.le_trans (flags.length_skip_le more) (Nat.le_of_succ_le hleft)
      simp only
      rcases (hmore.skip flags).begins (x := '}') (by decide) with
        ⟨_, _, htext, hinside, hin⟩ | ⟨hopen, hopen'⟩
      · rw [htext, List.length_cons] at hlength
        simp only [htext, hinside]
        exact .ok (AgreesBoth.intro (Nat.le_of_lt hlength) hin)
      · simp only
        refine ((readCount_mirrors flags (hmore.skip flags)).mono_agrees hlength).andThen
          fun most rest rest' hleft hrest => ?_
        cases most with
        | none => exact .error _ _
        | some most =>
          rcases hrest.begins (x := '}') (by decide) with ⟨_, _, rfl, rfl, hin⟩ | ⟨hclose, hclose'⟩
          · simp only
            split
            · exact .ok (AgreesBoth.intro (Nat.le_of_succ_le hleft) hin)
            · exact .error _ _
          · split
            · exact absurd (by assumption) (hclose _)
            · exact .error _ _
    · simp only
      split
      · exact absurd rfl (hclose _)
      · exact absurd rfl (hcomma _)
      · exact .error _ _

lemma readCounted_mirrors (s : State) (h : InGroup text inside) :
    Mirrors (AgreesWithin frame text.length) (readCounted s text)
      (readCounted (s.within frame) inside) := by
  refine (readBounds_mirrors s.flags h).bind ?_
  rintro _ _ ⟨hleft, hin⟩
  have hgreed := (readGreed_agrees (hin.skip s.flags)).mono
    (Nat.le_trans (s.flags.length_skip_le _) hleft)
  next least most rest rest' =>
  simp only [State.flags_within]
  generalize readGreed (s.flags.skip rest) = read, readGreed (s.flags.skip rest') = read' at hgreed
  obtain ⟨hend, hbehind⟩ := hgreed
  exact repeatLast_mirrors s least most _ hend hbehind

lemma readRepeated_mirrors (s : State) (least : ℕ) (most : Option ℕ) (h : InGroup text inside) :
    Mirrors (AgreesWithin frame text.length) (readRepeated s least most text)
      (readRepeated (s.within frame) least most inside) := by
  have hgreed := readGreed_agrees h
  unfold readRepeated
  generalize readGreed text = read, readGreed inside = read' at hgreed
  obtain ⟨hend, hbehind⟩ := hgreed
  exact repeatLast_mirrors s least most _ hend hbehind

/-! ## Steps -/

theorem readStep_mirrors (frame : OpenGroup) (s : State) (c : Char) (h : InGroup text inside) :
    Mirrors (AgreesWithin frame text.length) (readStep s c text)
      (readStep (s.within frame) c inside) := by
  have hpush (e : Expr) : Mirrors (AgreesWithin frame text.length) (.ok (s.push e 0, text))
      (.ok ((s.within frame).push e 0, inside)) := .ok (AgreesWithin.intro (Nat.le_refl _) h)
  simp only [readStep]
  split
  · exact readGroup_mirrors s h
  · cases hclose : s.closeGroup with
    | error e => exact .error _ _
    | ok s' =>
      rw [State.closeGroup_within hclose]
      exact .ok (.intro (Nat.le_refl _) h)
  · exact .ok (AgreesWithin.intro (Nat.le_refl _) h)
  · exact (readClass_mirrors s.flags h).andThen fun set _ _ hleft hin =>
      .ok (AgreesWithin.intro hleft hin)
  · exact readRepeated_mirrors s 0 (some 1) h
  · exact readRepeated_mirrors s 0 none h
  · exact readRepeated_mirrors s 1 none h
  · exact readCounted_mirrors s h
  · refine (readEscape_mirrors s.flags h).andThen fun escape _ _ hleft hin => ?_
    cases escape with
    | symbol c => exact .ok (AgreesWithin.intro hleft hin)
    | octet c =>
      simp only
      split
      · next hbasic =>
        split
        · exact .ok (AgreesWithin.intro hleft hin)
        · next hno => exact absurd hbasic hno
      · exact .error _ _
    | set set => exact .ok (AgreesWithin.intro hleft hin)
    | look look => exact .ok (AgreesWithin.intro hleft hin)
  · exact .bind_left _ fun set => hpush _
  · exact hpush _
  · exact hpush _
  · exact hpush _

lemma readSteps_nil (fuel : ℕ) (s : State) : readSteps fuel s [] = .ok s := by
  cases fuel with
  | zero => rfl
  | succ fuel =>
    have hnil : s.flags.skip [] = [] :=
      List.eq_nil_of_length_eq_zero (Nat.le_zero.mp (s.flags.length_skip_le []))
    rw [readSteps, hnil]

/-- When the whole text has been read, the group is closed inside if its parenthesis is still
ahead. -/
theorem readSteps_within (frame : OpenGroup) {s' : State} {fuel fuel' : ℕ} (h : InGroup text inside)
    (hfuel : text.length < fuel) (hfuel' : fuel ≤ fuel') (hread : readSteps fuel s text = .ok s') :
    readSteps fuel' (s.within frame) inside = .ok (s'.within frame) ∨
      readSteps fuel' (s.within frame) inside = (s'.within frame).closeGroup := by
  induction fuel generalizing fuel' s text inside with
  | zero => exact absurd hfuel (Nat.not_lt_zero _)
  | succ fuel ih =>
    obtain ⟨fuel', rfl⟩ : ∃ k, fuel' = k + 1 := Nat.exists_eq_succ_of_ne_zero (by omega)
    rw [readSteps] at hread
    rcases h.cases_skip s.flags with htext | ⟨c, rest, rest', htext, hinside, hlength, hrest⟩
    · -- outside the text ends here
      rw [htext] at hread
      obtain rfl : s = s' := Except.ok.inj hread
      have hend := h.skip s.flags
      rw [htext] at hend
      rcases hend.nil with hinside | hinside
      · left
        rw [readSteps, State.flags_within, hinside]
      · right
        rw [readSteps, State.flags_within, hinside]
        simp only [readStep]
        cases (s.within frame).closeGroup with
        | error e => rfl
        | ok s' => exact readSteps_nil fuel' s'
    · rw [htext] at hread
      cases hstep : readStep s c rest with
      | error e =>
        simp only [hstep] at hread
        cases hread
      | ok result =>
        obtain ⟨_, hstep', hleft, hin⟩ := readStep_mirrors frame s c hrest _ hstep
        simp only [hstep] at hread
        rw [readSteps, State.flags_within, hinside]
        simp only [hstep']
        exact ih hin (by omega) (by omega) hread

/-! ## Whole expressions -/

/-- An expression has been read when no group is left open. -/
lemma exists_readSteps_of_read {e : Expr} (h : Expr.read text = .ok e) :
    ∃ s, readSteps (text.length + 1) {} text = .ok s ∧ s.outer = [] ∧ s.body.expr = e := by
  unfold Expr.read at h
  cases hread : readSteps (text.length + 1) {} text with
  | error e =>
    simp only [hread] at h
    cases h
  | ok s =>
    rw [hread] at h
    change (if !s.outer.isEmpty then Except.error SyntaxError.groupUnclosed
      else if s.body.depth ≤ maxDepth then .ok s.body.expr else .error .tooDeep) = .ok e at h
    split at h
    · cases h
    · next hclosed =>
      split at h
      · exact ⟨s, rfl, by simpa using hclosed, Except.ok.inj h⟩
      · cases h

/-- The group that an expression stands in when the start of the text is marked in front. -/
def markedStart : OpenGroup := ⟨none, {}, [], [.expr (.look .textStart) 0]⟩

/-- The mark and the opening parenthesis are read in two steps. -/
lemma readSteps_anchored (fuel : ℕ) (text : List Char) :
    readSteps (fuel + 2) {} ('^' :: '(' :: '?' :: ':' :: text)
      = readSteps fuel (State.within markedStart {}) text := by
  rfl

/-- With the mark for the start of the text in front, an expression in parentheses is read as that
mark and the expression. -/
theorem read_anchored {e marked : Expr} (h : Expr.read text = .ok e)
    (hmarked : Expr.read ('^' :: '(' :: '?' :: ':' :: (text ++ [')'])) = .ok marked) :
    marked = Expr.choice [Expr.sequence [.look .textStart, e]] := by
  obtain ⟨s, hread, houter, rfl⟩ := exists_readSteps_of_read h
  obtain ⟨s', hread', houter', rfl⟩ := exists_readSteps_of_read hmarked
  have hfuel : text.length + 1 ≤ (text ++ [')']).length + 3 := by
    rw [List.length_append]
    omega
  have hinside := readSteps_within markedStart .closed (Nat.lt_succ_self _) hfuel hread
  rw [← readSteps_anchored] at hinside
  rcases hinside.imp hread'.symm.trans hread'.symm.trans with hopen | hclosed
  · -- the parenthesis has been swallowed, and the group is still open
    obtain rfl := Except.ok.inj hopen
    rw [State.within, houter] at houter'
    cases houter'
  · rw [State.closeGroup, State.within, houter] at hclosed
    obtain rfl := Except.ok.inj hclosed
    rfl

end Parlance.Regex
