import Parlance.Proofs.Regex.InGroup
import Parlance.Regex.Escape

/-!
# Escapes inside a group

Each escape takes up what belongs to it and nothing of what stands behind, so it is read inside a
group as outside of it (`readEscape_mirrors`).
-/

namespace Parlance.Regex

variable {text inside rest : List Char} {n : ℕ}

/-! ## Code points -/

lemma readHexDigits_mirrors (flags : Flags) (count value : ℕ) (h : InGroup text inside) :
    Mirrors (Agrees text.length) (readHexDigits flags count value text)
      (readHexDigits flags count value inside) := by
  induction count generalizing value text inside with
  | zero => exact .done (Nat.le_refl _) h
  | succ count ih =>
    rcases h.cases_skip flags with htext | ⟨c, rest, rest', htext, hinside, hlength, hrest⟩
    · rw [readHexDigits, htext]
      exact .error _ _
    · simp only [readHexDigits, htext, hinside]
      split
      · exact .error _ _
      · exact (ih _ hrest).mono_agrees (Nat.le_of_lt hlength)

lemma readHexBraced_mirrors (flags : Flags) (first : Bool) (value : ℕ) {fuel fuel' : ℕ}
    (hfuel : fuel ≤ fuel') (h : InGroup text inside) :
    Mirrors (Agrees text.length) (readHexBraced flags fuel first value text)
      (readHexBraced flags fuel' first value inside) := by
  induction fuel generalizing fuel' first value text inside with
  | zero => exact .error _ _
  | succ fuel ih =>
    obtain ⟨fuel', rfl⟩ : ∃ k, fuel' = k + 1 := Nat.exists_eq_succ_of_ne_zero (by omega)
    rcases h.cases_skip flags with htext | ⟨c, rest, rest', htext, hinside, hlength, hrest⟩
    · rw [readHexBraced, htext]
      exact .error _ _
    · by_cases hc : c = '}'
      · subst hc
        simp only [readHexBraced, htext, hinside]
        split
        · exact .error _ _
        · exact .done (Nat.le_of_lt hlength) hrest
      · simp only [readHexBraced, htext, hinside]
        split
        · exact .error _ _
        · exact (ih _ _ (Nat.le_of_succ_le_succ hfuel) hrest).mono_agrees (Nat.le_of_lt hlength)

lemma readCodePoint_mirrors (flags : Flags) (count : ℕ) (h : InGroup text inside) :
    Mirrors (Agrees text.length) (readCodePoint flags count text)
      (readCodePoint flags count inside) := by
  have hskip := h.skip flags
  have hlength := flags.length_skip_le text
  rcases hskip.begins (x := '{') (by decide) with
    ⟨rest, rest', htext, hinside, hrest⟩ | ⟨hno, hno'⟩
  · rw [htext, List.length_cons] at hlength
    simp only [readCodePoint, htext, hinside]
    have hfuel := Nat.succ_le_succ hrest.length_le
    refine (readHexBraced_mirrors flags true 0 hfuel hrest).andThen fun value _ _ hleft hin => ?_
    exact .bind_left _ fun c => .done (Nat.le_trans hleft (Nat.le_of_lt hlength)) hin
  · simp only [readCodePoint]
    refine (readHexDigits_mirrors flags count 0 hskip).andThen fun value _ _ hleft hin => ?_
    exact .bind_left _ fun c => .done (Nat.le_trans hleft hlength) hin

/-! ## Word boundaries -/

lemma readBoundaryName_agrees (flags : Flags) {fuel fuel' : ℕ} (h : InGroup text inside)
    (hfuel : text.length ≤ fuel) (hfuel' : fuel ≤ fuel') :
    Agrees text.length (readBoundaryName flags fuel text) (readBoundaryName flags fuel' inside) :=
  agrees_of_run flags (p := isBoundaryLetter) (by decide) (fun _ => rfl) (fun _ => rfl)
    (fun _ _ _ => rfl) h hfuel hfuel'

lemma readBoundary_mirrors (flags : Flags) (h : InGroup text inside) :
    Mirrors (Agrees text.length) (readBoundary flags text) (readBoundary flags inside) := by
  rcases h.begins (x := '{') (by decide) with ⟨rest, rest', rfl, rfl, hrest⟩ | ⟨hno, hno'⟩
  · rcases hrest.cases_skip flags with htext | ⟨c, text, text', htext, hinside, hlength, hin⟩
    · simp only [readBoundary, htext]
      exact .error _ _
    · simp only [readBoundary, htext, hinside]
      split
      · have hname := readBoundaryName_agrees flags (hin.cons c) (Nat.le_refl _)
          (Nat.succ_le_succ hin.length_le)
        generalize readBoundaryName flags (text.length + 1) (c :: text) = read,
          readBoundaryName flags (text'.length + 1) (c :: text') = read' at hname ⊢
        obtain ⟨hleft, hafter⟩ := hname
        rcases hafter.begins (x := '}') (by decide) with ⟨_, _, rfl, rfl, hbehind⟩ | ⟨hno, hno'⟩
        · simp only
          split
          · refine .done ?_ hbehind
            simp only [List.length_cons] at hleft ⊢
            omega
          · exact .error _ _
        · split
          · next heq => exact absurd (Prod.mk.inj heq).2 (hno _)
          · exact .error _ _
      · exact .done (Nat.le_refl _) h
  · simp only [readBoundary]
    exact .done (Nat.le_refl _) h

/-! ## Properties -/

lemma readBraced_mirrors (flags : Flags) {fuel fuel' : ℕ} (hfuel : fuel ≤ fuel')
    (h : InGroup text inside) :
    Mirrors (Agrees text.length) (readBraced flags fuel text) (readBraced flags fuel' inside) := by
  induction fuel generalizing fuel' text inside with
  | zero => exact .error _ _
  | succ fuel ih =>
    obtain ⟨fuel', rfl⟩ : ∃ k, fuel' = k + 1 := Nat.exists_eq_succ_of_ne_zero (by omega)
    rcases h.cases_skip flags with htext | ⟨c, rest, rest', htext, hinside, hlength, hrest⟩
    · rw [readBraced, htext]
      exact .error _ _
    · by_cases hc : c = '}'
      · subst hc
        simp only [readBraced, htext, hinside]
        exact .done (Nat.le_of_lt hlength) hrest
      · simp only [readBraced, htext, hinside]
        refine (ih (Nat.le_of_succ_le_succ hfuel) hrest).andThen fun others _ _ hleft hin => ?_
        exact .done (Nat.le_trans hleft (Nat.le_of_lt hlength)) hin

lemma readProperty_mirrors (flags : Flags) (negated : Bool) (h : InGroup text inside) :
    Mirrors (Agrees text.length) (readProperty flags negated text)
      (readProperty flags negated inside) := by
  have hset (s : CharSet) {rest rest' : List Char} (hleft : rest.length ≤ text.length)
      (hin : InGroup rest rest') : Mirrors (Agrees text.length)
        (if flags.allScripts then .ok ((flags.fold s).complIf negated, rest)
          else .error .basicOnly)
        (if flags.allScripts then .ok ((flags.fold s).complIf negated, rest')
          else .error .basicOnly) := by
    split
    · exact .done hleft hin
    · exact .error _ _
  rcases h.cases_skip flags with htext | ⟨c, rest, rest', htext, hinside, hlength, hrest⟩
  · rw [readProperty, htext]
    exact .error _ _
  · by_cases hc : c = '{'
    · subst hc
      simp only [readProperty, htext, hinside]
      have hfuel := Nat.succ_le_succ hrest.length_le
      refine (readBraced_mirrors flags hfuel hrest).andThen fun name _ _ hleft hin => ?_
      cases setCalled? name with
      | none => exact .error _ _
      | some s => exact hset s (Nat.le_trans hleft (Nat.le_of_lt hlength)) hin
    · simp only [readProperty, htext, hinside]
      generalize (if c = '\\' then none else CharSet.named? [c]) = found
      cases found with
      | none => exact .error _ _
      | some s => exact hset s (Nat.le_of_lt hlength) hrest

/-! ## All escapes -/

lemma letterSet_mirrors (flags : Flags) (negated : Bool) (s basic : CharSet) {rest' : List Char}
    (hlength : rest.length ≤ n) (h : InGroup rest rest') :
    Mirrors (Agrees n) (letterSet flags negated s basic rest)
      (letterSet flags negated s basic rest') :=
  .bind_left _ fun _ => .done hlength h

theorem readEscape_mirrors (flags : Flags) (h : InGroup text inside) :
    Mirrors (Agrees text.length) (readEscape flags text) (readEscape flags inside) := by
  cases text with
  | nil => exact .error _ _
  | cons c rest =>
    obtain ⟨rest', rfl, hrest⟩ := h.uncons rfl
    have hlength : rest.length ≤ (c :: rest).length := Nat.le_succ _
    have hcode (count : ℕ) := (readCodePoint_mirrors flags count hrest).mono_agrees hlength
    have hletter (negated : Bool) (s basic : CharSet) :=
      letterSet_mirrors flags negated s basic hlength hrest
    simp only [readEscape]
    split
    -- most letters stand for something by themselves
    any_goals exact .done hlength hrest
    any_goals exact hletter _ _ _
    · exact hcode 2
    · exact hcode 4
    · exact hcode 8
    · exact ((readProperty_mirrors flags false hrest).mono_agrees hlength).andThen
        fun s _ _ hleft hin => .done hleft hin
    · exact ((readProperty_mirrors flags true hrest).mono_agrees hlength).andThen
        fun s _ _ hleft hin => .done hleft hin
    · exact ((readBoundary_mirrors flags hrest).mono_agrees hlength).andThen
        fun edge _ _ hleft hin => .done hleft hin
    · split
      · exact .error _ _
      · split
        · exact .done hlength hrest
        · exact .error _ _

end Parlance.Regex
