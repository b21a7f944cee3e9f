import Parlance.Proofs.Regex.Escape
import Parlance.Regex.Class

/-!
# Bracketed classes inside a group

A class ends with its own bracket, so it is read inside a group as outside of it
(`readClass_mirrors`). Where its reader looks further ahead than it reads, the parenthesis behind the
text makes no difference: either something of the text is found first, or nothing but what has no
meaning is left, and then the class is not closed (`dashIsRange_eq`).
-/

namespace Parlance.Regex

variable {text inside rest : List Char} {n : ℕ}

/-! ## Named sets -/

/-- The colon and the bracket behind a name are found on both sides or on neither. -/
lemma InGroup.named_ends (h : InGroup text inside) :
    (∃ rest rest', text.dropWhile (· ≠ ':') = ':' :: ']' :: rest ∧
      inside.dropWhile (· ≠ ':') = ':' :: ']' :: rest' ∧
      inside.takeWhile (· ≠ ':') = text.takeWhile (· ≠ ':') ∧ rest.length < text.length ∧
      InGroup rest rest') ∨
    (∀ rest, text.dropWhile (· ≠ ':') ≠ ':' :: ']' :: rest) ∧
      ∀ rest', inside.dropWhile (· ≠ ':') ≠ ':' :: ']' :: rest' := by
  cases hdrop : text.dropWhile (· ≠ ':') with
  | nil =>
    rw [h.dropWhile_eq_nil (by decide) hdrop]
    exact .inr ⟨nofun, nofun⟩
  | cons x rest =>
    obtain ⟨htake, rest', hdrop', hrest⟩ := h.takeWhile_dropWhile hdrop
    rw [hdrop']
    rcases (hrest.cons x).begins_both (x := ':') (y := ']') (by decide) (by decide) with
      ⟨_, _, hends, hends', hbehind⟩ | hopen
    · have hleft := (List.dropWhile_suffix (· ≠ ':') (l := text)).length_le
      rw [hdrop, hends, List.length_cons, List.length_cons] at hleft
      exact .inl ⟨_, _, hends, hends', htake, by omega, hbehind⟩
    · exact .inr hopen

/-- A named set is found on both sides or on neither. -/
lemma readNamed?_rel (flags : Flags) (h : InGroup text inside) :
    Option.Rel (Agrees text.length) (readNamed? flags text) (readNamed? flags inside) := by
  have hset (negated : Bool) (name : String) {rest rest' : List Char}
      (hleft : rest.length ≤ text.length) (hin : InGroup rest rest') :
      Option.Rel (Agrees text.length)
        ((CharSet.basic? name).map fun s => (flags.complIf negated (flags.fold s), rest))
        ((CharSet.basic? name).map fun s => (flags.complIf negated (flags.fold s), rest')) := by
    cases CharSet.basic? name with
    | none => exact .none
    | some s => exact .some (.intro hleft hin)
  rcases h.begins (x := ':') (by decide) with ⟨_, _, rfl, rfl, hname⟩ | ⟨hno, hno'⟩
  · rcases hname.begins (x := '^') (by decide) with ⟨_, _, rfl, rfl, hbehind⟩ | ⟨hno, hno'⟩
    · simp only [readNamed?]
      rcases hbehind.named_ends with
        ⟨rest, rest', hdrop, hdrop', htake, hlength, hrest⟩ | ⟨hopen, hopen'⟩
      · rw [hdrop, hdrop', htake]
        exact hset true _ (by simp only [List.length_cons]; omega) hrest
      · simp only
        exact .none
    · simp only [readNamed?]
      rcases hname.named_ends with
        ⟨rest, rest', hdrop, hdrop', htake, hlength, hrest⟩ | ⟨hopen, hopen'⟩
      · rw [hdrop, hdrop', htake]
        exact hset false _ (by simp only [List.length_cons]; omega) hrest
      · simp only
        exact .none
  · simp only [readNamed?]
    exact .none

/-! ## Items -/

lemma readItemPart_mirrors (flags : Flags) (h : InGroup text inside) :
    Mirrors (Agrees text.length) (readItemPart flags text) (readItemPart flags inside) := by
  cases text with
  | nil => exact .error _ _
  | cons c rest =>
    obtain ⟨rest', rfl, hrest⟩ := h.uncons rfl
    have hlength : rest.length ≤ (c :: rest).length := Nat.le_succ _
    by_cases hc : c = '\\'
    · subst hc
      exact (readEscape_mirrors flags hrest).mono_agrees hlength
    · simp only [readItemPart]
      exact .done hlength hrest

/-- What is found in the text is found with more behind it. -/
lemma peekSpaced_append {commented : Bool} {c : Char} (h : peekSpaced commented text = some c)
    (more : List Char) : peekSpaced commented (text ++ more) = some c := by
  induction text generalizing commented with
  | nil => cases h
  | cons x text ih =>
    rw [List.cons_append]
    unfold peekSpaced at h ⊢
    split
    · next hspace =>
      rw [if_pos hspace] at h
      exact ih h
    · next hspace =>
      rw [if_neg hspace] at h
      split
      · next hcomment =>
        rw [if_pos hcomment] at h
        exact ih h
      · next hcomment =>
        rwa [if_neg hcomment] at h

lemma peekSpaced_inGroup {c : Char} (h : InGroup text inside)
    (hpeek : peekSpaced false text = some c) : peekSpaced false inside = some c := by
  cases h with
  | closed => exact peekSpaced_append hpeek [')']
  | swallowed => exact hpeek

/-- If nothing with a meaning is found, there are only blanks and signs of comments. -/
lemma forall_of_peekSpaced {commented : Bool} (h : peekSpaced commented text = none) :
    ∀ c ∈ text, Unicode.isSpace c = true ∨ c = '#' := by
  induction text generalizing commented with
  | nil => exact List.forall_mem_nil _
  | cons x text ih =>
    rw [peekSpaced] at h
    split at h
    · next hspace => exact List.forall_mem_cons.mpr ⟨.inl hspace, ih h⟩
    · split at h
      · next hcomment =>
        have hx : x = '#' := by simpa using (Bool.and_eq_true_iff.mp hcomment).1
        exact List.forall_mem_cons.mpr ⟨.inr hx, ih h⟩
      · cases h

/-- Blanks and comments are passed over to the end. -/
lemma skipSpaceAndComments_eq_nil {commented : Bool}
    (h : ∀ c ∈ text, Unicode.isSpace c = true ∨ c = '#') :
    skipSpaceAndComments commented text = [] := by
  induction text generalizing commented with
  | nil => cases commented <;> rfl
  | cons x text ih =>
    obtain ⟨hx, htext⟩ := List.forall_mem_cons.mp h
    cases commented with
    | true => exact ih htext
    | false =>
      rw [skipSpaceAndComments]
      split
      · exact ih htext
      · next hspace =>
        rw [if_pos (hx.resolve_left hspace)]
        exact ih htext

/-- Whether a dash makes a range is decided by the text in front of the parenthesis, if that has
another item. -/
lemma dashIsRange_eq (flags : Flags) (h : InGroup text inside) :
    flags.skip text = [] ∧ dashIsRange flags text = true ∨
      dashIsRange flags inside = dashIsRange flags text := by
  cases text with
  | nil =>
    refine .inl ⟨List.eq_nil_of_length_eq_zero (Nat.le_zero.mp (flags.length_skip_le [])), ?_⟩
    unfold dashIsRange peek
    split <;> rfl
  | cons x rest =>
    obtain ⟨rest', rfl, hrest⟩ := h.uncons rfl
    unfold dashIsRange peek Flags.skip
    cases flags.spaced with
    | false => exact .inr rfl
    | true =>
      cases hpeek : peekSpaced false (x :: rest) with
      | some c =>
        simp only [if_true, peekSpaced_inGroup h hpeek]
        exact .inr rfl
      | none =>
        have hblank := forall_of_peekSpaced hpeek
        have hx := hblank x List.mem_cons_self
        have hbracket : x ≠ ']' := by
          rintro rfl
          exact absurd hx (by decide)
        have hdash : x ≠ '-' := by
          rintro rfl
          exact absurd hx (by decide)
        refine .inl ⟨skipSpaceAndComments_eq_nil hblank, ?_⟩
        simp [hbracket, hdash]

lemma readItem_mirrors (flags : Flags) (h : InGroup text inside) :
    Mirrors (Agrees text.length) (readItem flags text) (readItem flags inside) := by
  refine (readItemPart_mirrors flags h).andThen fun first rest rest' hleft hrest => ?_
  have hskip := hrest.skip flags
  have hlength := Nat.le_trans (flags.length_skip_le rest) hleft
  rcases hskip.begins (x := '-') (by decide) with
    ⟨after, after', htext, hinside, hafter⟩ | ⟨hno, hno'⟩
  · rw [htext, List.length_cons] at hlength
    simp only [htext, hinside]
    rcases dashIsRange_eq flags hafter with ⟨hnil, hrange⟩ | heq
    · -- the class ends where the other end of the range should be
      rw [if_pos hrange, hnil]
      exact .error _ _
    · rw [heq]
      split
      · refine (readItemPart_mirrors flags (hafter.skip flags)).andThen
          fun second rest rest' hleft hin => ?_
        have hend : rest.length ≤ text.length :=
          Nat.le_trans hleft (Nat.le_trans (flags.length_skip_le after) (Nat.le_of_lt hlength))
        simp only
        split
        · refine .bind_left _ fun low => .bind_left _ fun high => ?_
          split
          · exact .done hend hin
          · exact .error _ _
        · exact .error _ _
      · exact .bind_left _ fun s => .done hlength (hafter.cons '-')
  · simp only
    exact .bind_left _ fun s => .done hlength hskip

/-! ## Classes -/

lemma readLeadingDashes_of_not (flags : Flags) (fuel : ℕ) (items : Items)
    (h : ∀ rest, text ≠ '-' :: rest) : readLeadingDashes flags fuel items text = (items, text) := by
  cases fuel with
  | zero => rfl
  | succ fuel => simp only [readLeadingDashes]

lemma readLeadingDashes_agrees (flags : Flags) (items : Items) {fuel fuel' : ℕ}
    (h : InGroup text inside) (hfuel : text.length ≤ fuel) (hfuel' : fuel ≤ fuel') :
    Agrees text.length (readLeadingDashes flags fuel items text)
      (readLeadingDashes flags fuel' items inside) := by
  induction fuel generalizing fuel' items text inside with
  | zero =>
    obtain rfl := List.eq_nil_of_length_eq_zero (Nat.le_zero.mp hfuel)
    rcases h.begins (x := '-') (by decide) with ⟨_, _, hnil, -, -⟩ | ⟨-, hno'⟩
    · cases hnil
    · rw [readLeadingDashes_of_not flags fuel' items hno']
      exact .intro (Nat.le_refl _) h
  | succ fuel ih =>
    obtain ⟨fuel', rfl⟩ : ∃ k, fuel' = k + 1 := Nat.exists_eq_succ_of_ne_zero (by omega)
    rcases h.begins (x := '-') (by decide) with ⟨rest, rest', rfl, rfl, hrest⟩ | ⟨hno, hno'⟩
    · have hskip := flags.length_skip_le rest
      have hlater := ih (items.add (.single '-') 0) (hrest.skip flags)
        (Nat.le_trans hskip (Nat.le_of_succ_le_succ hfuel)) (Nat.le_of_succ_le_succ hfuel')
      exact hlater.mono (Nat.le_succ_of_le hskip)
    · rw [readLeadingDashes_of_not flags _ items hno, readLeadingDashes_of_not flags _ items hno']
      exact .intro (Nat.le_refl _) h

lemma readClassStart_agrees (flags : Flags) (h : InGroup text inside) :
    AgreesBoth text.length (readClassStart flags text) (readClassStart flags inside) := by
  have hdashes (negated : Bool) {t t' : List Char} (hlength : t.length ≤ text.length)
      (ht : InGroup t t') : AgreesBoth text.length
        (negated, readLeadingDashes flags t.length .empty t)
        (negated, readLeadingDashes flags t'.length .empty t') := by
    have hread := readLeadingDashes_agrees flags .empty ht (Nat.le_refl _) ht.length_le
    generalize readLeadingDashes flags t.length .empty t = read,
      readLeadingDashes flags t'.length .empty t' = read' at hread ⊢
    obtain ⟨hleft, hin⟩ := hread
    exact .intro (Nat.le_trans hleft hlength) hin
  have hskip := h.skip flags
  have hlength := flags.length_skip_le text
  rcases hskip.begins (x := '^') (by decide) with
    ⟨rest, rest', htext, hinside, hrest⟩ | ⟨hno, hno'⟩
  · rw [htext, List.length_cons] at hlength
    simp only [readClassStart, htext, hinside]
    have hbehind := hrest.skip flags
    have hleft := Nat.le_trans (flags.length_skip_le rest) (Nat.le_of_lt hlength)
    rcases hbehind.begins (x := ']') (by decide) with ⟨_, _, hclose, hclose', hin⟩ | ⟨hno, hno'⟩
    · rw [hclose, hclose']
      rw [hclose] at hleft
      exact .intro (Nat.le_of_succ_le hleft) hin
    · simp only
      exact hdashes true hleft hbehind
  · simp only [readClassStart]
    rcases hskip.begins (x := ']') (by decide) with ⟨_, _, hclose, hclose', hin⟩ | ⟨hno, hno'⟩
    · rw [hclose, hclose']
      rw [hclose] at hlength
      exact .intro (Nat.le_of_succ_le hlength) hin
    · simp only
      exact hdashes false hlength hskip

lemma readClassRest_mirrors (flags : Flags) (negated : Bool) (waiting : Waiting) (items : Items)
    {fuel fuel' : ℕ} (hfuel : fuel ≤ fuel') (h : InGroup text inside) :
    Mirrors (Agrees text.length) (readClassRest flags fuel negated waiting items text)
      (readClassRest flags fuel' negated waiting items inside) := by
  induction fuel generalizing fuel' negated waiting items text inside with
  | zero => exact .error _ _
  | succ fuel ih =>
    obtain ⟨fuel', rfl⟩ : ∃ k, fuel' = k + 1 := Nat.exists_eq_succ_of_ne_zero (by omega)
    have hfuel := Nat.le_of_succ_le_succ hfuel
    have hskip := h.skip flags
    have hlength := flags.length_skip_le text
    rcases hskip.begins (x := '[') (by decide) with
      ⟨rest, rest', htext, hinside, hrest⟩ | ⟨hopen, hopen'⟩
    · rw [htext, List.length_cons] at hlength
      simp only [readClassRest, htext, hinside]
      have hnamed := readNamed?_rel flags hrest
      generalize readNamed? flags rest = found, readNamed? flags rest' = found' at hnamed ⊢
      cases hnamed with
      | some hagrees =>
        obtain ⟨hleft, hin⟩ := hagrees
        exact .bind_left _ fun s => (ih _ _ _ hfuel hin).mono_agrees (by omega)
      | none =>
        have hstart := readClassStart_agrees flags hrest
        generalize readClassStart flags rest = start,
          readClassStart flags rest' = start' at hstart ⊢
        obtain ⟨hleft, hin⟩ := hstart
        refine (ih _ _ _ hfuel hin).andThen fun inner _ _ hbehind hafter => ?_
        exact (ih _ _ _ hfuel hafter).mono_agrees (by omega)
    rcases hskip.begins (x := ']') (by decide) with
      ⟨rest, rest', htext, hinside, hrest⟩ | ⟨hclose, hclose'⟩
    · rw [htext, List.length_cons] at hlength
      simp only [readClassRest, htext, hinside]
      exact .bind_left _ fun s => .done (Nat.le_of_lt hlength) hrest
    rcases hskip.begins_both (x := '&') (y := '&') (by decide) (by decide) with
      ⟨rest, rest', htext, hinside, hrest⟩ | ⟨hinter, hinter'⟩
    · rw [htext, List.length_cons, List.length_cons] at hlength
      simp only [readClassRest, htext, hinside]
      exact (ih _ _ _ hfuel hrest).mono_agrees (by omega)
    rcases hskip.begins_both (x := '-') (y := '-') (by decide) (by decide) with
      ⟨rest, rest', htext, hinside, hrest⟩ | ⟨hdiff, hdiff'⟩
    · rw [htext, List.length_cons, List.length_cons] at hlength
      simp only [readClassRest, htext, hinside]
      exact (ih _ _ _ hfuel hrest).mono_agrees (by omega)
    rcases hskip.begins_both (x := '~') (y := '~') (by decide) (by decide) with
      ⟨rest, rest', htext, hinside, hrest⟩ | ⟨hsymm, hsymm'⟩
    · rw [htext, List.length_cons, List.length_cons] at hlength
      simp only [readClassRest, htext, hinside]
      exact (ih _ _ _ hfuel hrest).mono_agrees (by omega)
    by_cases hnil : flags.skip text = []
    · simp only [readClassRest, hnil]
      exact .error _ _
    · have hnil' : flags.skip inside ≠ [] := by
        intro heq
        have hle := hskip.length_le
        rw [heq] at hle
        exact hnil (List.eq_nil_of_length_eq_zero (Nat.le_zero.mp hle))
      simp only [readClassRest]
      refine (readItem_mirrors flags hskip).andThen fun item _ _ hleft hin => ?_
      exact (ih _ _ _ hfuel hin).mono_agrees (Nat.le_trans hleft hlength)

theorem readClass_mirrors (flags : Flags) (h : InGroup text inside) :
    Mirrors (Agrees text.length) (readClass flags text) (readClass flags inside) := by
  have hstart := readClassStart_agrees flags h
  unfold readClass
  generalize readClassStart flags text = start, readClassStart flags inside = start' at hstart ⊢
  obtain ⟨hleft, hin⟩ := hstart
  exact (readClassRest_mirrors flags _ none _ (Nat.succ_le_succ hin.length_le) hin).mono_agrees hleft

end Parlance.Regex
