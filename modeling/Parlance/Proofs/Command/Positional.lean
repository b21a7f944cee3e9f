import Parlance.Proofs.Command.Argument
import Parlance.Token.Number

/-!
# An argument is read by its flag

An argument reads exactly the texts that are flagged for its name (`Flagged`): blanks, the flag, a
gap, and a value that its kind reads from behind the gap. Where the name has no blanks in it, the
flag is the first word of such a text. So of such names a text is flagged for one at most, also
where one name begins with the other.
-/

namespace Parlance.Command

open Parlance.Parser

variable {α β : Type} {c c' : Cursor} {name other : String} {text lead gap body : List Char}

/-! ## One flag at most -/

/-- A text is flagged for one name at most, of those without blanks. -/
lemma Flagged.name_eq {lead' gap' body' : List Char} (h : Flagged name text lead gap body)
    (h' : Flagged other text lead' gap' body') (hname : ∀ x ∈ name.toList, isBlank x = false)
    (hother : ∀ x ∈ other.toList, isBlank x = false) : name = other := by
  have hword : '-' :: name.toList = '-' :: other.toList := by
    rw [← h.firstWord_eq hname, h'.firstWord_eq hother]
  exact String.toList_inj.mp (List.cons.inj hword).2

/-- Where the text is flagged for a name, the arguments of other names fail. -/
lemma Flagged.fails_positional_of_ne (h : Flagged name c.ahead lead gap body)
    (hname : ∀ x ∈ name.toList, isBlank x = false)
    (hother : ∀ x ∈ other.toList, isBlank x = false) (hne : other ≠ name) (kind : Parser β) :
    (positional other kind).parse.Fails c := by
  apply fails_positional
  intro lead' gap' body' h'
  exact hne (h'.name_eq h hother hname)

/-! ## What an argument reads -/

variable {kind : Parser α}

lemma accepts_positional_iff {v : α} :
    (positional name kind).parse.Accepts c v c' ↔
      ∃ lead gap body, Flagged name c.ahead lead gap body ∧
        (c.past (front name lead gap)).ahead = body ∧
        kind.parse.Accepts (c.past (front name lead gap)) v c' := by
  constructor
  · intro h
    obtain ⟨lead, gap, body, hflagged⟩ := exists_flagged_of_accepts_positional h
    exact ⟨lead, gap, body, hflagged, Cursor.ahead_past_of_eq hflagged.text_eq,
      (hflagged.parse_positional_eq.1 v c').mp h⟩
  · intro ⟨lead, gap, body, hflagged, _, hkind⟩
    exact (hflagged.parse_positional_eq.1 v c').mpr hkind

lemma fails_positional_iff :
    (positional name kind).parse.Fails c ↔
      ∀ lead gap body, Flagged name c.ahead lead gap body →
        kind.parse.Fails (c.past (front name lead gap)) := by
  constructor
  · intro h lead gap body hflagged
    exact hflagged.parse_positional_eq.2.mp h
  · intro h
    by_cases hflagged : ∃ lead gap body, Flagged name c.ahead lead gap body
    · obtain ⟨lead, gap, body, hflagged⟩ := hflagged
      exact hflagged.parse_positional_eq.2.mpr (h lead gap body hflagged)
    · simp only [not_exists] at hflagged
      exact fails_positional hflagged

/-- An argument reads its value from behind its flag and the gap, and it fails where the text is not
flagged for it or its kind fails there. Where the argument of a name without blanks reads a value,
that of any other such name fails, whatever their kinds. -/
theorem positional_by_flag (name : String) (kind : Parser α) (c : Cursor) :
    (∀ v c', (positional name kind).parse.Accepts c v c' ↔
      ∃ lead gap body, Flagged name c.ahead lead gap body ∧
        (c.past (front name lead gap)).ahead = body ∧
        kind.parse.Accepts (c.past (front name lead gap)) v c') ∧
    ((positional name kind).parse.Fails c ↔
      ∀ lead gap body, Flagged name c.ahead lead gap body →
        kind.parse.Fails (c.past (front name lead gap))) ∧
    ∀ (other : String) {β : Type} (kind' : Parser β),
      (∀ x ∈ name.toList, isBlank x = false) → (∀ x ∈ other.toList, isBlank x = false) →
      other ≠ name → ∀ v c', (positional name kind).parse.Accepts c v c' →
        (positional other kind').parse.Fails c := by
  refine ⟨fun v c' => accepts_positional_iff, fails_positional_iff, ?_⟩
  intro other β kind' hname hother hne v c' h
  obtain ⟨lead, gap, body, hflagged⟩ := exists_flagged_of_accepts_positional h
  exact hflagged.fails_positional_of_ne hname hother hne kind'

/-- The name `user` begins the name `username`, and the one argument is not taken for the other. -/
theorem positional_by_flag_username :
    let c := Cursor.ofString " -username\t5 on"
    (positional "username" Token.nat).parse.Accepts c 5 (c.past " -username\t5".toList) ∧
      (positional "user" Token.nat).parse.Fails c := by
  intro c
  have hname : ∀ x ∈ "username".toList, isBlank x = false :=
    List.forall_iff_forall_mem.mp (by decide)
  have hother : ∀ x ∈ "user".toList, isBlank x = false :=
    List.forall_iff_forall_mem.mp (by decide)
  have hflagged : Flagged "username" c.ahead [' '] ['\t'] "5 on".toList :=
    ⟨by decide, by decide, List.cons_ne_nil _ _, by decide, by decide⟩
  have hvalue : Token.nat.parse.Accepts (c.past (front "username" [' '] ['\t'])) 5
      (c.past " -username\t5".toList) := ⟨0, by decide +kernel⟩
  obtain ⟨haccepts, -, hexclusive⟩ := positional_by_flag "username" Token.nat c
  have hread := (haccepts 5 _).mpr ⟨_, _, _, hflagged, by decide +kernel, hvalue⟩
  exact ⟨hread, hexclusive "user" Token.nat hname hother (by decide) 5 _ hread⟩

end Parlance.Command
