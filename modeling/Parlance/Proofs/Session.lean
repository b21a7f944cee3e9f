import Parlance.Session
import Parlance.Proofs.Frame
import Parlance.Proofs.Place

/-!
# Sessions

A `Run` is a sequence of operations on a cursor, none of which is misused. What an operation can do
to a cursor is told once, by `Operation.Effect`: it reads some of the text ahead, or it saves, drops
or restores a place, or it enters or leaves a verbatim token. Two facts about whole runs follow by
induction from what one operation does.

* Cursors that are reached from a fresh one are sound (`Run.sound`): the current place and all saved
  ones are places in the text, and a place that was saved later is not before one that was saved
  earlier.
* A run that is balanced leaves the saved places as it found them (`Run.saved_eq`), so a place that
  was saved before it can be restored or dropped behind it.
-/

namespace Parlance

/-! ## Runs -/

/-- `Run c operations c'`: the operations can be performed on `c`, in order, and leave `c'`. Each
may refer to rules of its own. -/
inductive Run : Cursor → List Operation → Cursor → Prop
  | nil (c : Cursor) : Run c [] c
  | cons (rules : Rules) {operation : Operation} {operations : List Operation} {answer : Answer}
    {c c₁ c' : Cursor} :
    operation.perform rules c = .ok (answer, c₁) → Run c₁ operations c' →
    Run c (operation :: operations) c'

/-- Every cursor on the way through a list of operations is reached by a run. -/
lemma run_of_mem_performAll {rules : Rules} {c : Cursor} {operations : List Operation}
    {answer : Answer} {c' : Cursor}
    (h : (answer, c') ∈ (Operation.performAll rules c operations).1) :
    ∃ performed, performed <+: operations ∧ Run c performed c' := by
  induction operations generalizing c with
  | nil => cases h
  | cons operation operations ih =>
    rw [Operation.performAll] at h
    cases hperform : operation.perform rules c with
    | error fault =>
      rw [hperform] at h
      cases h
    | ok reply =>
      obtain ⟨first, c₁⟩ := reply
      rw [hperform] at h
      rcases List.mem_cons.mp h with heq | h
      · obtain ⟨-, rfl⟩ := Prod.mk.inj heq
        exact ⟨[operation], ⟨operations, rfl⟩, .cons rules hperform (.nil c')⟩
      · obtain ⟨performed, hbegins, hrun⟩ := ih h
        exact ⟨operation :: performed, List.cons_prefix_cons.mpr ⟨rfl, hbegins⟩,
          .cons rules hperform hrun⟩

/-! ## What an operation does -/

namespace Cursor

variable {c c' : Cursor}

lemma eq_of_consume_eq_ok {bytes : ℕ} (h : c.consume bytes = .ok c') :
    c' = c.advanceBytes bytes := by
  unfold consume at h
  split at h
  · exact (Except.ok.inj h).symm
  · cases h

lemma exists_saved_of_finish (h : c.finish = .ok c') :
    ∃ place saved, c.saved = place :: saved ∧ c' = { c with saved := saved } := by
  unfold finish at h
  split at h
  · cases h
  · next place saved hsaved => exact ⟨place, saved, hsaved, (Except.ok.inj h).symm⟩

lemma exists_saved_of_rollback (h : c.rollback = .ok c') :
    ∃ place saved, c.saved = place :: saved ∧
      c' = { c with place := place, saved := saved } := by
  unfold rollback at h
  split at h
  · cases h
  · next place saved hsaved => exact ⟨place, saved, hsaved, (Except.ok.inj h).symm⟩

end Cursor

namespace Operation

/-- Whether an operation does nothing but read on, if it does anything at all. -/
def onlyReads : Operation → Bool
  | .commit | .finish | .rollback | .enterVerbatim | .exitVerbatim => false
  | _ => true

/-- What an operation can do to a cursor. -/
inductive Effect (c : Cursor) : Operation → Cursor → Prop
  | reads {operation : Operation} {t : List Char} :
    operation.onlyReads = true → t <+: c.ahead → Effect c operation (c.past t)
  | commit : Effect c .commit c.commit
  | finish {place : Place} {saved : List Place} :
    c.saved = place :: saved → Effect c .finish { c with saved := saved }
  | rollback {place : Place} {saved : List Place} :
    c.saved = place :: saved → Effect c .rollback { c with place := place, saved := saved }
  | enterVerbatim : Effect c .enterVerbatim c.enterVerbatim
  | exitVerbatim : Effect c .exitVerbatim c.exitVerbatim

variable {operation : Operation} {c c' : Cursor} {rules : Rules} {answer : Answer}

lemma Effect.stays (h : operation.onlyReads = true) : Effect c operation c :=
  .reads (t := []) h List.nil_prefix

lemma Effect.ofPast (h : operation.onlyReads = true)
    (hpast : ∃ t, t <+: c.ahead ∧ c' = c.past t) : Effect c operation c' := by
  obtain ⟨t, ht, rfl⟩ := hpast
  exact .reads h ht

/-- A parse reads on if it is orderly, whatever its result. -/
lemma Effect.ofParse {p : Parse Value} (hp : p.Orderly) (h : operation.onlyReads = true)
    (hperform : Operation.ofParse p c = .ok (answer, c')) : Effect c operation c' := by
  obtain ⟨reply, hreply, ⟨⟩⟩ := exists_of_map_eq_ok (x := p c) hperform
  exact .ofPast h (hp.forward hreply)

/-- An operation that is not misused has one of these effects. -/
theorem effect_of_perform (h : operation.perform rules c = .ok (answer, c')) :
    Effect c operation c' := by
  cases operation with
  | advance =>
    cases h
    exact .ofPast rfl c.exists_advance_eq
  | consume bytes =>
    obtain ⟨c₁, hconsume, ⟨⟩⟩ := exists_of_map_eq_ok (x := c.consume bytes) h
    rw [Cursor.eq_of_consume_eq_ok hconsume]
    exact .ofPast rfl (c.exists_advanceBytes_eq bytes)
  | commit =>
    cases h
    exact .commit
  | finish =>
    obtain ⟨c₁, hfinish, ⟨⟩⟩ := exists_of_map_eq_ok (x := c.finish) h
    obtain ⟨place, saved, hsaved, rfl⟩ := Cursor.exists_saved_of_finish hfinish
    exact .finish hsaved
  | rollback =>
    obtain ⟨c₁, hrollback, ⟨⟩⟩ := exists_of_map_eq_ok (x := c.rollback) h
    obtain ⟨place, saved, hsaved, rfl⟩ := Cursor.exists_saved_of_rollback hrollback
    exact .rollback hsaved
  | skipBlank =>
    cases h
    exact .ofPast rfl c.exists_skipBlank_eq
  | enterVerbatim =>
    cases h
    exact .enterVerbatim
  | exitVerbatim =>
    cases h
    exact .exitVerbatim
  | parse g => exact .ofParse (g.orderly_parse rules) rfl h
  | attempt g => exact .ofParse (g.orderly_attempt rules) rfl h
  | speculate g => exact .ofParse (g.orderly_parse rules).speculate rfl h
  | peek | lookbehind | tail | source | expectedEnd | unexpectedEnd | unexpectedSymbol =>
    cases h
    exact .stays rfl

end Operation

/-! ## Soundness -/

/-- A cursor over `text` as it should be. -/
structure Cursor.Sound (text : List Char) (c : Cursor) : Prop where
  place : c.place.IsIn text
  saved : ∀ p ∈ c.saved, p.IsIn text
  /-- What was saved later is not before what was saved earlier, and not behind the cursor. -/
  sorted : (c.place :: c.saved).Pairwise fun p q => q.position.offset ≤ p.position.offset

lemma Cursor.sound_ofSymbols (text : List Char) : (ofSymbols text).Sound text where
  place := Place.isIn_start text
  saved p hp := by cases hp
  sorted := List.pairwise_singleton _ _

/-- Reading on only moves the cursor further away from the saved places. -/
lemma Cursor.Sound.past {text t : List Char} {c : Cursor} (h : c.Sound text)
    (ht : t <+: c.ahead) : (c.past t).Sound text where
  place := h.place.past ht
  saved := h.saved
  sorted := by
    obtain ⟨hplace, hsaved⟩ := List.pairwise_cons.mp h.sorted
    refine List.pairwise_cons.mpr ⟨fun p hp => ?_, hsaved⟩
    calc p.position.offset ≤ c.offset := hplace p hp
      _ ≤ (c.past t).offset := by rw [offset_past]; exact Nat.le_add_right _ _

/-- Every operation keeps a cursor sound. -/
lemma Operation.Effect.sound {text : List Char} {operation : Operation} {c c' : Cursor}
    (h : Effect c operation c') (hc : c.Sound text) : c'.Sound text := by
  cases h with
  | reads _ ht => exact hc.past ht
  | commit =>
    refine ⟨hc.place, fun p hp => ?_, ?_⟩
    · rcases List.mem_cons.mp hp with rfl | hp
      · exact hc.place
      · exact hc.saved p hp
    · refine List.pairwise_cons.mpr ⟨fun p hp => ?_, hc.sorted⟩
      rcases List.mem_cons.mp hp with rfl | hp
      · exact Nat.le_refl _
      · exact List.rel_of_pairwise_cons hc.sorted hp
  | @finish place saved hsaved =>
    have hsorted := hc.sorted
    rw [hsaved] at hsorted
    refine ⟨hc.place, fun p hp => hc.saved p ?_, ?_⟩
    · exact hsaved ▸ List.mem_cons_of_mem place hp
    · exact hsorted.sublist (List.Sublist.cons_cons _ (List.sublist_cons_self _ _))
  | @rollback place saved hsaved =>
    have hsorted := hc.sorted
    rw [hsaved] at hsorted
    refine ⟨hc.saved place ?_, fun p hp => hc.saved p ?_, hsorted.of_cons⟩
    · exact hsaved ▸ List.mem_cons_self
    · exact hsaved ▸ List.mem_cons_of_mem place hp
  | enterVerbatim => exact ⟨hc.place, hc.saved, hc.sorted⟩
  | exitVerbatim => exact ⟨hc.place, hc.saved, hc.sorted⟩

/-- Every run keeps a cursor sound. -/
theorem Run.sound {text : List Char} {operations : List Operation} {c c' : Cursor}
    (h : Run c operations c') (hc : c.Sound text) : c'.Sound text := by
  induction h with
  | nil => exact hc
  | cons _ hperform _ ih => exact ih ((Operation.effect_of_perform hperform).sound hc)

/-! ## Balanced runs -/

/-- How many of its own places a run has saved after an operation, if there are `n` before. There
is no such number if the operation would drop or restore a place that is not the run's own. -/
def Operation.ownSaved (n : ℕ) : Operation → Option ℕ
  | .commit => some (n + 1)
  | .finish | .rollback => if n = 0 then none else some (n - 1)
  | _ => some n

/-- Operations that drop or restore exactly the places that they save. -/
def Balanced (operations : List Operation) : Prop :=
  operations.foldlM Operation.ownSaved 0 = some 0

instance (operations : List Operation) : Decidable (Balanced operations) :=
  inferInstanceAs (Decidable (_ = _))

lemma Operation.ownSaved_of_onlyReads {operation : Operation} (h : operation.onlyReads = true)
    (n : ℕ) : operation.ownSaved n = some n := by
  cases operation <;> first | rfl | cases h

/-- The place that is dropped or restored is the run's own one that was saved last. -/
lemma exists_own_of_cons {place : Place} {saved own base : List Place} {m : ℕ}
    (hown : (if own.length = 0 then none else some (own.length - 1)) = some m)
    (hsaved : place :: saved = own ++ base) :
    ∃ own' : List Place, own'.length = m ∧ saved = own' ++ base := by
  cases own with
  | nil => cases hown
  | cons top own => exact ⟨own, Option.some.inj hown, (List.cons.inj hsaved).2⟩

/-- An operation only changes the places that are the run's own. -/
lemma Operation.Effect.exists_own {operation : Operation} {c c' : Cursor} {m : ℕ}
    {own base : List Place} (h : Effect c operation c')
    (hown : operation.ownSaved own.length = some m) (hsaved : c.saved = own ++ base) :
    ∃ own' : List Place, own'.length = m ∧ c'.saved = own' ++ base := by
  cases h with
  | reads hreads ht =>
    rw [ownSaved_of_onlyReads hreads] at hown
    exact ⟨own, Option.some.inj hown, hsaved⟩
  | commit => exact ⟨c.place :: own, Option.some.inj hown, congrArg (c.place :: ·) hsaved⟩
  | finish hcons => exact exists_own_of_cons hown (hcons ▸ hsaved)
  | rollback hcons => exact exists_own_of_cons hown (hcons ▸ hsaved)
  | enterVerbatim => exact ⟨own, Option.some.inj hown, hsaved⟩
  | exitVerbatim => exact ⟨own, Option.some.inj hown, hsaved⟩

/-- Places saved before a run are still saved after it, below those of the run. -/
lemma Run.exists_own {operations : List Operation} {c c' : Cursor} {m : ℕ}
    {own base : List Place} (h : Run c operations c')
    (hown : operations.foldlM Operation.ownSaved own.length = some m)
    (hsaved : c.saved = own ++ base) :
    ∃ own' : List Place, own'.length = m ∧ c'.saved = own' ++ base := by
  induction h generalizing own with
  | nil => exact ⟨own, Option.some.inj hown, hsaved⟩
  | cons _ hperform _ ih =>
    rw [List.foldlM_cons] at hown
    obtain ⟨k, hk, hrest⟩ := Option.bind_eq_some_iff.mp hown
    obtain ⟨own₁, rfl, hsaved₁⟩ := (Operation.effect_of_perform hperform).exists_own hk hsaved
    exact ih hrest hsaved₁

/-- A balanced run leaves the saved places as it found them. -/
theorem Run.saved_eq {operations : List Operation} {c c' : Cursor} (h : Run c operations c')
    (hbalanced : Balanced operations) : c'.saved = c.saved := by
  -- none of the places that are saved before the run are its own
  have hown : operations.foldlM Operation.ownSaved ([] : List Place).length = some 0 := hbalanced
  obtain ⟨own, hlength, hsaved⟩ := h.exists_own hown (List.nil_append c.saved).symm
  rw [hsaved, List.length_eq_zero_iff.mp hlength, List.nil_append]

/-! ## What a session can rely on -/

/-- Whatever is done to a cursor, it tells truthfully where it is: in the text, with the offset, row
and column that the text before it gives, that text behind it and the remaining one ahead. The
saved places are such places too, in the order of the text. After a further commit and a balanced
run, going back leads to the place of the commit, and to finish keeps the place that was reached;
both leave the saved places as they were before the commit. -/
theorem Run.cursor_invariant {text : String} {operations : List Operation} {c : Cursor}
    (h : Run (.ofString text) operations c) :
    (∃ front back, text.toList = front ++ back ∧ c.position = .after front ∧
        c.tail = String.ofList back ∧
        ∀ n, c.lookbehind n = if n = 0 then none else front.reverse[n - 1]?) ∧
      (∀ p ∈ c.saved, p.IsIn text.toList) ∧
      (c.place :: c.saved).Pairwise (fun p q => q.position.offset ≤ p.position.offset) ∧
      ∀ inner c₁, Balanced inner → Run c.commit inner c₁ →
        c₁.rollback = .ok { c₁ with place := c.place, saved := c.saved } ∧
          c₁.finish = .ok { c₁ with saved := c.saved } := by
  have hsound := h.sound (Cursor.sound_ofSymbols text.toList)
  obtain ⟨front, back, htext, hplace⟩ := hsound.place
  refine ⟨⟨front, back, htext, ?_, Cursor.tail_of_place_eq hplace,
    Cursor.lookbehind_of_place_eq hplace⟩, hsound.saved, hsound.sorted, ?_⟩
  · rw [Cursor.position, hplace]
    rfl
  · intro inner c₁ hbalanced hinner
    have hsaved : c₁.saved = c.place :: c.saved := hinner.saved_eq hbalanced
    unfold Cursor.rollback Cursor.finish
    rw [hsaved]
    exact ⟨rfl, rfl⟩

/-- A run that goes back to an earlier row, with a failed speculation inside. -/
theorem Run.cursor_invariant_rows :
    let operations : List Operation :=
      [.commit, .parse (.literal "é"), .commit, .advance, .commit, .consume 1,
        .speculate (.few [.literal "b", .literal "c"]), .finish, .rollback]
    let inner : List Operation :=
      [.advance, .commit, .attempt (.token .word), .rollback, .enterVerbatim]
    let start := Place.start "é\nabd".toList
    let c : Cursor := ⟨start.past ['é'], [start], 0⟩
    let c₁ : Cursor := ⟨start.past ['é', '\n'], [start.past ['é'], start], 1⟩
    Run (.ofString "é\nabd") operations c ∧ Balanced inner ∧ Run c.commit inner c₁ ∧
      c₁.rollback = .ok ⟨start.past ['é'], [start], 1⟩ ∧
      c₁.finish = .ok ⟨start.past ['é', '\n'], [start], 1⟩ := by
  intro operations inner start c c₁
  have hrun : Run (.ofString "é\nabd") operations c :=
    .cons [] rfl (.cons [] rfl (.cons [] rfl (.cons [] rfl (.cons [] rfl (.cons [] rfl
      (.cons [] rfl (.cons [] rfl (.cons [] rfl (.nil _)))))))))
  have hinner : Run c.commit inner c₁ :=
    .cons [] rfl (.cons [] rfl (.cons [] rfl (.cons [] rfl (.cons [] rfl (.nil _)))))
  have hbalanced : Balanced inner := by decide
  exact ⟨hrun, hbalanced, hinner, hrun.cursor_invariant.2.2.2 inner c₁ hbalanced hinner⟩

end Parlance
