import Parlance.ParseError

/-!
# Parses

A `Parse α` reads from a cursor. If the cursor is used properly there is a reply: a value or the
reason why the text is rejected, and in both cases the cursor as it was left, because a rejected
text may have been read in part. `speculate` is what takes such reading back.

A reply also counts attempts. The count is only ever added to, so no parse can depend on it.
-/

namespace Parlance

/-- What a parse answers. -/
structure Reply (α : Type) where
  result : Except ParseError α
  cursor : Cursor
  /-- How many counted attempts were made on the way. -/
  attempts : Nat
deriving Repr

/-- A way to read a value of type `α` from a cursor. -/
def Parse (α : Type) : Type := Cursor → Except Fault (Reply α)

namespace Parse

variable {α β γ : Type}

/-! ## Sequencing -/

/-- Answers `a` and reads nothing. -/
protected def pure (a : α) : Parse α := fun c => .ok ⟨.ok a, c, 0⟩

/-- Reads with `p` and then as `f` says of its value. An error of `p` is the answer of the whole. -/
protected def bind (p : Parse α) (f : α → Parse β) : Parse β := fun c =>
  match p c with
  | .error fault => .error fault
  | .ok ⟨.error e, c', n⟩ => .ok ⟨.error e, c', n⟩
  | .ok ⟨.ok a, c', n⟩ =>
    match f a c' with
    | .error fault => .error fault
    | .ok reply => .ok { reply with attempts := n + reply.attempts }

instance : Monad Parse where
  pure := Parse.pure
  bind := Parse.bind

theorem pure_apply (a : α) (c : Cursor) : (pure a : Parse α) c = .ok ⟨.ok a, c, 0⟩ := rfl

theorem bind_apply (p : Parse α) (f : α → Parse β) (c : Cursor) :
    (p >>= f) c = match p c with
      | .error fault => .error fault
      | .ok ⟨.error e, c', n⟩ => .ok ⟨.error e, c', n⟩
      | .ok ⟨.ok a, c', n⟩ =>
        match f a c' with
        | .error fault => .error fault
        | .ok reply => .ok { reply with attempts := n + reply.attempts } := rfl

protected theorem id_map (p : Parse α) : id <$> p = p := by
  funext c
  show Parse.bind p (fun a => Parse.pure a) c = p c
  unfold Parse.bind Parse.pure
  rcases p c with fault | ⟨e | a, c', n⟩ <;> rfl

protected theorem pure_bind (a : α) (f : α → Parse β) : pure a >>= f = f a := by
  funext c
  show Parse.bind (Parse.pure a) f c = f a c
  unfold Parse.bind Parse.pure
  dsimp only
  rcases f a c with fault | ⟨r, c', n⟩
  · rfl
  · simp

protected theorem bind_assoc (p : Parse α) (f : α → Parse β) (g : β → Parse γ) :
    p >>= f >>= g = p >>= fun a => f a >>= g := by
  funext c
  show Parse.bind (Parse.bind p f) g c = Parse.bind p (fun a => Parse.bind (f a) g) c
  unfold Parse.bind
  -- Each step is answered by a fault, an error or a value, and only a value leads to the next.
  rcases p c with fault | ⟨e | a, c₁, n₁⟩
  · rfl
  · rfl
  · dsimp only
    rcases f a c₁ with fault | ⟨e | b, c₂, n₂⟩
    · rfl
    · rfl
    · dsimp only
      rcases g b c₂ with fault | ⟨r, c₃, n₃⟩
      · rfl
      · simp [Nat.add_assoc]

/-- Sequencing obeys the laws of a monad: attempts are added up, and `pure` makes none. -/
instance : LawfulMonad Parse :=
  LawfulMonad.mk' Parse Parse.id_map Parse.pure_bind Parse.bind_assoc

/-! ## Steps -/

/-- Answers with the cursor itself. -/
def get : Parse Cursor := fun c => .ok ⟨.ok c, c, 0⟩

/-- Moves the cursor. -/
def modify (f : Cursor → Cursor) : Parse Unit := fun c => .ok ⟨.ok (), f c, 0⟩

/-- Reads one symbol, if there is one. -/
def advance : Parse (Option Char) := fun c =>
  .ok ⟨.ok c.advance.1, c.advance.2, 0⟩

/-- Rejects the text with an error made at the cursor. -/
def fail (error : Cursor → ParseError) : Parse α := fun c => .ok ⟨.error (error c), c, 0⟩

/-- Rejects a value that was read. -/
def reject (message : String) : Parse α := fail fun _ => .custom message

/-- Gives no reply at all. -/
def fault (f : Fault) : Parse α := fun _ => .error f

/-- Counts `p` as one attempt. -/
def counted (p : Parse α) : Parse α := fun c =>
  match p c with
  | .error fault => .error fault
  | .ok reply => .ok { reply with attempts := reply.attempts + 1 }

/-! ## Trying -/

/-- Runs `p` from a saved place, and goes back to it if `p` rejects the text. -/
def speculate (p : Parse α) : Parse α := fun c =>
  match p c.commit with
  | .error fault => .error fault
  | .ok ⟨.ok a, c', n⟩ =>
    match c'.finish with
    | .error fault => .error fault
    | .ok c'' => .ok ⟨.ok a, c'', n⟩
  | .ok ⟨.error e, c', n⟩ =>
    match c'.rollback with
    | .error fault => .error fault
    | .ok c'' => .ok ⟨.error e, c'', n⟩

/-- Like `speculate`, but a rejected text is not an error: the answer is that there is no value. -/
def tentatively (p : Parse α) : Parse (Option α) := fun c =>
  match p.speculate c with
  | .error fault => .error fault
  | .ok ⟨.ok a, c', n⟩ => .ok ⟨.ok (some a), c', n⟩
  | .ok ⟨.error _, c', n⟩ => .ok ⟨.ok none, c', n⟩

/-- Runs `p` as one verbatim token, in which blanks are not skipped. -/
def verbatim (p : Parse α) : Parse α := fun c =>
  match p c.enterVerbatim with
  | .error fault => .error fault
  | .ok reply => .ok { reply with cursor := reply.cursor.exitVerbatim }

end Parse

end Parlance
