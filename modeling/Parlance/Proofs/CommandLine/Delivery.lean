import Parlance.CommandLine.Run
import Mathlib.Tactic.Common
import Mathlib.Tactic.Lemma

/-!
# How messages arrive

Messages are arguments of the program or lines of its input. A message that is a line by itself can
be given either way: the lines of the input are the messages again (`splitLines_unlines`), and so
are the arguments behind a separator, whatever options stand in front of it
(`readArguments_append_separator`).
-/

namespace Parlance.CommandLine

/-! ## Lines of the input -/

/-- A message that can be given as a line: nothing in it ends a line, and nothing at its end would
be taken for a part of the end of the line. -/
def IsLine (message : String) : Prop :=
  '\n' ∉ message.toList ∧ message.toList.getLast? ≠ some '\r'

instance (message : String) : Decidable (IsLine message) :=
  inferInstanceAs (Decidable (_ ∧ _))

/-- A text with each message on a line. -/
def unlines (messages : List String) : String := String.join (messages.map (· ++ "\n"))

variable {line text rest : List Char} {messages : List String}

lemma splitLines_append (htext : '\n' ∉ text) :
    splitLines line (text ++ rest) = splitLines (text.reverse ++ line) rest := by
  induction text generalizing line with
  | nil => rfl
  | cons x text ih =>
    rw [List.mem_cons, not_or] at htext
    rw [List.cons_append, splitLines, if_neg (Ne.symm htext.1), ih htext.2]
    simp

lemma finishLine_reverse (htext : text.getLast? ≠ some '\r') :
    finishLine text.reverse = String.ofList text := by
  rw [← List.head?_reverse] at htext
  unfold finishLine
  split
  · next hreturn =>
    rw [hreturn] at htext
    exact absurd rfl htext
  · rw [List.reverse_reverse]

/-- Messages that are lines by themselves come back from a text with each of them on a line. -/
theorem splitLines_unlines (hlines : ∀ message ∈ messages, IsLine message) :
    splitLines [] (unlines messages).toList = messages := by
  induction messages with
  | nil => rfl
  | cons message messages ih =>
    obtain ⟨⟨hnewline, hreturn⟩, hlines⟩ := List.forall_mem_cons.mp hlines
    have htext : (unlines (message :: messages)).toList =
        message.toList ++ '\n' :: (unlines messages).toList := by
      simp [unlines]
    rw [htext, splitLines_append hnewline, splitLines, if_pos rfl, List.append_nil,
      finishLine_reverse hreturn, String.ofList_toList, ih hlines]

/-! ## Arguments behind the separator -/

namespace Options

lemma eq_of_classify_eq_separator {argument : String} (h : classify argument = .separator) :
    argument = "--" := by
  unfold classify at h
  split at h
  · next heq =>
    rw [← String.toList_inj, heq]
    rfl
  · dsimp only at h
    split at h <;> cases h
  · cases h
  · cases h
  · cases h

lemma exists_of_bind_eq_ok {x : Except UsageError Options} {f : Options → Except UsageError Options}
    {o' : Options} (h : x >>= f = .ok o') : ∃ o, x = .ok o ∧ f o = .ok o' := by
  cases x with
  | error e => cases h
  | ok o => exact ⟨o, rfl, h⟩

/-- Whatever follows the separator is a message, and the options in front of it are read as if they
stood alone. -/
theorem readArguments_append_separator {o o' : Options} {arguments : List String}
    (hnone : "--" ∉ arguments) (h : readArguments o arguments = .ok o') :
    readArguments o (arguments ++ "--" :: messages) =
      .ok { o' with messages := o'.messages ++ messages } := by
  induction o, arguments using readArguments.induct with
  | case1 o =>
    cases h
    rfl
  | case2 o argument rest hkind =>
    rw [eq_of_classify_eq_separator hkind] at hnone
    exact absurd List.mem_cons_self hnone
  | case3 o argument rest text hkind ih =>
    simp only [List.cons_append, readArguments, hkind] at h ⊢
    exact ih (List.not_mem_of_not_mem_cons hnone) h
  | case4 o argument rest hkind | case5 o argument rest text hkind =>
    simp only [readArguments, hkind] at h
    cases h
  | case6 o argument rest name value hkind hname =>
    simp only [readArguments, hkind, if_pos hname] at h
    cases h
  | case7 o argument rest name value hkind hname ih =>
    simp only [List.cons_append, readArguments, hkind, if_neg hname] at h ⊢
    obtain ⟨o₁, hset, h⟩ := exists_of_bind_eq_ok h
    rw [hset]
    exact ih o₁ (List.not_mem_of_not_mem_cons hnone) h
  | case8 o argument rest hkind =>
    simp only [readArguments, hkind, if_pos] at h
    cases h
  | case9 o argument rest hkind hname ih =>
    simp only [List.cons_append, readArguments, hkind, if_neg hname] at h ⊢
    obtain ⟨o₁, hset, h⟩ := exists_of_bind_eq_ok h
    rw [hset]
    exact ih o₁ (List.not_mem_of_not_mem_cons hnone) h
  | case10 o argument name hkind hhelp hname htakes =>
    simp only [readArguments, hkind, if_neg hhelp, if_neg hname, if_pos htakes] at h
    cases h
  | case11 o argument name hkind hhelp hname htakes next rest value hnext ih =>
    simp only [List.cons_append, readArguments, hkind, if_neg hhelp, if_neg hname, if_pos htakes,
      hnext] at h ⊢
    obtain ⟨o₁, hset, h⟩ := exists_of_bind_eq_ok h
    rw [hset]
    exact ih o₁ (List.not_mem_of_not_mem_cons (List.not_mem_of_not_mem_cons hnone)) h
  | case12 o argument name hkind hhelp hname htakes next rest hnext =>
    simp only [readArguments, hkind, if_neg hhelp, if_neg hname, if_pos htakes] at h
    cases h
  | case13 o argument rest name hkind hhelp hname htakes =>
    simp only [readArguments, hkind, if_neg hhelp, if_neg hname, if_neg htakes] at h
    cases h

/-- Messages behind a separator are added to what the other arguments ask for. -/
theorem ofArguments_append_separator {o : Options} {arguments : List String}
    (hnone : "--" ∉ arguments) (h : ofArguments arguments = .ok o) (messages : List String) :
    ofArguments (arguments ++ "--" :: messages) =
      .ok { o with messages := o.messages ++ messages } := by
  obtain ⟨o₁, hread, h⟩ := exists_of_bind_eq_ok h
  unfold ofArguments
  rw [readArguments_append_separator hnone hread]
  split at h
  · cases h
  · next haliases =>
    cases h
    exact if_neg haliases

end Options

end Parlance.CommandLine
