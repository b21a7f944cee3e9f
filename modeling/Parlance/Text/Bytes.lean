/-!
# Text measured in bytes

A text is a list of symbols, and offsets into it count the bytes of its encoding, between one and
four for each symbol. This file measures texts that way and cuts them at byte offsets: a cut
exists only where one symbol ends and the next begins.
-/

namespace Parlance

/-- The number of bytes that `text` takes. -/
@[simp] def byteLength : List Char → Nat
  | [] => 0
  | c :: text => c.utf8Size + byteLength text

theorem byteLength_append (s t : List Char) :
    byteLength (s ++ t) = byteLength s + byteLength t := by
  induction s with
  | nil => simp
  | cons c s ih => simp [ih, Nat.add_assoc]

/-- No symbol is empty, so a text has at least as many bytes as symbols. -/
theorem length_le_byteLength (text : List Char) : text.length ≤ byteLength text := by
  induction text with
  | nil => simp
  | cons c text ih =>
    have hc := c.utf8Size_pos
    simp only [List.length_cons, byteLength]
    omega

/-- Cuts off exactly `n` bytes at the front: what is before the cut and what is after it. There is
no such cut inside a symbol or past the end. -/
def splitBytes? : Nat → List Char → Option (List Char × List Char)
  | 0, text => some ([], text)
  | _ + 1, [] => none
  | n + 1, c :: text =>
    if c.utf8Size ≤ n + 1 then
      (splitBytes? (n + 1 - c.utf8Size) text).map fun (front, back) => (c :: front, back)
    else none

end Parlance
