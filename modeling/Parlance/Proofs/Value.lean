import Parlance.Value
import Parlance.Proofs.Json

/-!
# Values with the same JSON

JSON has one kind of text and one kind of number. So a symbol becomes a text of one symbol there,
and a number does not tell whether it was meant to be a natural number. Nothing else is lost: what a
reader makes of the JSON of a value (`ofJson?`) is the value itself, but for these two kinds
(`ofJson?_toJson`).
-/

namespace Parlance.Value

mutual

/-- The value with a text in place of every symbol, and with a natural number in place of every
integer that is not negative. -/
def normal : Value → Value
  | .null => .null
  | .str text => .str text
  | .int n => if 0 ≤ n then .nat n.toNat else .int n
  | .nat n => .nat n
  | .char c => .str (String.singleton c)
  | .mention m => .mention m
  | .list items => .list (normalItems items)

/-- The same for the items of a list, one by one. -/
def normalItems : List Value → List Value
  | [] => []
  | item :: items => item.normal :: normalItems items

end

/-- The mention that an object stands for. -/
def mentionOf? : List (String × Json) → Option Mention
  | [("kind", .string "user"), ("id", .number id)] => some ⟨.user, id.toNat⟩
  | [("kind", .string "channel"), ("id", .number id)] => some ⟨.channel, id.toNat⟩
  | _ => none

mutual

/-- The value that a reader makes of JSON. -/
def ofJson? : Json → Option Value
  | .null => some .null
  | .number n => some (if 0 ≤ n then .nat n.toNat else .int n)
  | .string text => some (.str text)
  | .array items => (ofJsonItems? items).map .list
  | .object members => (mentionOf? members).map .mention

/-- The values that a reader makes of the items of an array. -/
def ofJsonItems? : List Json → Option (List Value)
  | [] => some []
  | item :: items => do
    let v ← ofJson? item
    let vs ← ofJsonItems? items
    return v :: vs

end

mutual

/-- A reader of JSON recovers a value but for the kinds that JSON does not tell apart. -/
theorem ofJson?_toJson : ∀ v : Value, ofJson? v.toJson = some v.normal
  | .null => rfl
  | .str _ => rfl
  | .int _ => rfl
  | .nat n => by
    rw [toJson, ofJson?, normal, if_pos (Int.natCast_nonneg n), Int.toNat_natCast]
  | .char _ => rfl
  | .mention ⟨.user, _⟩ => rfl
  | .mention ⟨.channel, _⟩ => rfl
  | .list items => by
    rw [toJson, ofJson?, ofJsonItems?_toJsonItems items, normal]
    rfl

theorem ofJsonItems?_toJsonItems :
    ∀ items : List Value, ofJsonItems? (toJsonItems items) = some (normalItems items)
  | [] => rfl
  | item :: items => by
    rw [toJsonItems, ofJsonItems?, ofJson?_toJson item, ofJsonItems?_toJsonItems items, normalItems]
    rfl

end

mutual

/-- Values that stand for one another have the same JSON. -/
theorem toJson_normal : ∀ v : Value, v.normal.toJson = v.toJson
  | .null => rfl
  | .str _ => rfl
  | .int n => by
    rw [normal]
    split
    · next hn => rw [toJson, toJson, Int.toNat_of_nonneg hn]
    · rfl
  | .nat _ => rfl
  | .char _ => rfl
  | .mention _ => rfl
  | .list items => by rw [normal, toJson, toJson, toJsonItems_normalItems items]

theorem toJsonItems_normalItems :
    ∀ items : List Value, toJsonItems (normalItems items) = toJsonItems items
  | [] => rfl
  | item :: items => by
    rw [normalItems, toJsonItems, toJsonItems, toJson_normal item, toJsonItems_normalItems items]

end

/-- Two values have the same JSON, as a value and as a text, just if they are the same but for
symbols that are given as texts of one symbol and integers that are given as natural numbers. -/
theorem same_json_iff (v w : Value) :
    (v.toJson = w.toJson ↔ v.normal = w.normal) ∧
      (v.toJson.render = w.toJson.render ↔ v.normal = w.normal) := by
  have hvalue : v.toJson = w.toJson ↔ v.normal = w.normal := by
    constructor
    · intro h
      rw [← Option.some.injEq, ← ofJson?_toJson, h, ofJson?_toJson]
    · intro h
      rw [← toJson_normal v, h, toJson_normal w]
  exact ⟨hvalue, Json.render_injective.eq_iff.trans hvalue⟩

end Parlance.Value
