import Parlance.Json
import Parlance.Json.Reader
import Parlance.Proofs.Token.Number

/-!
# JSON text tells its value

A string that is written down reads back with the reader's own `readString?`, so it tells its text
and where it ends. The first symbol of a value tells of what kind it is (`kindOf?_head?_render`),
and commas and brackets end what stands in front of them. So a whole value can be told from any
other, whatever is written behind it (`delimited_render`), and no two values are written the same
(`render_injective`). Newlines are escaped, and none is written (`newline_not_mem_render`).
-/

namespace Parlance.Json

/-! ## Induction -/

/-- What holds of a value if it holds of its items or of the values of its members holds of all. -/
@[elab_as_elim]
theorem induct {motive : Json → Prop} (null : motive .null) (number : ∀ n, motive (.number n))
    (string : ∀ text, motive (.string text))
    (array : ∀ items, (∀ item ∈ items, motive item) → motive (.array items))
    (object : ∀ members : List (String × Json), (∀ member ∈ members, motive member.2) →
      motive (.object members)) : ∀ v, motive v
  | .null => null
  | .number n => number n
  | .string text => string text
  | .array items => array items fun item _ => induct null number string array object item
  | .object members => object members fun member hmember =>
      have : sizeOf member.2 < sizeOf members := by
        have hlist := List.sizeOf_lt_of_mem hmember
        have hpair : sizeOf member = 1 + sizeOf member.1 + sizeOf member.2 := rfl
        omega
      induct null number string array object member.2

lemma renderItems_eq_map (items : List Json) : renderItems items = items.map render := by
  induction items with
  | nil => rw [renderItems, List.map_nil]
  | cons item items ih => rw [renderItems, ih, List.map_cons]

/-- The text of a member. -/
def renderMember (member : String × Json) : String := quote member.1 ++ ":" ++ member.2.render

lemma renderMembers_eq_map (members : List (String × Json)) :
    renderMembers members = members.map renderMember := by
  induction members with
  | nil => rw [renderMembers, List.map_nil]
  | cons member members ih => rw [renderMembers, ih, List.map_cons, renderMember]

/-! ## Strings -/

/-- A symbol is escaped by a letter, or by its code point if it is a control symbol, and otherwise
stands for itself. -/
lemma escapeSymbol_cases (x : Char) :
    (∃ letter, shortEscape? letter = some x ∧ (escapeSymbol x).toList = ['\\', letter]) ∨
      (x.toNat < 0x20 ∧ (escapeSymbol x).toList =
        ['\\', 'u', '0', '0', Text.hexDigit (x.toNat / 16), Text.hexDigit (x.toNat % 16)]) ∨
      (0x20 ≤ x.toNat ∧ x ≠ '"' ∧ x ≠ '\\' ∧ (escapeSymbol x).toList = [x]) := by
  have hletter : ∀ y letter, escapeSymbol y = String.ofList ['\\', letter] →
      shortEscape? letter = some y → ∃ letter, shortEscape? letter = some y ∧
        (escapeSymbol y).toList = ['\\', letter] := by
    intro y letter hescape hshort
    exact ⟨letter, hshort, by rw [hescape, String.toList_ofList]⟩
  by_cases hquote : x = '"'
  · exact Or.inl (hquote ▸ hletter '"' '"' rfl rfl)
  by_cases hslash : x = '\\'
  · exact Or.inl (hslash ▸ hletter '\\' '\\' rfl rfl)
  by_cases hnewline : x = '\n'
  · exact Or.inl (hnewline ▸ hletter '\n' 'n' rfl rfl)
  by_cases hreturn : x = '\r'
  · exact Or.inl (hreturn ▸ hletter '\r' 'r' rfl rfl)
  by_cases htab : x = '\t'
  · exact Or.inl (htab ▸ hletter '\t' 't' rfl rfl)
  by_cases hback : x = '\x08'
  · exact Or.inl (hback ▸ hletter '\x08' 'b' rfl rfl)
  by_cases hfeed : x = '\x0c'
  · exact Or.inl (hfeed ▸ hletter '\x0c' 'f' rfl rfl)
  refine Or.inr ?_
  unfold escapeSymbol
  rw [if_neg hquote, if_neg hslash, if_neg hnewline, if_neg hreturn, if_neg htab, if_neg hback,
    if_neg hfeed]
  by_cases hcontrol : x.toNat < 0x20
  · rw [if_pos hcontrol, String.toList_ofList]
    exact Or.inl ⟨hcontrol, rfl⟩
  · rw [if_neg hcontrol, String.toList_singleton]
    exact Or.inr ⟨by omega, hquote, hslash, rfl⟩

/-- An escape by a letter reads as one symbol. -/
lemma readString?_letter {letter x : Char} (h : shortEscape? letter = some x) (text : List Char) :
    readString? ('\\' :: letter :: text) =
      (readString? text).map fun read => (x :: read.1, read.2) := by
  rw [Option.map_eq_bind, readString?.eq_def]
  split
  case h_5 heq =>
    cases heq
    rw [h]
    rfl
  case h_6 hnot heq =>
    cases heq
    exact (hnot letter text rfl rfl).elim
  -- the letter of a code unit is no escape by itself
  all_goals
    next heq =>
    cases heq
    try cases h

/-- An escape by a code unit that is no half of a surrogate pair reads as one symbol, whether
another code unit stands behind it or not. -/
lemma readString?_codeUnit {a b c d : Char} {n : ℕ} (hunit : codeUnit? a b c d = some n)
    (hhigh : isHighSurrogate n = false) (hlow : isLowSurrogate n = false) (text : List Char) :
    readString? ('\\' :: 'u' :: a :: b :: c :: d :: text) =
      (readString? text).map fun read => (Char.ofNat n :: read.1, read.2) := by
  rw [Option.map_eq_bind, readString?.eq_def]
  split
  · next heq => cases heq
  · next heq => cases heq
  · next heq =>
    cases heq
    simp only [hunit, Option.bind_eq_bind, Option.bind_some, hhigh, hlow]
    rfl
  · next heq =>
    cases heq
    simp only [hunit, Option.bind_eq_bind, Option.bind_some, hhigh, hlow]
    rfl
  · next hnot heq =>
    cases heq
    exact (hnot a b c d text rfl rfl).elim
  · next hnot heq =>
    cases heq
    exact (hnot 'u' (a :: b :: c :: d :: text) rfl rfl).elim

/-- Any other symbol reads as itself. -/
lemma readString?_solid {x : Char} (hcontrol : 0x20 ≤ x.toNat) (hquote : x ≠ '"')
    (hslash : x ≠ '\\') (text : List Char) :
    readString? (x :: text) = (readString? text).map fun read => (x :: read.1, read.2) := by
  rw [Option.map_eq_bind, readString?.eq_def]
  split
  · next heq => cases heq
  · next heq =>
    cases heq
    exact (hquote rfl).elim
  · next heq =>
    cases heq
    exact (hslash rfl).elim
  · next heq =>
    cases heq
    exact (hslash rfl).elim
  · next heq =>
    cases heq
    exact (hslash rfl).elim
  · next heq =>
    cases heq
    rw [if_neg (by simp [hslash]; omega)]
    rfl

/-- A symbol that is written into a string reads back. -/
lemma readString?_escapeSymbol (x : Char) (text : List Char) :
    readString? ((escapeSymbol x).toList ++ text) =
      (readString? text).map fun read => (x :: read.1, read.2) := by
  rcases escapeSymbol_cases x with
    ⟨letter, hletter, hx⟩ | ⟨hcontrol, hx⟩ | ⟨hcontrol, hquote, hslash, hx⟩
  · rw [hx]
    exact readString?_letter hletter text
  · have hunit : codeUnit? '0' '0' (Text.hexDigit (x.toNat / 16)) (Text.hexDigit (x.toNat % 16)) =
        some x.toNat := by
      unfold codeUnit?
      rw [Text.hexValue?_hexDigit (show x.toNat / 16 < 16 by omega),
        Text.hexValue?_hexDigit (Nat.mod_lt _ (by omega))]
      show some (((0 * 16 + 0) * 16 + x.toNat / 16) * 16 + x.toNat % 16) = some x.toNat
      rw [Option.some.injEq]
      omega
    have hhigh : isHighSurrogate x.toNat = false := by
      simp [isHighSurrogate]
      omega
    have hlow : isLowSurrogate x.toNat = false := by
      simp [isLowSurrogate]
      omega
    rw [hx]
    have hread := readString?_codeUnit hunit hhigh hlow text
    rwa [Char.ofNat_toNat] at hread
  · rw [hx]
    exact readString?_solid hcontrol hquote hslash text

/-- A string that is written down reads back, whatever is written behind it. -/
theorem readString?_escaped (symbols rest : List Char) :
    readString? ((String.join (symbols.map escapeSymbol)).toList ++ '"' :: rest) =
      some (symbols, rest) := by
  induction symbols with
  | nil => rfl
  | cons x symbols ih =>
    rw [List.map_cons, String.join_cons, String.toList_append, List.append_assoc,
      readString?_escapeSymbol, ih]
    rfl

lemma newline_not_mem_escapeSymbol (x : Char) : '\n' ∉ (escapeSymbol x).toList := by
  rcases escapeSymbol_cases x with ⟨letter, hletter, hx⟩ | ⟨hcontrol, hx⟩ | ⟨hcontrol, -, -, hx⟩
  · rw [hx]
    intro hmem
    obtain rfl : '\n' = letter := by simpa using hmem
    cases hletter
  · have hdigit : ∀ n < 16, '\n' ≠ Text.hexDigit n := by decide
    have hlow := hdigit (x.toNat % 16) (Nat.mod_lt _ (by omega))
    have hhigh := hdigit (x.toNat / 16) (by omega)
    rw [hx]
    simp [hlow, hhigh]
  · rw [hx]
    intro hmem
    obtain rfl : '\n' = x := by simpa using hmem
    exact absurd hcontrol (by decide)

/-! ## What tells where it ends -/

section Delimited

variable {α : Type} {write : α → List Char} {as bs : List α} {close : Char}
  {rest rest' : List Char}

/-- `a` can be told from what is written for it, and so can its end, whatever comes behind it. Only
a digit may not come behind it, because it would belong to a number. -/
def Delimited (write : α → List Char) (a : α) : Prop :=
  ∀ {b : α} {rest rest' : List Char}, rest.takeWhile Char.isDigit = [] →
    rest'.takeWhile Char.isDigit = [] → write a ++ rest = write b ++ rest' → a = b ∧ rest = rest'

lemma takeWhile_isDigit_cons {x : Char} (hx : x.isDigit = false) (text : List Char) :
    (x :: text).takeWhile Char.isDigit = [] :=
  List.takeWhile_cons_of_neg (by simp [hx])

lemma intercalate_map_cons (write : α → List Char) (a : α) (as : List α) :
    [','].intercalate ((a :: as).map write) = write a ++ as.flatMap fun b => ',' :: write b := by
  induction as generalizing a with
  | nil => simp
  | cons b as ih =>
    rw [List.map_cons, List.map_cons, List.intercalate_cons_cons, ← List.map_cons, ih,
      List.flatMap_cons]
    simp

lemma takeWhile_isDigit_items (hdigit : close.isDigit = false) :
    ((as.flatMap fun a => ',' :: write a) ++ close :: rest).takeWhile Char.isDigit = [] := by
  cases as with
  | nil => exact takeWhile_isDigit_cons hdigit rest
  | cons a as => exact takeWhile_isDigit_cons rfl _

/-- More items, each behind a comma, up to another symbol. -/
lemma eq_of_items (has : ∀ a ∈ as, Delimited write a) (hcomma : close ≠ ',')
    (hdigit : close.isDigit = false)
    (h : (as.flatMap fun a => ',' :: write a) ++ close :: rest =
      (bs.flatMap fun b => ',' :: write b) ++ close :: rest') :
    as = bs ∧ rest = rest' := by
  induction as generalizing bs with
  | nil =>
    cases bs with
    | nil => exact ⟨rfl, (List.cons.inj h).2⟩
    | cons b bs => exact absurd (List.cons.inj h).1 hcomma
  | cons a as ih =>
    obtain ⟨ha, has⟩ := List.forall_mem_cons.mp has
    cases bs with
    | nil => exact absurd (List.cons.inj h).1.symm hcomma
    | cons b bs =>
      simp only [List.flatMap_cons, List.cons_append, List.append_assoc, List.cons.injEq,
        true_and] at h
      obtain ⟨rfl, hitems⟩ := ha (takeWhile_isDigit_items hdigit) (takeWhile_isDigit_items hdigit) h
      obtain ⟨rfl, hrest⟩ := ih has hitems
      exact ⟨rfl, hrest⟩

/-- A list with commas between its items tells its items up to a symbol that no item begins with. -/
lemma eq_of_intercalate (has : ∀ a ∈ as, Delimited write a) (hcomma : close ≠ ',')
    (hdigit : close.isDigit = false)
    (hclose : ∀ a text text', write a ++ text ≠ close :: text')
    (h : [','].intercalate (as.map write) ++ close :: rest =
      [','].intercalate (bs.map write) ++ close :: rest') :
    as = bs ∧ rest = rest' := by
  cases as with
  | nil =>
    cases bs with
    | nil => exact ⟨rfl, (List.cons.inj h).2⟩
    | cons b bs =>
      rw [intercalate_map_cons, List.append_assoc] at h
      exact absurd h.symm (hclose b _ _)
  | cons a as =>
    obtain ⟨ha, has⟩ := List.forall_mem_cons.mp has
    rw [intercalate_map_cons, List.append_assoc] at h
    cases bs with
    | nil => exact absurd h (hclose a _ _)
    | cons b bs =>
      rw [intercalate_map_cons, List.append_assoc] at h
      obtain ⟨rfl, hitems⟩ := ha (takeWhile_isDigit_items hdigit) (takeWhile_isDigit_items hdigit) h
      obtain ⟨rfl, hrest⟩ := eq_of_items has hcomma hdigit hitems
      exact ⟨rfl, hrest⟩

end Delimited

/-! ## Values -/

lemma toList_quote (text : String) :
    (quote text).toList =
      '"' :: ((String.join (text.toList.map escapeSymbol)).toList ++ ['"']) := by
  rw [quote, String.toList_append, String.toList_append]
  rfl

lemma delimited_quote (text : String) : Delimited (fun text => (quote text).toList) text := by
  intro other rest rest' _ _ h
  dsimp only at h
  rw [toList_quote, toList_quote, List.cons_append, List.cons_append, List.cons.injEq,
    List.append_assoc, List.append_assoc] at h
  have hread := readString?_escaped text.toList rest
  have hread' := readString?_escaped other.toList rest'
  rw [show '"' :: rest = ['"'] ++ rest from rfl, h.2] at hread
  rw [show '"' :: rest' = ['"'] ++ rest' from rfl, hread] at hread'
  simp only [Option.some.injEq, Prod.mk.injEq, String.toList_inj] at hread'
  exact hread'

lemma delimited_toString (n : ℤ) : Delimited (fun n : ℤ => (toString n).toList) n := by
  intro m rest rest' hrest hrest' h
  dsimp only at h
  obtain ⟨sign, k, hn, hsign, hvalue⟩ := Token.exists_toString_eq n
  obtain ⟨sign', k', hm, hsign', hvalue'⟩ := Token.exists_toString_eq m
  rw [hn, hm, List.append_assoc, List.append_assoc] at h
  have hsigned : ∀ {sign : List Char} (k : ℕ) (rest : List Char), sign = ['-'] ∨ sign = [] →
      Token.signAhead (sign ++ ((toString k).toList ++ rest)) = sign := by
    rintro sign k rest (rfl | rfl)
    · rfl
    · exact Token.signAhead_digits_append Token.toString_ne_nil Token.isDigit_of_mem_toString rest
  have hsame : sign = sign' := by
    rw [← hsigned k rest hsign, h, hsigned k' rest' hsign']
  subst hsame
  have hbehind := List.append_cancel_left h
  have hdigits : (toString k).toList = (toString k').toList := by
    rw [← Token.takeWhile_isDigit_toString_append hrest, hbehind,
      Token.takeWhile_isDigit_toString_append hrest']
  rw [hdigits] at hbehind hvalue
  exact ⟨hvalue.symm.trans hvalue', List.append_cancel_left hbehind⟩

/-- The kinds of values. -/
inductive Kind where
  | null
  | number
  | string
  | array
  | object

def kind : Json → Kind
  | .null => .null
  | .number _ => .number
  | .string _ => .string
  | .array _ => .array
  | .object _ => .object

/-- The kind of values that begin with the symbol. -/
def kindOf? (x : Char) : Option Kind :=
  if x = 'n' then some .null
  else if x = '"' then some .string
  else if x = '[' then some .array
  else if x = '\x7b' then some .object
  else if x = '-' ∨ x.isDigit = true then some .number
  else none

lemma kindOf?_of_isDigit {x : Char} (hx : x.isDigit = true) : kindOf? x = some .number := by
  have hne : ∀ y : Char, y.isDigit = false → x ≠ y := by
    rintro y hy rfl
    rw [hx] at hy
    cases hy
  unfold kindOf?
  rw [if_neg (hne _ rfl), if_neg (hne _ rfl), if_neg (hne _ rfl), if_neg (hne _ rfl),
    if_pos (Or.inr hx)]

lemma toList_render_array (items : List Json) :
    (render (.array items)).toList =
      '[' :: ([','].intercalate (items.map fun item => item.render.toList) ++ [']']) := by
  rw [render, renderItems_eq_map, String.toList_append, String.toList_append,
    String.toList_intercalate, List.map_map]
  rfl

lemma toList_render_object (members : List (String × Json)) :
    (render (.object members)).toList =
      '\x7b' :: ([','].intercalate (members.map fun member => (renderMember member).toList) ++
        ['\x7d']) := by
  rw [render, renderMembers_eq_map, String.toList_append, String.toList_append,
    String.toList_intercalate, List.map_map]
  rfl

lemma toList_renderMember (member : String × Json) :
    (renderMember member).toList =
      (quote member.1).toList ++ ':' :: member.2.render.toList := by
  rw [renderMember, String.toList_append, String.toList_append, List.append_assoc]
  rfl

/-- The first symbol of a value tells its kind. -/
lemma kindOf?_head?_render (v : Json) (rest : List Char) :
    (v.render.toList ++ rest).head?.bind kindOf? = some v.kind := by
  cases v with
  | null =>
    rw [render]
    rfl
  | number n =>
    obtain ⟨sign, k, hn, hsign, -⟩ := Token.exists_toString_eq n
    rw [render, hn]
    rcases hsign with rfl | rfl
    · rfl
    · cases hdigits : (toString k).toList with
      | nil => exact absurd hdigits Token.toString_ne_nil
      | cons d digits =>
        have hd : d ∈ (toString k).toList := by
          rw [hdigits]
          exact List.mem_cons_self
        exact kindOf?_of_isDigit (Token.isDigit_of_mem_toString d hd)
  | string text =>
    rw [render, toList_quote]
    rfl
  | array items =>
    rw [toList_render_array]
    rfl
  | object members =>
    rw [toList_render_object]
    rfl

lemma kind_eq_of_append_eq {v w : Json} {rest rest' : List Char}
    (h : v.render.toList ++ rest = w.render.toList ++ rest') : v.kind = w.kind := by
  rw [← Option.some.injEq, ← kindOf?_head?_render v rest, h, kindOf?_head?_render]

/-- A member can be told from what is written for it if its value can. -/
lemma delimited_renderMember {member : String × Json}
    (hvalue : Delimited (fun v : Json => v.render.toList) member.2) :
    Delimited (fun member => (renderMember member).toList) member := by
  intro other rest rest' hrest hrest' h
  dsimp only at h
  rw [toList_renderMember, toList_renderMember, List.append_assoc, List.append_assoc] at h
  obtain ⟨hname, hbehind⟩ := delimited_quote member.1 (takeWhile_isDigit_cons rfl _)
    (takeWhile_isDigit_cons rfl _) h
  obtain ⟨hsame, hends⟩ := hvalue hrest hrest' (List.cons.inj hbehind).2
  exact ⟨Prod.ext hname hsame, hends⟩

/-- A value can be told from what is written for it, whatever comes behind it but a digit. -/
theorem delimited_render (v : Json) : Delimited (fun v : Json => v.render.toList) v := by
  -- the first symbol tells the kind, so only values of one kind remain to be compared
  induction v using induct with
  | null =>
    intro w rest rest' _ _ h
    cases w with
    | null => exact ⟨rfl, List.append_cancel_left h⟩
    | _ => cases kind_eq_of_append_eq h
  | number n =>
    intro w rest rest' hrest hrest' h
    cases w with
    | number m =>
      simp only [render] at h
      obtain ⟨rfl, hends⟩ := delimited_toString n hrest hrest' h
      exact ⟨rfl, hends⟩
    | _ => cases kind_eq_of_append_eq h
  | string text =>
    intro w rest rest' hrest hrest' h
    cases w with
    | string other =>
      simp only [render] at h
      obtain ⟨rfl, hends⟩ := delimited_quote text hrest hrest' h
      exact ⟨rfl, hends⟩
    | _ => cases kind_eq_of_append_eq h
  | array items ih =>
    intro w rest rest' _ _ h
    cases w with
    | array others =>
      simp only [toList_render_array, List.cons_append, List.append_assoc, List.cons.injEq,
        true_and, List.nil_append] at h
      have hclose : ∀ (item : Json) (text text' : List Char),
          item.render.toList ++ text ≠ ']' :: text' := by
        intro item text text' heq
        have hkind := kindOf?_head?_render item text
        rw [heq] at hkind
        cases hkind
      obtain ⟨rfl, hends⟩ := eq_of_intercalate ih (by decide) rfl hclose h
      exact ⟨rfl, hends⟩
    | _ => cases kind_eq_of_append_eq h
  | object members ih =>
    intro w rest rest' _ _ h
    cases w with
    | object others =>
      simp only [toList_render_object, List.cons_append, List.append_assoc, List.cons.injEq,
        true_and, List.nil_append] at h
      have hclose : ∀ (member : String × Json) (text text' : List Char),
          (renderMember member).toList ++ text ≠ '\x7d' :: text' := by
        intro member text text' heq
        rw [toList_renderMember, toList_quote] at heq
        cases heq
      have hmembers : ∀ member ∈ members,
          Delimited (fun member => (renderMember member).toList) member :=
        fun member hmember => delimited_renderMember (ih member hmember)
      obtain ⟨rfl, hends⟩ := eq_of_intercalate hmembers (by decide) rfl hclose h
      exact ⟨rfl, hends⟩
    | _ => cases kind_eq_of_append_eq h

/-- No two values are written the same. -/
theorem render_injective : Function.Injective render := by
  intro v w h
  have hsame : v.render.toList ++ [] = w.render.toList ++ [] := by rw [h]
  exact (delimited_render v rfl rfl hsame).1

/-! ## One line -/

lemma newline_not_mem_quote (text : String) : '\n' ∉ (quote text).toList := by
  rw [toList_quote, String.toList_join]
  simp [newline_not_mem_escapeSymbol]

lemma not_mem_intercalate {x : Char} {separator : List Char} {texts : List (List Char)}
    (hseparator : x ∉ separator) (htexts : ∀ text ∈ texts, x ∉ text) :
    x ∉ separator.intercalate texts := by
  induction texts with
  | nil => exact List.not_mem_nil
  | cons text texts ih =>
    obtain ⟨htext, htexts⟩ := List.forall_mem_cons.mp htexts
    by_cases hnil : texts = []
    · rw [hnil, List.intercalate_singleton]
      exact htext
    · rw [List.intercalate_cons_of_ne_nil hnil, List.mem_append, List.mem_append, not_or, not_or]
      exact ⟨⟨htext, hseparator⟩, ih htexts⟩

lemma newline_not_mem_toString_nat (n : ℕ) : '\n' ∉ (toString n).toList := by
  intro hmem
  cases Token.isDigit_of_mem_toString _ hmem

lemma newline_not_mem_toString (n : ℤ) : '\n' ∉ (toString n).toList := by
  obtain ⟨sign, k, hn, hsign, -⟩ := Token.exists_toString_eq n
  rw [hn, List.mem_append]
  rintro (hmem | hmem)
  · rcases hsign with rfl | rfl <;> simp at hmem
  · exact newline_not_mem_toString_nat k hmem

/-- A value is written on one line. -/
theorem newline_not_mem_render (v : Json) : '\n' ∉ v.render.toList := by
  induction v using induct with
  | null =>
    rw [render]
    decide
  | number n =>
    rw [render]
    exact newline_not_mem_toString n
  | string text =>
    rw [render]
    exact newline_not_mem_quote text
  | array items ih =>
    rw [toList_render_array]
    have hitems : '\n' ∉ [','].intercalate (items.map fun item => item.render.toList) :=
      not_mem_intercalate (by decide) (List.forall_mem_map.mpr ih)
    simp [hitems]
  | object members ih =>
    rw [toList_render_object]
    have hmembers : ∀ member ∈ members, '\n' ∉ (renderMember member).toList := by
      intro member hmember
      rw [toList_renderMember]
      simp [newline_not_mem_quote, ih member hmember]
    have hitems : '\n' ∉
        [','].intercalate (members.map fun member => (renderMember member).toList) :=
      not_mem_intercalate (by decide) (List.forall_mem_map.mpr hmembers)
    simp [hitems]

end Parlance.Json
