import Parlance.Mention
import Parlance.Proofs.Guarded
import Parlance.Proofs.Token.Number

/-!
# What mentions read

A mention is an opening mark, digits and a closing mark with nothing between them, and the number
has to be one that the chat may have given out (`accepts_mention_iff`). The number is what the digits
denote, so leading zeros do not count, and apart from these and from blanks in front a mention is
read from nothing but its own text (`mentions_read_back`).
-/

namespace Parlance.Token

open Parlance.Parser

variable {c c' : Cursor} {kind : MentionKind} {m : Mention} {id : ℕ} {digits rest : List Char}

/-! ## Snowflakes -/

/-- A number from the chat is a natural number with a bound of its own, which is the lower one. -/
lemma accepts_snowflake_iff (hdigits : c.skipBlank.ahead.takeWhile Char.isDigit = digits) :
    snowflake.parse.Accepts c id c' ↔
      digits ≠ [] ∧ denoted digits ≤ maxSnowflake ∧ id = denoted digits
        ∧ c' = c.skipBlank.past digits := by
  show Parse.Accepts (nat.parse >>= _) c id c' ↔ _
  simp only [Parse.accepts_bind_iff, accepts_nat_iff hdigits]
  constructor
  · rintro ⟨_, _, ⟨hne, -, rfl, rfl⟩, hvalue⟩
    split at hvalue
    · next hbound =>
      obtain ⟨rfl, rfl⟩ := Parse.accepts_pure_iff.mp hvalue
      exact ⟨hne, hbound, rfl, rfl⟩
    · exact absurd hvalue Parse.not_accepts_fail
  · rintro ⟨hne, hbound, rfl, rfl⟩
    have hnat : denoted digits ≤ maxNat := by
      unfold maxSnowflake at hbound
      unfold maxNat
      omega
    refine ⟨_, _, ⟨hne, hnat, rfl, rfl⟩, ?_⟩
    rw [if_pos hbound]
    exact Parse.accepts_pure_iff.mpr ⟨rfl, rfl⟩

/-! ## Mentions -/

/-- The text of a mention that is written with the given digits. -/
def bracketed (kind : MentionKind) (digits : List Char) : List Char :=
  kind.opening.toList ++ digits ++ ['>']

lemma toList_text (m : Mention) : m.text.toList = bracketed m.kind (toString m.id).toList := by
  unfold Mention.text bracketed
  rw [String.toList_append, String.toList_append]
  rfl

/-- The three parts of a mention. -/
def mentionParts (kind : MentionKind) : Parse ℕ := do
  let _ ← (literal kind.opening).parse
  let id ← snowflake.parse
  let _ ← (literal ">").parse
  pure id

lemma mention_eq (kind : MentionKind) :
    mention kind = map "mention" (verbatim (few (mentionParts kind))) fun id => pure ⟨kind, id⟩ :=
  rfl

lemma takeWhile_isDigit_append_close (hdigits : ∀ d ∈ digits, d.isDigit = true)
    (rest : List Char) : (digits ++ '>' :: rest).takeWhile Char.isDigit = digits := by
  rw [List.takeWhile_append_of_pos hdigits, List.takeWhile_cons_of_neg (by decide),
    List.append_nil]

/-- Inside a verbatim token the parts follow one another directly. -/
lemma accepts_mentionParts_iff (hverbatim : c.isVerbatim = true) :
    (mentionParts kind).Accepts c id c' ↔
      ∃ digits, digits ≠ [] ∧ (∀ d ∈ digits, d.isDigit = true) ∧ denoted digits ≤ maxSnowflake
        ∧ id = denoted digits ∧ bracketed kind digits <+: c.ahead
        ∧ c' = c.past (bracketed kind digits) := by
  have hskip : ∀ t, (c.past t).skipBlank = c.past t :=
    fun t => Cursor.skipBlank_of_isVerbatim hverbatim
  have happroach : ∀ text t, (literal text).approach (c.past t) = c.past t :=
    fun text t => approach_of_isVerbatim _ hverbatim
  have hopening : (literal kind.opening).approach c = c := happroach kind.opening []
  unfold mentionParts bracketed
  simp only [Parse.accepts_bind_iff, accepts_literal_iff, hopening, Parse.accepts_pure_iff]
  constructor
  · rintro ⟨_, _, ⟨-, ⟨text, htext⟩, rfl⟩, _, _, hid, _, _, ⟨-, hclose, rfl⟩, rfl, rfl⟩
    have hbehind : (c.past kind.opening.toList).ahead = text :=
      Cursor.ahead_past_of_eq htext.symm
    -- the digits are all that stand behind the opening mark
    obtain ⟨hne, hbound, rfl, rfl⟩ := (accepts_snowflake_iff rfl).mp hid
    rw [hskip, hbehind] at hne hbound hclose ⊢
    rw [Cursor.past_past, happroach] at hclose ⊢
    obtain ⟨rest, hrest⟩ := hclose
    have hcut := List.takeWhile_append_dropWhile (p := Char.isDigit) (l := text)
    have hafter : (c.past (kind.opening.toList ++ text.takeWhile Char.isDigit)).ahead
        = text.dropWhile Char.isDigit :=
      Cursor.ahead_past_of_eq (by rw [List.append_assoc, hcut, htext])
    rw [hafter] at hrest
    refine ⟨_, hne, fun d hd => List.mem_takeWhile_imp hd, hbound, rfl, ⟨rest, ?_⟩, ?_⟩
    · calc kind.opening.toList ++ text.takeWhile Char.isDigit ++ ['>'] ++ rest
          = kind.opening.toList ++ (text.takeWhile Char.isDigit ++ (">".toList ++ rest)) := by simp
        _ = c.ahead := by rw [hrest, hcut, htext]
    · rw [Cursor.past_past]
      rfl
  · rintro ⟨digits, hne, hdigits, hbound, rfl, ⟨rest, hrest⟩, rfl⟩
    have hahead : c.ahead = kind.opening.toList ++ (digits ++ '>' :: rest) := by
      rw [← hrest]
      simp
    have hbehind : (c.past kind.opening.toList).skipBlank.ahead = digits ++ '>' :: rest := by
      rw [hskip]
      exact Cursor.ahead_past_of_eq hahead
    have hread := takeWhile_isDigit_append_close hdigits rest
    rw [← hbehind] at hread
    have hid : snowflake.parse.Accepts (c.past kind.opening.toList) (denoted digits)
        (c.past (kind.opening.toList ++ digits)) :=
      (accepts_snowflake_iff hread).mpr ⟨hne, hbound, rfl, by rw [hskip, Cursor.past_past]⟩
    have hclose : (c.past (kind.opening.toList ++ digits)).ahead = '>' :: rest :=
      Cursor.ahead_past_of_eq (by rw [hahead, List.append_assoc])
    refine ⟨_, _, ⟨rfl, ⟨_, hahead.symm⟩, rfl⟩, _, _, hid, ">", _, ⟨rfl, ?_, rfl⟩, rfl, ?_⟩
    · rw [happroach, hclose]
      exact ⟨rest, rfl⟩
    · rw [happroach, Cursor.past_past]
      rfl

/-- A mention is read where it stands behind the blanks, and nothing of it may be missing. -/
theorem accepts_mention_iff :
    (mention kind).parse.Accepts c m c' ↔
      ∃ digits, digits ≠ [] ∧ (∀ d ∈ digits, d.isDigit = true) ∧ denoted digits ≤ maxSnowflake
        ∧ m = ⟨kind, denoted digits⟩ ∧ bracketed kind digits <+: c.skipBlank.ahead
        ∧ c' = c.skipBlank.past (bracketed kind digits) := by
  rw [mention_eq, accepts_token_iff]
  show (∃ id c₁, (mentionParts kind).Accepts c.skipBlank.enterVerbatim id c₁ ∧ _) ↔ _
  simp only [accepts_mentionParts_iff c.skipBlank.isVerbatim_enterVerbatim]
  constructor
  · rintro ⟨_, _, ⟨digits, hne, hdigits, hbound, rfl, hbegins, rfl⟩, rfl, rfl⟩
    exact ⟨digits, hne, hdigits, hbound, rfl, hbegins, rfl⟩
  · rintro ⟨digits, hne, hdigits, hbound, rfl, hbegins, rfl⟩
    exact ⟨_, _, ⟨digits, hne, hdigits, hbound, rfl, hbegins, rfl⟩, rfl, rfl⟩

/-- A mention that is not read fails, because it always gives a reply. -/
lemma fails_mention (hnot : ∀ m c', ¬ (mention kind).parse.Accepts c m c') :
    (mention kind).parse.Fails c := by
  have halike := Parse.AnswerAlike.compositional (c.ahead.length + 1)
  obtain ⟨reply, hreply, -⟩ := halike.parse (halike.mention kind) c (Nat.lt_succ_self _)
  exact Parse.fails_of_reply ⟨reply, hreply⟩ hnot

/-! ## Written mentions -/

/-- The text of a mention is no other mention, whatever comes behind it. -/
lemma bracketed_prefix_text_iff (hdigits : ∀ d ∈ digits, d.isDigit = true) :
    bracketed kind digits <+: m.text.toList ++ rest ↔
      kind = m.kind ∧ digits = (toString m.id).toList := by
  rw [toList_text]
  constructor
  · rintro ⟨after, hafter⟩
    unfold bracketed at hafter
    have hkind : kind = m.kind := by
      cases hk : m.kind <;> cases kind <;> simp_all [MentionKind.opening]
    subst hkind
    simp only [List.append_assoc, List.append_cancel_left_eq, List.singleton_append] at hafter
    -- both runs of digits end where the closing mark stands
    have hread := takeWhile_isDigit_append_close hdigits after
    rw [hafter, takeWhile_isDigit_append_close isDigit_of_mem_toString] at hread
    exact ⟨rfl, hread.symm⟩
  · rintro ⟨rfl, rfl⟩
    exact List.prefix_append _ rest

/-- Where a mention is written, it is read by the parser of its kind if its number is within bounds,
and nothing else is read. -/
theorem accepts_mention_text_iff {found : Mention} (hahead : c.ahead = m.text.toList ++ rest) :
    (mention kind).parse.Accepts c found c' ↔
      kind = m.kind ∧ m.id ≤ maxSnowflake ∧ found = m ∧ c' = c.past m.text.toList := by
  have hskip : c.skipBlank = c := by
    apply Cursor.skipBlank_of_not_startsBlank
    rw [hahead, toList_text]
    cases m.kind <;> rfl
  rw [accepts_mention_iff, hskip, hahead]
  constructor
  · rintro ⟨digits, -, hdigits, hbound, rfl, hread, rfl⟩
    obtain ⟨rfl, rfl⟩ := (bracketed_prefix_text_iff hdigits).mp hread
    rw [denoted_toString] at hbound ⊢
    exact ⟨rfl, hbound, rfl, by rw [toList_text]⟩
  · rintro ⟨rfl, hbound, rfl, rfl⟩
    refine ⟨(toString found.id).toList, toString_ne_nil, isDigit_of_mem_toString, ?_, ?_, ?_, ?_⟩
    · rwa [denoted_toString]
    · rw [denoted_toString]
    · exact (bracketed_prefix_text_iff isDigit_of_mem_toString).mpr ⟨rfl, rfl⟩
    · rw [toList_text]

/-- A mention that was read is its own text, but for blanks in front and leading zeros. -/
theorem exists_text_of_accepts_mention (h : (mention kind).parse.Accepts c m c') :
    m.kind = kind ∧ m.id ≤ maxSnowflake ∧
      ∃ blanks zeros, Blank blanks ∧ (c.isVerbatim = true → blanks = []) ∧
        (∀ z ∈ zeros, z = '0') ∧
        blanks ++ bracketed kind (zeros ++ (toString m.id).toList) <+: c.ahead ∧
        c' = c.past (blanks ++ bracketed kind (zeros ++ (toString m.id).toList)) := by
  obtain ⟨digits, hne, hdigits, hbound, rfl, ⟨rest, hrest⟩, rfl⟩ := accepts_mention_iff.mp h
  obtain ⟨blanks, hblanks, hverbatim, hahead, hskip⟩ := c.exists_skipBlank_cut
  obtain ⟨zeros, hzeros, heq⟩ := exists_zeros_append_toString hne hdigits
  refine ⟨rfl, hbound, blanks, zeros, hblanks, hverbatim, hzeros, ?_, ?_⟩
  · rw [← heq]
    exact ⟨rest, by rw [List.append_assoc, hrest, hahead]⟩
  · rw [← heq, hskip, Cursor.past_past]

/-- Mentions read back what they are written as. Where the text of a mention stands ahead, whatever
comes behind it, the parser of its kind reads the mention and that text, and the parser of the other
kind fails; beyond the largest number that the chat gives out, both fail. Whatever a parser of
mentions reads is blanks, the opening mark of its kind, zeros, the digits of the number and the
closing mark, and the number is one that the chat may have given out. -/
theorem mentions_read_back :
    (∀ (m : Mention) (c : Cursor) (rest : List Char), c.ahead = m.text.toList ++ rest →
      (m.id ≤ 2 ^ 63 - 1 →
        (mention m.kind).parse.Accepts c m (c.past m.text.toList) ∧
          (c.past m.text.toList).ahead = rest ∧
          ∀ kind, kind ≠ m.kind → (mention kind).parse.Fails c) ∧
      (2 ^ 63 - 1 < m.id → ∀ kind, (mention kind).parse.Fails c)) ∧
    ∀ (kind : MentionKind) (c c' : Cursor) (m : Mention), (mention kind).parse.Accepts c m c' →
      m.kind = kind ∧ m.id ≤ 2 ^ 63 - 1 ∧
        ∃ blanks zeros rest, Blank blanks ∧ (∀ z ∈ zeros, z = '0') ∧
          c.ahead = blanks ++ (kind.opening.toList ++ zeros ++ (toString m.id).toList ++ ['>'])
            ++ rest ∧
          c'.ahead = rest ∧
          c' = c.past (blanks ++
            (kind.opening.toList ++ zeros ++ (toString m.id).toList ++ ['>'])) := by
  refine ⟨fun m c rest hahead => ⟨fun hbound => ⟨?_, ?_, fun kind hkind => ?_⟩,
    fun hbeyond kind => ?_⟩, fun kind c c' m h => ?_⟩
  · exact (accepts_mention_text_iff hahead).mpr ⟨rfl, hbound, rfl, rfl⟩
  · exact Cursor.ahead_past_of_eq hahead
  · exact fails_mention fun found c' h => hkind ((accepts_mention_text_iff hahead).mp h).1
  · refine fails_mention fun found c' h => ?_
    have hbound := ((accepts_mention_text_iff hahead).mp h).2.1
    unfold maxSnowflake at hbound
    omega
  · obtain ⟨hkind, hbound, blanks, zeros, hblanks, -, hzeros, ⟨rest, hrest⟩, rfl⟩ :=
      exists_text_of_accepts_mention h
    have heq : bracketed kind (zeros ++ (toString m.id).toList)
        = kind.opening.toList ++ zeros ++ (toString m.id).toList ++ ['>'] := by
      unfold bracketed
      rw [← List.append_assoc kind.opening.toList]
    rw [heq] at hrest ⊢
    exact ⟨hkind, hbound, blanks, zeros, rest, hblanks, hzeros, hrest.symm,
      Cursor.ahead_past_of_eq hrest.symm, rfl⟩

/-- The largest number that is read, the next one, and a number behind a blank and two zeros. -/
theorem mentions_read_back_bounds :
    let largest : Mention := ⟨.user, 9223372036854775807⟩
    let c := Cursor.ofString "<@9223372036854775807>!"
    let beyond := Cursor.ofString "<#9223372036854775808>"
    let padded := Cursor.ofString " <#007>"
    userMention.parse.Accepts c largest (c.past largest.text.toList) ∧
      channelMention.parse.Fails c ∧ channelMention.parse.Fails beyond ∧
      channelMention.parse.Accepts padded ⟨.channel, 7⟩ (padded.past padded.ahead) ∧
      ∃ blanks zeros rest, Blank blanks ∧ (∀ z ∈ zeros, z = '0') ∧
        padded.ahead = blanks ++ ("<#".toList ++ zeros ++ (toString 7).toList ++ ['>']) ++ rest := by
  intro largest c beyond padded
  have hc : c.ahead = largest.text.toList ++ ['!'] := by decide +kernel
  have hbeyond : beyond.ahead = (Mention.mk .channel 9223372036854775808).text.toList ++ [] := by
    decide +kernel
  have hpadded : channelMention.parse.Accepts padded ⟨.channel, 7⟩ (padded.past padded.ahead) :=
    ⟨0, by decide +kernel⟩
  obtain ⟨hreads, -, hother⟩ := (mentions_read_back.1 largest c _ hc).1 (by decide)
  have hfails := (mentions_read_back.1 _ beyond _ hbeyond).2 (by decide) .channel
  obtain ⟨-, -, blanks, zeros, rest, hblanks, hzeros, hahead, -⟩ :=
    mentions_read_back.2 .channel padded _ _ hpadded
  exact ⟨hreads, hother .channel (by decide), hfails, hpadded, blanks, zeros, rest, hblanks,
    hzeros, hahead⟩

end Parlance.Token
