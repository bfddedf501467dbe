/-
  BracketBalance.Proofs.Tokens — the tokens of a script, without a scanner.

  `Tokens P t w` says that the text `t` can be split into tokens, read with `P` as the
  last significant character before it, and that `w` are the brackets among them. A
  token is a plain character, a bracket, a quoted literal, a regex, a comment, or a
  slash that divides.

  `Rest P t w m` is the same for a text that a scan goes on with in the mode `m`: the
  rest of the token it is in, then tokens. Proved (`rest_inside`, `tokens_plain`,
  `tokens_bracket`, `tokens_quote`, `tokens_slash_opens`, `tokens_slash_divides`):
  what one character makes of it, which is what a scan makes of its mode.
-/

import BracketBalance.Proofs.Step
import Mathlib.Data.List.Infix

namespace BracketBalance

/-- The characters that are no token of their own. -/
def special : List Char := ['/', '"', '\'', '\x60', '(', ')', '[', ']', '{', '}']

/-- Whether a slash after `P` opens a regex or a comment, and does not divide. -/
def slashOpens : Option Char → Bool
  | none => true
  | some c => beforeRegex.contains c

/-- The significant character behind a comment: its slash, where a slash divides. -/
def pastComment (P : Option Char) : Option Char := if slashOpens P then P else some '/'

/-- What stands between two delimiters `d`: a backslash goes with the character after it. -/
inductive Body (d : Char) : List Char → Prop
  | nil : Body d []
  | char (c : Char) {b : List Char} : c ≠ '\\' → c ≠ d → Body d b → Body d (c :: b)
  | escape (c : Char) {b : List Char} : Body d b → Body d ('\\' :: c :: b)

inductive Tokens : Option Char → List Char → List Char → Prop
  | nil (P : Option Char) : Tokens P [] []
  | plain {P : Option Char} {c : Char} {t w : List Char} : c ∉ special →
      Tokens (if isBlank c then P else some c) t w → Tokens P (c :: t) w
  | bracket {P : Option Char} {c : Char} {t w : List Char} : isBracket c = true →
      Tokens (some c) t w → Tokens P (c :: t) (c :: w)
  | quoted {P : Option Char} {d : Char} {b t w : List Char} : d ∈ ['"', '\'', '\x60'] → Body d b →
      Tokens P t w → Tokens P (d :: (b ++ d :: t)) w
  | regex {P : Option Char} {b t w : List Char} : slashOpens P = true → Body '/' b → b ≠ [] →
      b.head? ≠ some '*' → Tokens P t w → Tokens P ('/' :: (b ++ '/' :: t)) w
  /-- A line comment, up to the first line feed. -/
  | line {P : Option Char} {b t w : List Char} : '\n' ∉ b →
      Tokens (pastComment P) t w → Tokens P ('/' :: '/' :: (b ++ '\n' :: t)) w
  /-- A block comment, up to the first star and slash. -/
  | block {P : Option Char} {b t w : List Char} : ¬ ['*', '/'] <:+: b →
      Tokens (pastComment P) t w → Tokens P ('/' :: '*' :: (b ++ '*' :: '/' :: t)) w
  /-- A slash that divides, and opens no comment either. -/
  | division {P : Option Char} {t w : List Char} : slashOpens P = false → t.head? ≠ some '/' →
      t.head? ≠ some '*' → Tokens (some '/') t w → Tokens P ('/' :: t) w

/-! ## The rest of a token -/

/-- A literal up to its delimiter, then tokens. -/
def Closing (d : Char) (P : Option Char) (w t : List Char) : Prop :=
  ∃ b r, t = b ++ d :: r ∧ Body d b ∧ Tokens P r w

def LineEnd (P : Option Char) (w t : List Char) : Prop := ∃ b r, t = b ++ '\n' :: r ∧ '\n' ∉ b ∧ Tokens P r w

def BlockEnd (P : Option Char) (w t : List Char) : Prop :=
  ∃ b r, t = b ++ '*' :: '/' :: r ∧ ¬ ['*', '/'] <:+: b ∧ Tokens P r w

/-- What follows a slash: the rest of a comment, or what `Q` says. -/
def AfterSlash (Q : List Char → Prop) (P : Option Char) (w : List Char) : List Char → Prop
  | [] => Q []
  | c :: t => if c = '/' then LineEnd P w t else if c = '*' then BlockEnd P w t else Q (c :: t)

def Rest (P : Option Char) (t w : List Char) : Mode → Prop
  | .code => Tokens P t w
  | .hidden => Tokens P t.tail w
  | .slash _ => AfterSlash (Tokens P · w) P w t
  | .literal d _ false => Closing d.char P w t
  | .literal d _ true => ∃ c u, t = c :: u ∧ Closing d.char P w u
  | .regexOpen _ => AfterSlash (Closing '/' P w) P w t
  | .lineComment _ => LineEnd P w t
  | .blockComment _ star => BlockEnd P w (if star then '*' :: t else t)

variable {P : Option Char} {c d : Char} {t w : List Char}

theorem body_of_cons {b : List Char} (h : Body d (c :: b)) (hc : c ≠ '\\') : c ≠ d ∧ Body d b := by
  cases h with
  | char _ _ hd hb => exact ⟨hd, hb⟩
  | escape _ _ => exact absurd rfl hc

theorem closing_nil : ¬ Closing d P w [] := by
  intro h
  obtain ⟨b, r, h, -⟩ := h
  cases b <;> cases h

theorem closing_escape (hd : d ≠ '\\') : Closing d P w ('\\' :: t) ↔ ∃ c u, t = c :: u ∧ Closing d P w u := by
  constructor
  · intro h
    obtain ⟨b, r, h, hb, hr⟩ := h
    cases hb with
    | nil => cases h; exact absurd rfl hd
    | char _ hc _ _ => cases h; exact absurd rfl hc
    | escape c hb => cases h; exact ⟨c, _, rfl, _, r, rfl, hb, hr⟩
  · intro h
    obtain ⟨c, u, rfl, b, r, rfl, hb, hr⟩ := h
    exact ⟨'\\' :: c :: b, r, rfl, .escape c hb, hr⟩

theorem closing_delimiter (hd : d ≠ '\\') : Closing d P w (d :: t) ↔ Tokens P t w := by
  constructor
  · intro h
    obtain ⟨b, r, h, hb, hr⟩ := h
    cases b with
    | nil => cases h; exact hr
    | cons c b => cases h; exact absurd rfl (body_of_cons hb hd).1
  · exact fun h => ⟨[], t, rfl, .nil, h⟩

theorem closing_other (hc : c ≠ '\\') (hd : c ≠ d) : Closing d P w (c :: t) ↔ Closing d P w t := by
  constructor
  · intro h
    obtain ⟨b, r, h, hb, hr⟩ := h
    cases b with
    | nil => cases h; exact absurd rfl hd
    | cons c b => cases h; exact ⟨b, r, rfl, (body_of_cons hb hc).2, hr⟩
  · intro h
    obtain ⟨b, r, rfl, hb, hr⟩ := h
    exact ⟨c :: b, r, rfl, .char c hc hd hb, hr⟩

theorem lineEnd_nil : ¬ LineEnd P w [] := by
  intro h
  obtain ⟨b, r, h, -⟩ := h
  cases b <;> cases h

theorem lineEnd_feed : LineEnd P w ('\n' :: t) ↔ Tokens P t w := by
  constructor
  · intro h
    obtain ⟨b, r, h, hb, hr⟩ := h
    cases b with
    | nil => cases h; exact hr
    | cons c b => cases h; simp at hb
  · exact fun h => ⟨[], t, rfl, by simp, h⟩

theorem lineEnd_other (hc : c ≠ '\n') : LineEnd P w (c :: t) ↔ LineEnd P w t := by
  constructor
  · intro h
    obtain ⟨b, r, h, hb, hr⟩ := h
    cases b with
    | nil => cases h; exact absurd rfl hc
    | cons c b => cases h; exact ⟨b, r, rfl, fun hm => hb (List.mem_cons_of_mem _ hm), hr⟩
  · intro h
    obtain ⟨b, r, rfl, hb, hr⟩ := h
    exact ⟨c :: b, r, rfl, by simp [hb, Ne.symm hc], hr⟩

theorem blockEnd_nil : ¬ BlockEnd P w [] := by
  intro h
  obtain ⟨b, r, h, -⟩ := h
  cases b <;> cases h

theorem blockEnd_star_nil : ¬ BlockEnd P w ['*'] := by
  intro h
  obtain ⟨b, r, h, -⟩ := h
  have := congrArg List.length h
  simp at this
  omega

theorem blockEnd_close : BlockEnd P w ('*' :: '/' :: t) ↔ Tokens P t w := by
  constructor
  · intro h
    obtain ⟨b, r, h, hb, hr⟩ := h
    rcases b with _ | ⟨x, _ | ⟨y, b⟩⟩
    · cases h; exact hr
    · cases h
    · cases h
      exact absurd ⟨[], b, rfl⟩ hb
  · exact fun h => ⟨[], t, rfl, by simp, h⟩

/-- A character that ends no comment and cannot begin the end of one, or whose next one is no slash. -/
theorem blockEnd_skip (h : c ≠ '*' ∨ t.head? ≠ some '/') : BlockEnd P w (c :: t) ↔ BlockEnd P w t := by
  have hinfix : ∀ {b r : List Char}, t = b ++ '*' :: '/' :: r → ¬ ['*', '/'] <:+: b → ¬ ['*', '/'] <:+: c :: b := by
    intro b r ht hb hi
    subst ht
    rcases List.infix_cons_iff.mp hi with hp | hi
    · obtain ⟨u, hu⟩ := hp
      cases hu
      rcases h with h | h
      · exact h rfl
      · exact h rfl
    · exact hb hi
  constructor
  · intro h
    obtain ⟨b, r, hr, hb, ht⟩ := h
    cases b with
    | nil =>
      cases hr
      rcases h with h | h
      · exact absurd rfl h
      · exact absurd rfl h
    | cons x b =>
      cases hr
      exact ⟨b, r, rfl, fun hi => hb (List.infix_cons hi), ht⟩
  · intro h
    obtain ⟨b, r, hr, hb, ht⟩ := h
    exact ⟨c :: b, r, by rw [hr]; rfl, hinfix hr hb, ht⟩

/-- A character of a block comment stays in mind when it is a star. -/
theorem blockEnd_cons : BlockEnd P w (c :: t) ↔ BlockEnd P w (if c = '*' then '*' :: t else t) := by
  by_cases h : c = '*'
  · rw [if_pos h, h]
  · rw [if_neg h]
    exact blockEnd_skip (.inl h)

/-! ## One character of a text -/

theorem tokens_nil : Tokens P [] w ↔ w = [] := by
  constructor
  · intro h
    cases h
    rfl
  · intro hw
    subst hw
    exact .nil P

theorem not_mem_special_iff {c : Char} :
    c ∉ special ↔ c ≠ '/' ∧ Delimiter.ofChar? c = none ∧ isBracket c = false := by
  have hd : Delimiter.ofChar? c = none ↔ c ≠ '"' ∧ c ≠ '\'' ∧ c ≠ '\x60' := by
    unfold Delimiter.ofChar?
    split
    · simp_all
    · split
      · simp_all
      · split <;> simp_all
  rw [hd]
  simp only [special, isBracket, isOpener, isCloser, List.mem_cons, List.not_mem_nil, or_false, not_or,
    Bool.or_eq_false_iff, decide_eq_false_iff_not]
  tauto

theorem special_of_isBracket (h : isBracket c = true) : c ∈ special := by
  by_contra hn
  rw [(not_mem_special_iff.mp hn).2.2] at h
  cases h

theorem tokens_plain (hc : c ∉ special) :
    Tokens P (c :: t) w ↔ Tokens (if isBlank c then P else some c) t w := by
  constructor
  · intro h
    cases h with
    | plain _ h => exact h
    | bracket hb _ => exact absurd (special_of_isBracket hb) hc
    | quoted hd _ _ =>
      simp only [List.mem_cons, List.not_mem_nil, or_false] at hd
      rcases hd with rfl | rfl | rfl <;> exact absurd (by decide) hc
    | _ => exact absurd (by decide) hc
  · exact .plain hc

theorem tokens_bracket (hc : isBracket c = true) :
    Tokens P (c :: t) w ↔ ∃ w', w = c :: w' ∧ Tokens (some c) t w' := by
  have hs := special_of_isBracket hc
  constructor
  · intro h
    cases h with
    | plain hn _ => exact absurd hs hn
    | bracket _ h => exact ⟨_, rfl, h⟩
    | quoted hd _ _ => simp at hd; rcases hd with rfl | rfl | rfl <;> cases hc
    | _ => cases hc
  · intro h
    obtain ⟨w', rfl, h⟩ := h
    exact .bracket hc h

theorem tokens_quote {d : Delimiter} (hd : Delimiter.ofChar? c = some d) :
    Tokens P (c :: t) w ↔ Closing d.char P w t := by
  obtain ⟨hc, hq⟩ := Delimiter.eq_of_ofChar? hd
  rw [← hc]
  constructor
  · intro h
    cases h with
    | plain hn _ => rw [(not_mem_special_iff.mp hn).2.1] at hd; cases hd
    | bracket hb _ => rw [(ne_of_isBracket hb).1] at hd; cases hd
    | quoted _ hb h => exact ⟨_, _, rfl, hb, h⟩
    | _ => exact absurd hq (by decide)
  · intro h
    obtain ⟨b, r, rfl, hb, h⟩ := h
    exact .quoted hq hb h

theorem afterSlash_iff {Q : List Char → Prop} : AfterSlash Q P w t ↔
    (t.head? ≠ some '/' ∧ t.head? ≠ some '*' ∧ Q t) ∨ (∃ u, t = '/' :: u ∧ LineEnd P w u)
      ∨ (∃ u, t = '*' :: u ∧ BlockEnd P w u) := by
  cases t with
  | nil => simp [AfterSlash]
  | cons c t =>
    by_cases h1 : c = '/'
    · simp [AfterSlash, h1]
    by_cases h2 : c = '*'
    · simp [AfterSlash, h2]
    · simp [AfterSlash, h1, h2]

/-- The body of a regex: what follows its slash neither ends it nor makes it a comment. -/
theorem closing_regex_iff : (t.head? ≠ some '/' ∧ t.head? ≠ some '*' ∧ Closing '/' P w t) ↔
    ∃ b r, t = b ++ '/' :: r ∧ Body '/' b ∧ b ≠ [] ∧ b.head? ≠ some '*' ∧ Tokens P r w := by
  constructor
  · intro h
    obtain ⟨h1, h2, b, r, rfl, hb, hr⟩ := h
    cases b with
    | nil => exact absurd rfl h1
    | cons c b => exact ⟨c :: b, r, rfl, hb, List.cons_ne_nil c b, h2, hr⟩
  · intro h
    obtain ⟨b, r, rfl, hb, hn, hh, hr⟩ := h
    refine ⟨?_, ?_, b, r, rfl, hb, hr⟩
    · cases hb with
      | nil => exact absurd rfl hn
      | char c _ hc _ => simpa using hc
      | escape c _ => simp
    · cases b with
      | nil => exact absurd rfl hn
      | cons c b => exact hh

/-- A slash where a regex may begin. -/
theorem tokens_slash_opens (ho : slashOpens P = true) :
    Tokens P ('/' :: t) w ↔ AfterSlash (Closing '/' P w) P w t := by
  have hp : pastComment P = P := if_pos ho
  rw [afterSlash_iff, closing_regex_iff]
  constructor
  · intro h
    cases h with
    | plain hn _ => exact absurd (by decide) hn
    | bracket hb _ => cases hb
    | quoted hd _ _ => exact absurd hd (by decide)
    | regex _ hb hn hh h => exact .inl ⟨_, _, rfl, hb, hn, hh, h⟩
    | line hb h => exact .inr (.inl ⟨_, rfl, _, _, rfl, hb, hp ▸ h⟩)
    | block hb h => exact .inr (.inr ⟨_, rfl, _, _, rfl, hb, hp ▸ h⟩)
    | division hn _ _ _ => rw [ho] at hn; cases hn
  · intro h
    rcases h with ⟨b, r, rfl, hb, hn, hh, h⟩ | ⟨u, rfl, b, r, rfl, hb, h⟩ | ⟨u, rfl, b, r, rfl, hb, h⟩
    · exact .regex ho hb hn hh h
    · exact .line hb (hp.symm ▸ h)
    · exact .block hb (hp.symm ▸ h)

/-- A slash where it divides, if it opens no comment. -/
theorem tokens_slash_divides (ho : slashOpens P = false) :
    Tokens P ('/' :: t) w ↔ AfterSlash (Tokens (some '/') · w) (some '/') w t := by
  have hp : pastComment P = some '/' := if_neg (by simp [ho])
  rw [afterSlash_iff]
  constructor
  · intro h
    cases h with
    | plain hn _ => exact absurd (by decide) hn
    | bracket hb _ => cases hb
    | quoted hd _ _ => exact absurd hd (by decide)
    | regex hn _ _ _ _ => rw [ho] at hn; cases hn
    | line hb h => exact .inr (.inl ⟨_, rfl, _, _, rfl, hb, hp ▸ h⟩)
    | block hb h => exact .inr (.inr ⟨_, rfl, _, _, rfl, hb, hp ▸ h⟩)
    | division _ h1 h2 h => exact .inl ⟨h1, h2, h⟩
  · intro h
    rcases h with ⟨h1, h2, h⟩ | ⟨u, rfl, b, r, rfl, hb, h⟩ | ⟨u, rfl, b, r, rfl, hb, h⟩
    · exact .division ho h1 h2 h
    · exact .line hb (hp.symm ▸ h)
    · exact .block hb (hp.symm ▸ h)

/-! ## One character of the rest of a token -/

theorem rest_nil {m : Mode} : Rest P [] w m ↔ m.inCode = true ∧ w = [] := by
  cases m with
  | code => simp [Rest, tokens_nil, Mode.inCode, Mode.unfinished]
  | hidden => simp [Rest, tokens_nil, Mode.inCode, Mode.unfinished]
  | slash q => simp [Rest, AfterSlash, tokens_nil, Mode.inCode, Mode.unfinished]
  | literal d start escaped => cases escaped <;> simp [Rest, closing_nil, Mode.inCode, Mode.unfinished]
  | regexOpen start => simp [Rest, AfterSlash, closing_nil, Mode.inCode, Mode.unfinished]
  | lineComment start => simp [Rest, lineEnd_nil, Mode.inCode, Mode.unfinished]
  | blockComment start star =>
    cases star <;> simp [Rest, blockEnd_nil, blockEnd_star_nil, Mode.inCode, Mode.unfinished]

theorem rest_inLiteral (d : Delimiter) (start : Position) :
    Closing d.char P w (c :: t) ↔ Rest P t w (Mode.inLiteral d start c) := by
  unfold Mode.inLiteral
  by_cases h1 : c = '\\'
  · rw [if_pos h1, h1, closing_escape d.char_ne_escape]
    rfl
  by_cases h2 : c = d.char
  · rw [if_neg h1, if_pos h2, h2, closing_delimiter d.char_ne_escape]
    rfl
  · rw [if_neg h1, if_neg h2, closing_other h1 h2]
    rfl

theorem rest_blockComment (start : Position) (star : Bool) :
    Rest P (c :: t) w (.blockComment start star) ↔ Rest P t w ((Mode.blockComment start star).inside c) := by
  cases star with
  | false =>
    show BlockEnd P w (c :: t) ↔ BlockEnd P w (if decide (c = '*') then '*' :: t else t)
    simpa using blockEnd_cons
  | true =>
    by_cases h : c = '/'
    · subst h
      exact blockEnd_close
    · have hm : (Mode.blockComment start true).inside c = .blockComment start (decide (c = '*')) := by
        simp [Mode.inside, h]
      rw [hm]
      show BlockEnd P w ('*' :: c :: t) ↔ BlockEnd P w (if decide (c = '*') then '*' :: t else t)
      rw [blockEnd_skip (.inr (by simpa using h)), blockEnd_cons]
      simp

theorem rest_inside {m : Mode} (hm : m.inCode = false) : Rest P (c :: t) w m ↔ Rest P t w (m.inside c) := by
  cases m with
  | code => cases hm
  | hidden => cases hm
  | slash q => cases hm
  | literal d start escaped =>
    cases escaped with
    | false => exact rest_inLiteral d start
    | true => simp [Rest, Mode.inside]
  | regexOpen start =>
    simp only [Rest, Mode.inside, AfterSlash]
    split
    · rfl
    split
    · rfl
    · exact rest_inLiteral .slash start
  | lineComment start =>
    by_cases h : c = '\n'
    · subst h
      exact lineEnd_feed
    · have hm : (Mode.lineComment start).inside c = .lineComment start := if_neg h
      rw [hm]
      exact lineEnd_other h
  | blockComment start star => exact rest_blockComment start star

end BracketBalance
