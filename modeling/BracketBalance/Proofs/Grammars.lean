/-
  BracketBalance.Proofs.Grammars — one grammar told by another.

  `strings` is `full` on texts without slashes: with every slash replaced by a letter,
  a text is to `full` what it was to `strings` (`scan_strings`).

  `templates` is `strings` on texts without backslashes and brackets. A backslash hides
  the character after it wherever it stands, so the two go from the text together, read
  from its start, and so does every bracket left (`disarm`). Proved (`scan_templates`):
  what is found is then the same, but for strings left open, which `templates` lets
  pass; and it finds nothing but open templates, each at its backtick.
-/

import BracketBalance.Proofs.Insertion

namespace BracketBalance

/-! ## Strings, by the full grammar -/

def slashless (c : Char) : Char := if c = '/' then 'x' else c

theorem alike_slashless (c : Char) : Alike .strings .full c (slashless c) := by
  by_cases h : c = '/'
  · subst h
    constructor <;> decide
  · have hc : slashless c = c := if_neg h
    rw [hc]
    exact {
      feed := .rfl
      star := .rfl
      escape := .rfl
      escapes := by simp [Grammar.escapesCode]
      quote := rfl
      slash := by simp [Grammar.knowsSlashes, h]
      bracket := fun _ => ⟨rfl, rfl⟩
      significant := nofun }

theorem slashless_eq_mark (c : Char) : slashless c = byteOrderMark ↔ c = byteOrderMark := by
  by_cases h : c = '/'
  · subst h; decide
  · rw [slashless, if_neg h]

/-- The strings grammar finds in a text what the full one finds when its slashes are letters. -/
theorem scan_strings (t : List Char) :
    scan .strings t = scan .full (t.map slashless) ∧ ('/' ∉ t → scan .strings t = scan .full t) := by
  have h : scan .strings t = scan .full (t.map slashless) :=
    scan_map (fun c _ => slashless_eq_mark c) (fun c _ => alike_slashless c) (by decide)
  refine ⟨h, fun hs => ?_⟩
  have hid : ∀ c ∈ t, slashless c = id c := fun c hc => if_neg fun e => hs (by rw [← e]; exact hc)
  rw [h, List.map_congr_left hid, List.map_id]

/-- A closer of the wrong kind, past a string that holds one. -/
theorem scan_strings_mismatch :
    '/' ∉ "f(\"]\", [a)".toList ∧ scan .strings "f(\"]\", [a)".toList = scan .full "f(\"]\", [a)".toList ∧
      scan .full "f(\"]\", [a)".toList = some (.mismatched '[' ⟨1, 8⟩ ')' ⟨1, 10⟩) := by
  have h : '/' ∉ "f(\"]\", [a)".toList := by decide
  exact ⟨h, (scan_strings _).2 h, by decide⟩

/-! ## Templates, by strings -/

/-- The text with a letter for every backslash, for what it hides but a line feed, and for every other bracket. -/
def disarm : List Char → List Char
  | [] => []
  | ['\\'] => ['x']
  | '\\' :: c :: t => 'x' :: (if c = '\n' then c else 'x') :: disarm t
  | c :: t => (if isBracket c then 'x' else c) :: disarm t

/-- What is found, open strings let pass. -/
def passStrings : Option Violation → Option Violation
  | some (.unterminatedLiteral (.string _) _) => none
  | v => v

theorem disarm_cons {c : Char} (hc : c ≠ '\\') (t : List Char) :
    disarm (c :: t) = (if isBracket c then 'x' else c) :: disarm t := by
  rw [disarm]
  · exact fun h => absurd h hc
  · exact fun _ _ h => absurd h hc

theorem dropMark_disarm (t : List Char) : dropMark (disarm t) = disarm (dropMark t) := by
  cases t with
  | nil => rfl
  | cons c t =>
    by_cases hm : c = byteOrderMark
    · subst hm
      rw [disarm_cons (by decide)]
      rfl
    have hd : dropMark (c :: t) = c :: t := if_neg hm
    rw [hd]
    by_cases hc : c = '\\'
    · subst hc
      cases t <;> rfl
    · rw [disarm_cons hc]
      cases hb : isBracket c with
      | true => rfl
      | false => exact if_neg hm

theorem alike_disarm {c : Char} (hc : c ≠ '\\') : Alike .templates .strings c (if isBracket c then 'x' else c) := by
  cases hb : isBracket c with
  | true =>
    have hq := (ne_of_isBracket hb).1
    have hne := (ne_of_isBracket hb).2.2.2
    exact {
      feed := by simp [hne]
      star := by simp [hne]
      escape := by simp [hne]
      escapes := by simp [hc, Grammar.escapesCode]
      quote := hq
      slash := by simp [Grammar.knowsSlashes]
      bracket := by simp [Grammar.knowsBrackets, isBracket, isOpener, isCloser]
      significant := nofun }
  | false =>
    exact {
      feed := .rfl
      star := .rfl
      escape := .rfl
      escapes := by simp [hc]
      quote := rfl
      slash := by simp [Grammar.knowsSlashes]
      bracket := by simp [Grammar.knowsBrackets, hb]
      significant := nofun }

namespace Scanner

variable {g : Grammar} {s s' : Scanner} {c : Char}

def Settled (s : Scanner) : Prop := s.mode = .code ∨ ∃ d st, s.mode = .literal d st false

/-- A character that means nothing in code or in a literal. -/
theorem read_idle (h : s.Going) (hm : s.Settled) (hc : c ∉ special) (he : c ≠ '\\') :
    ∃ b, s.read g c = { s.past [c] s.mode with before := b } := by
  obtain ⟨hs, hq, hb⟩ := not_mem_special_iff.mp hc
  rcases hm with hm | ⟨d, st, hm⟩
  · refine ⟨if isBlank c then s.before else some c, ?_⟩
    rw [← feed_one, feed_plain h hm (fun hn => he hn.2) (fun hn => hs hn.2),
      plain_other hq (by simp [hb]), moved_eq h, hm]
    rfl
  · have hd : c ≠ d.char := by
      rintro rfl
      cases d <;> exact absurd (by decide) hc
    refine ⟨s.before, ?_⟩
    rw [← feed_one, feed_inside h hm rfl (inLiteral_other he hd), hm]
    rfl

/-- The scan of a text and that of the disarmed text, between two characters that no backslash joins. -/
structure Disarmed (s s' : Scanner) : Prop where
  agree : Agree Eq .templates .strings s s'
  going : s.Going
  empty : s.stack = []
  settled : s.Settled
  cursor : s.cursor = s'.cursor

theorem Disarmed.opened : Disarmed opened opened := ⟨agree_opened Eq _ _, ⟨rfl, rfl⟩, rfl, .inl rfl, rfl⟩

theorem Disarmed.going' (h : Disarmed s s') : s'.Going := ⟨h.agree.goes.mp h.going.1, h.agree.fresh.2⟩

theorem Disarmed.settled' (h : Disarmed s s') : s'.Settled := by
  have hm := h.agree.mode
  rcases h.settled with hs | ⟨d, st, hs⟩
  · rw [hs] at hm
    generalize hs' : s'.mode = m' at hm
    cases hm
    exact .inl hs'
  · rw [hs] at hm
    generalize hs' : s'.mode = m' at hm
    cases hm
    exact .inr ⟨d, _, hs'⟩

theorem quiet_templates (hf : s.fault = none) : Quiet .templates s c (s.read .templates c) := by
  cases change_read (g := .templates) (c := c) hf with
  | quiet _ hq => exact hq
  | opens hc _ _ => cases hc.1
  | closes _ _ hc _ _ _ _ => cases hc.1
  | unmatched hc _ _ _ => cases hc.1
  | mismatched _ _ hc _ _ _ _ => cases hc.1

theorem settled_read (h : s.Going) (hm : s.Settled) (hc : c ≠ '\\') : (s.read .templates c).Settled := by
  rw [← feed_one]
  rcases hm with hm | ⟨d, st, hm⟩
  · rw [feed_plain h hm (fun hn => hc hn.2) (fun hn => absurd hn.1 (by decide))]
    cases hq : Delimiter.ofChar? c with
    | some d => rw [plain_quote hq]; exact .inr ⟨d, _, rfl⟩
    | none => rw [plain_other hq (fun hn => absurd hn.1 (by decide))]; exact .inl rfl
  · by_cases hd : c = d.char
    · rw [hd, feed_inside h hm rfl (inLiteral_close d st)]
      exact .inl rfl
    · rw [feed_inside h hm rfl (inLiteral_other hc hd)]
      exact .inr ⟨d, st, rfl⟩

theorem Disarmed.read (h : Disarmed s s') (hc : c ≠ '\\') :
    Disarmed (s.read .templates c) (s'.read .strings (if isBracket c then 'x' else c)) := by
  have ha := alike_disarm hc
  have hq := (quiet_templates (c := c) h.going.1).frame
  refine ⟨agree_read h.agree ha (by rw [h.cursor]), ⟨hq.2.1.trans h.going.1, hq.2.2⟩, hq.1.trans h.empty,
    settled_read h.going h.settled hc, ?_⟩
  rw [cursor_read h.going.1 h.going.2, cursor_read h.going'.1 h.going'.2, h.cursor, ha.cursor]

theorem read_backslash (h : s.Going) (hm : s.Settled) :
    ∃ m, s.read .templates '\\' = s.past ['\\'] m ∧ m.unfinished = s.mode.unfinished ∧
      ∀ c, (s.past ['\\'] m).read .templates c = (s.past ['\\'] m).past [c] s.mode := by
  rcases hm with hm | ⟨d, st, hm⟩
  · refine ⟨.hidden, ?_, by rw [hm]; rfl, fun c => ?_⟩
    · rw [read_code h hm, code_hides ⟨rfl, rfl⟩, moved_eq h]
      rfl
    · rw [read_going (h.past _ _), take_hidden rfl, moved_eq (h.past _ _), hm]
      rfl
  · have h1 : s.feed .templates ['\\'] = s.past ['\\'] (.literal d st true) := feed_inside h hm rfl rfl
    refine ⟨.literal d st true, h1, by rw [hm]; rfl, fun c => ?_⟩
    rw [hm]
    exact feed_inside (h.past _ _) rfl rfl rfl

theorem Disarmed.hides (h : Disarmed s s') (c : Char) :
    Disarmed (s.feed .templates ['\\', c]) (s'.feed .strings ['x', if c = '\n' then c else 'x']) := by
  have hidle : (if c = '\n' then c else 'x') ∉ special ∧ (if c = '\n' then c else 'x') ≠ '\\' := by
    split
    · rename_i hc; subst hc; decide
    · decide
  obtain ⟨m, h1, -, h2⟩ := read_backslash h.going h.settled
  obtain ⟨b, h1'⟩ := read_idle (g := .strings) h.going' h.settled' (c := 'x') (by decide) (by decide)
  obtain ⟨b', h2'⟩ := read_idle (g := .strings) (s := s'.read .strings 'x') (by rw [h1']; exact h.going')
    (by rw [h1']; exact h.settled') hidle.1 hidle.2
  rw [feed_cons, feed_cons, feed_nil, h1, h2, feed_cons, feed_cons, feed_nil, h2', h1']
  refine ⟨⟨h.agree.mode, h.agree.slashes, nofun, h.agree.stack, h.agree.fault, h.agree.fresh⟩, h.going, h.empty,
    h.settled, ?_⟩
  show (s.cursor.advance '\\').advance c = (s'.cursor.advance 'x').advance (if c = '\n' then c else 'x')
  rw [h.cursor, show s'.cursor.advance '\\' = s'.cursor.advance 'x' from rfl]
  split
  · rfl
  · rename_i hc
    simp [Cursor.advance, hc]

theorem verdict_congr (hf : s.fault = s'.fault) (hm : s.mode.unfinished = s'.mode.unfinished)
    (hs : s.stack = s'.stack) : s.verdict g = s'.verdict g := by
  simp only [verdict, innermost, hf, hm, hs]

theorem Disarmed.verdict (h : Disarmed s s') : s.verdict .templates = passStrings (s'.verdict .strings) := by
  have hm := h.agree.mode
  have hstack : s'.stack = [] := by
    have hs := h.agree.stack
    rw [h.empty] at hs
    exact List.forall₂_nil_left_iff.mp hs
  have hi : s.innermost = none := innermost_eq_none_iff.mpr h.empty
  have hi' : s'.innermost = none := innermost_eq_none_iff.mpr hstack
  unfold Scanner.verdict
  rw [h.going.1, h.going'.1, hi, hi']
  rcases h.settled with hs | ⟨d, st, hs⟩
  · rw [hs] at hm ⊢
    generalize s'.mode = m' at hm ⊢
    cases hm
    rfl
  · rw [hs] at hm ⊢
    generalize s'.mode = m' at hm ⊢
    cases hm
    rename_i hst
    cases d <;> cases hst <;> rfl

/-- The scan of a text finds at its end what that of the disarmed text finds. -/
theorem Disarmed.feed (h : Disarmed s s') (t : List Char) :
    (s.feed .templates t).verdict .templates = passStrings ((s'.feed .strings (disarm t)).verdict .strings) := by
  fun_induction disarm t generalizing s s' with
  | case1 => exact h.verdict
  | case2 =>
    -- a backslash at the end hides nothing, and leaves open what was open
    obtain ⟨m, h1, hu, -⟩ := read_backslash h.going h.settled
    obtain ⟨b, h1'⟩ := read_idle (g := .strings) h.going' h.settled' (c := 'x') (by decide) (by decide)
    have hT : (s.past ['\\'] m).verdict .templates = s.verdict .templates := verdict_congr rfl hu rfl
    have hS : Scanner.verdict .strings { s'.past ['x'] s'.mode with before := b } = s'.verdict .strings := rfl
    rw [feed_cons, feed_nil, feed_cons, feed_nil, h1, h1', hT, hS]
    exact h.verdict
  | case3 c t ih =>
    have ht := ih (h.hides c)
    rw [feed_cons, feed_cons, feed_cons, feed_cons]
    exact ht
  | case4 c t h1 h2 ih =>
    have hc : c ≠ '\\' := by
      intro e
      cases t with
      | nil => exact h1 e rfl
      | cons d t => exact h2 d t e rfl
    exact ih (h.read hc)

/-- Of what can be open where slashes mean nothing, `templates` reports a template only. -/
theorem template_of_verdict {kind : LiteralKind} {st : Position} (hf : s.fault = none) (hs : s.mode.ofSlash = false)
    (hu : s.mode.unfinished = some (kind, st)) (hv : s.verdict .templates = some (.unterminatedLiteral kind st))
    (hi : s.innermost = none) : kind = .template := by
  generalize hm : s.mode = m at hs hu
  have hstring : ∀ q, kind ≠ .string q := by
    rintro q rfl
    rw [← hm] at hu
    simp [Scanner.verdict, hf, hu, hi] at hv
  cases m with
  | literal d p escaped =>
    cases hu
    cases d with
    | backtick => rfl
    | slash => cases hs
    | doubleQuote => exact absurd rfl (hstring '"')
    | apostrophe => exact absurd rfl (hstring '\'')
  | code => cases hu
  | hidden => cases hu
  | _ => cases hs

end Scanner

open Scanner

/-- The templates grammar finds in a text what the strings grammar finds in the disarmed text, open strings let
    pass. No text halts it, and all that it finds is a template that is open since its backtick. -/
theorem scan_templates (t : List Char) :
    scan .templates t = passStrings (scan .strings (disarm t)) ∧
      (start.feed .templates t).fault = none ∧
      ∀ v, scan .templates t = some v →
        ∃ st, v = .unterminatedLiteral .template st ∧ OpenSince .templates t .template st := by
  obtain ⟨hempty, hf⟩ := (sound .templates t).inert rfl
  have hi : (start.feed .templates t).innermost = none := innermost_eq_none_iff.mpr hempty
  refine ⟨?_, hf, fun v hv => ?_⟩
  · rw [scan_eq_dropMark, scan_eq_dropMark, dropMark_disarm]
    exact Disarmed.opened.feed (dropMark t)
  · rcases verdict_cases hf hv with ⟨kind, st, hu, rfl⟩ | ⟨f, hs, -⟩
    · have hs : (start.feed .templates t).mode.ofSlash = false := by
        cases hs : (start.feed .templates t).mode.ofSlash with
        | false => rfl
        | true => exact absurd (ofSlash_feed hs) (by decide)
      obtain rfl := template_of_verdict hf hs hu hv hi
      exact ⟨st, rfl, openSince_of_unfinished hf hu⟩
    · rw [hempty] at hs; cases hs

/-- A hidden quote, a bracket without a partner, and a template that is left open. -/
theorem scan_templates_open :
    scan .templates "\\\" ] \x60a\\\x60".toList = some (.unterminatedLiteral .template ⟨1, 6⟩) ∧
      disarm "\\\" ] \x60a\\\x60".toList = "xx x \x60axx".toList ∧
      OpenSince .templates "\\\" ] \x60a\\\x60".toList .template ⟨1, 6⟩ := by
  have h : scan .templates "\\\" ] \x60a\\\x60".toList = some (.unterminatedLiteral .template ⟨1, 6⟩) := by decide
  obtain ⟨st, hv, ho⟩ := (scan_templates _).2.2 _ h
  cases hv
  exact ⟨h, by decide, ho⟩

end BracketBalance
