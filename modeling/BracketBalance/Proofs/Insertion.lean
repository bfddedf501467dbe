/-
  BracketBalance.Proofs.Insertion — texts that leave a scan as it is.

  Blanks, whole strings and templates, and where a slash divides nothing whole regexes
  and comments too (`Inert`), take a scan in code back to where it was, but for the
  cursor (`feed_inert`): the last significant character, the open brackets and what is
  to come of them are the same as before.

  Proved (`scan_insert`): such a text may be put anywhere between two parts of a text
  and does not change what is found, nor at which characters of the two parts.
-/

import BracketBalance.Proofs.Likeness
import BracketBalance.Proofs.Tokens

namespace BracketBalance

/-- The texts that mean nothing to a scan in code; `opens` is whether a slash opens a regex or a comment there. -/
inductive Inert (g : Grammar) (opens : Bool) : List Char → Prop
  | blanks {w : List Char} : (∀ c ∈ w, isBlank c = true) → Inert g opens w
  | quoted {q : Char} {b : List Char} : q ∈ ['"', '\'', '\x60'] → Body q b → Inert g opens (q :: (b ++ [q]))
  | regex {b : List Char} : g = .full → opens = true → Body '/' b → b ≠ [] → b.head? ≠ some '*' →
      Inert g opens ('/' :: (b ++ ['/']))
  | line {b : List Char} : g = .full → opens = true → '\n' ∉ b → Inert g opens ('/' :: '/' :: (b ++ ['\n']))
  | block {b : List Char} : g = .full → opens = true → ¬ ['*', '/'] <:+: b →
      Inert g opens ('/' :: '*' :: (b ++ ['*', '/']))

theorem ne_of_isBlank {c : Char} (h : isBlank c = true) :
    Delimiter.ofChar? c = none ∧ isBracket c = false ∧ c ≠ '/' ∧ c ≠ '\\' := by
  have hne : ∀ d : Char, isBlank d = false → c ≠ d := by
    intro d hd e
    rw [e, hd] at h
    cases h
  have hq : Delimiter.ofChar? c = none := by
    unfold Delimiter.ofChar?
    rw [if_neg (hne _ (by decide)), if_neg (hne _ (by decide)), if_neg (hne _ (by decide))]
  have hb : isBracket c = false := by
    cases hb : isBracket c with
    | false => rfl
    | true => rw [(ne_of_isBracket hb).2.1] at h; cases h
  exact ⟨hq, hb, hne _ (by decide), hne _ (by decide)⟩

/-- The mode after a blank: in code there is nothing to be done with it, and it ends what was pending. -/
def Mode.blank (m : Mode) (c : Char) : Mode := if m.inCode then code else m.inside c

namespace Scanner

variable {g : Grammar} {s : Scanner} {c : Char} {t u b w : List Char} {m m' : Mode} {st : Position}

/-- A scan that has begun and not halted. -/
def Going (s : Scanner) : Prop := s.fault = none ∧ s.fresh = false

/-- The scan in the mode `m`, past the text `t`, and as it was in all else. -/
def past (s : Scanner) (t : List Char) (m : Mode) : Scanner :=
  { s with mode := m, cursor := t.foldl Cursor.advance s.cursor }

theorem past_past (s : Scanner) (t u : List Char) (m m' : Mode) : (s.past t m).past u m' = s.past (t ++ u) m' := by
  simp [past, List.foldl_append]

theorem feed_past (h : s.feed g t = s.past t m) (k : (s.past t m).feed g u = (s.past t m).past u m') :
    s.feed g (t ++ u) = s.past (t ++ u) m' := by rw [feed_append, h, k, past_past]

theorem feed_past_cons (h : s.feed g [c] = s.past [c] m) (k : (s.past [c] m).feed g t = (s.past [c] m).past t m') :
    s.feed g (c :: t) = s.past (c :: t) m' := feed_past h k

theorem Going.past (h : s.Going) (t : List Char) (m : Mode) : (s.past t m).Going := h

theorem Going.opened : opened.Going := ⟨rfl, rfl⟩

theorem Going.feed (h : s.Going) (hf : (s.feed g t).fault = none) : (s.feed g t).Going := by
  induction t generalizing s with
  | nil => exact h
  | cons c t ih =>
    have hc : (s.read g c).fault = none := fault_of_feed hf
    exact ih ⟨hc, fresh_read h.1⟩ hf

theorem moved_eq (h : s.Going) (c : Char) : s.moved c = s.past [c] s.mode := by
  obtain ⟨-, hs⟩ := h
  simp [moved, past, hs]

theorem read_going (h : s.Going) : s.read g c = s.take g c := read_eq_take h.1 (by simp [h.2])

theorem read_code (h : s.Going) (hm : s.mode = .code) : s.read g c = (s.moved c).code g none s.cursor.next c := by
  rw [read_going h, take_code hm]

/-! ## One character -/

theorem feed_inside (h : s.Going) (hm : s.mode = m) (hi : m.inCode = false) (he : m.inside c = m') :
    s.feed g [c] = s.past [c] m' := by
  subst hm he
  rw [feed_one, read_going h, take_inside hi, moved_eq h]
  rfl

theorem feed_plain (h : s.Going) (hm : s.mode = .code) (he : ¬ (g.escapesCode = true ∧ c = '\\'))
    (hs : ¬ (g.knowsSlashes = true ∧ c = '/')) : s.feed g [c] = (s.moved c).plain g s.cursor.next c := by
  rw [feed_one, read_code h hm]
  exact code_plain he hs (by simp)

/-- A blank changes nothing but the mode and the cursor, whatever it is read in. -/
theorem take_blank (hc : isBlank c = true) : s.take g c = { s.moved c with mode := s.mode.blank c } := by
  obtain ⟨hq, hb, hs, he⟩ := ne_of_isBlank hc
  have hstar : c ≠ '*' := by
    rintro rfl
    exact absurd hc (by decide)
  cases hm : s.mode.inCode with
  | false => rw [take_inside hm, Mode.blank, hm]; rfl
  | true =>
    rw [Mode.blank, hm]
    by_cases hh : s.mode = .hidden
    · rw [take_hidden hh]; rfl
    · rw [take_atCode ⟨hm, hh⟩, code_plain (by simp [he]) (by simp [hs]) (by simp [hstar]),
        plain_other hq (by simp [hb]), if_pos hc]
      rfl

theorem feed_blank (h : s.Going) (hm : s.mode = .code) (hc : isBlank c = true) : s.feed g [c] = s.past [c] .code := by
  rw [feed_one, read_going h, take_blank hc, moved_eq h, hm]
  rfl

theorem feed_quote (h : s.Going) (hm : s.mode = .code) {d : Delimiter} (hd : Delimiter.ofChar? c = some d) :
    s.feed g [c] = s.past [c] (.literal d s.cursor.next false) := by
  have hq := (Delimiter.eq_of_ofChar? hd).2
  have hs : c ≠ '/' := by rintro rfl; exact absurd hq (by decide)
  have he : c ≠ '\\' := by rintro rfl; exact absurd hq (by decide)
  rw [feed_plain h hm (fun hn => he hn.2) (fun hn => hs hn.2), plain_quote hd, moved_eq h]
  rfl

theorem feed_slash (h : s.Going) (hm : s.mode = .code) (ho : s.opensRegex = true) :
    s.feed .full ['/'] = s.past ['/'] (.regexOpen s.cursor.next) := by
  have ho' : (s.moved '/').opensRegex = true := ho
  rw [feed_one, read_code h hm, code_slash rfl, ho', moved_eq h]
  rfl

/-! ## The bodies of literals and comments -/

theorem inLiteral_other {d : Delimiter} (he : c ≠ '\\') (hd : c ≠ d.char) :
    Mode.inLiteral d st c = .literal d st false := by simp [Mode.inLiteral, he, hd]

theorem inLiteral_close (d : Delimiter) (st : Position) : Mode.inLiteral d st d.char = .code := by
  simp [Mode.inLiteral, d.char_ne_escape]

theorem feed_body {d : Delimiter} (hb : Body d.char b) (h : s.Going) (hm : s.mode = .literal d st false) :
    s.feed g b = s.past b (.literal d st false) := by
  induction hb generalizing s with
  | nil => rw [feed_nil, ← hm]; rfl
  | char c he hd _ ih => exact feed_past_cons (feed_inside h hm rfl (inLiteral_other he hd)) (ih (h.past _ _) rfl)
  | escape c _ ih =>
    have h1 : s.feed g ['\\'] = s.past ['\\'] (.literal d st true) := feed_inside h hm rfl rfl
    refine feed_past_cons h1 (feed_past_cons (feed_inside (h.past _ _) rfl rfl rfl) ?_)
    exact ih ((h.past _ _).past _ _) rfl

theorem feed_literal {d : Delimiter} (hb : Body d.char b) (h : s.Going) (hm : s.mode = .literal d st false) :
    s.feed g (b ++ [d.char]) = s.past (b ++ [d.char]) .code :=
  feed_past (feed_body hb h hm) (feed_inside (h.past _ _) rfl rfl (inLiteral_close d st))

/-- The first character of a regex tells it from a comment; from there on it is a literal. -/
theorem feed_regex (hb : Body '/' b) (hn : b ≠ []) (hh : b.head? ≠ some '*') (h : s.Going)
    (hm : s.mode = .regexOpen st) : s.feed g (b ++ ['/']) = s.past (b ++ ['/']) .code := by
  have hopen : ∀ {c : Char}, c ≠ '/' → c ≠ '*' → (Mode.regexOpen st).inside c = Mode.inLiteral .slash st c := by
    intro c h1 h2
    simp [Mode.inside, h1, h2]
  cases hb with
  | nil => exact absurd rfl hn
  | char c he hd hb =>
    have hc : c ≠ '*' := fun hc => hh (by rw [hc]; rfl)
    have h1 : s.feed g [c] = s.past [c] (.literal .slash st false) :=
      feed_inside h hm rfl ((hopen hd hc).trans (inLiteral_other he hd))
    exact feed_past_cons h1 (feed_literal (d := .slash) hb (h.past _ _) rfl)
  | escape c hb =>
    have h1 : s.feed g ['\\'] = s.past ['\\'] (.literal .slash st true) :=
      feed_inside h hm rfl (hopen (by decide) (by decide))
    have h2 : (s.past ['\\'] (.literal .slash st true)).feed g [c]
        = (s.past ['\\'] _).past [c] (.literal .slash st false) := feed_inside (h.past _ _) rfl rfl rfl
    exact feed_past_cons h1 (feed_past_cons h2 (feed_literal (d := .slash) hb ((h.past _ _).past _ _) rfl))

theorem feed_line (hb : '\n' ∉ b) (h : s.Going) (hm : s.mode = .lineComment st) :
    s.feed g (b ++ ['\n']) = s.past (b ++ ['\n']) .code := by
  induction b generalizing s with
  | nil => exact feed_inside h hm rfl rfl
  | cons c b ih =>
    rw [List.mem_cons, not_or] at hb
    have h1 : s.feed g [c] = s.past [c] (.lineComment st) := feed_inside h hm rfl (if_neg (Ne.symm hb.1))
    exact feed_past_cons h1 (ih hb.2 (h.past _ _) rfl)

/-- A block comment up to its end; a star just before may belong to the end. -/
theorem feed_block (star : Bool) (hb : ¬ ['*', '/'] <:+: if star then '*' :: b else b) (h : s.Going)
    (hm : s.mode = .blockComment st star) : s.feed g (b ++ ['*', '/']) = s.past (b ++ ['*', '/']) .code := by
  induction b generalizing s star with
  | nil =>
    have h1 : s.feed g ['*'] = s.past ['*'] (.blockComment st true) :=
      feed_inside h hm rfl (by simp [Mode.inside])
    exact feed_past_cons h1 (feed_inside (h.past _ _) rfl rfl rfl)
  | cons c b ih =>
    have hnc : ¬ (star = true ∧ c = '/') := by
      rintro ⟨rfl, rfl⟩
      exact hb ⟨[], b, rfl⟩
    have h1 : s.feed g [c] = s.past [c] (.blockComment st (c = '*')) :=
      feed_inside h hm rfl (if_neg (by simpa using hnc))
    have hrest : ¬ ['*', '/'] <:+: if decide (c = '*') then '*' :: b else b := by
      intro hi
      refine hb ?_
      have hcb : ['*', '/'] <:+: c :: b := by
        by_cases hc : c = '*'
        · simpa [hc] using hi
        · exact List.infix_cons (by simpa [hc] using hi)
      cases star with
      | false => exact hcb
      | true => exact List.infix_cons hcb
    exact feed_past_cons h1 (ih _ hrest (h.past _ _) rfl)

/-- A text that means nothing in code leaves the scan as it was. -/
theorem feed_inert (hw : Inert g s.opensRegex w) (h : s.Going) (hm : s.mode = .code) :
    s.feed g w = s.past w .code := by
  cases hw with
  | blanks hb =>
    induction w generalizing s with
    | nil => rw [feed_nil, ← hm]; rfl
    | cons c w ih =>
      obtain ⟨hc, hb⟩ := List.forall_mem_cons.mp hb
      exact feed_past_cons (feed_blank h hm hc) (ih (h.past _ _) rfl hb)
  | quoted hq hb =>
    rename_i q b
    obtain ⟨d, hd⟩ : ∃ d, Delimiter.ofChar? q = some d := by
      simp only [List.mem_cons, List.not_mem_nil, or_false] at hq
      rcases hq with rfl | rfl | rfl
      · exact ⟨.doubleQuote, rfl⟩
      · exact ⟨.apostrophe, rfl⟩
      · exact ⟨.backtick, rfl⟩
    obtain ⟨rfl, -⟩ := Delimiter.eq_of_ofChar? hd
    exact feed_past_cons (feed_quote h hm hd) (feed_literal hb (h.past _ _) rfl)
  | regex hg ho hb hn hh =>
    subst hg
    exact feed_past_cons (feed_slash h hm ho) (feed_regex hb hn hh (h.past _ _) rfl)
  | line hg ho hb =>
    subst hg
    refine feed_past_cons (feed_slash h hm ho) (feed_past_cons (feed_inside (h.past _ _) rfl rfl rfl) ?_)
    exact feed_line hb ((h.past _ _).past _ _) rfl
  | block hg ho hb =>
    subst hg
    refine feed_past_cons (feed_slash h hm ho) (feed_past_cons (feed_inside (h.past _ _) rfl rfl rfl) ?_)
    exact feed_block false hb ((h.past _ _).past _ _) rfl

theorem fresh_feed {p : List Char} (hp : p ≠ []) (hf : (start.feed g p).fault = none) :
    (start.feed g p).fresh = false := by
  obtain ⟨q, c, rfl⟩ := (List.eq_nil_or_concat' p).resolve_left hp
  rw [feed_snoc] at hf ⊢
  exact fresh_read (fault_of_feed (t := [c]) hf)

end Scanner

/-! ## A text put between two parts -/

/-- The same character of `p` or of `s` stands at `q` in `p ++ w ++ s` and at `q'` in `p ++ s`. -/
def SamePlace (p w s : List Char) (q q' : Position) : Prop :=
  (∃ a c b, p = a ++ c :: b ∧ q = (Cursor.after a).next ∧ q' = (Cursor.after a).next) ∨
    ∃ a c b, s = a ++ c :: b ∧ q = (Cursor.after (p ++ w ++ a)).next ∧ q' = (Cursor.after (p ++ a)).next

open Scanner

/-- A text that means nothing in code may stand after any `p` that ends in code: the same is found with it and
    without it, at the same characters of what stands before and after it. -/
theorem scan_insert {g : Grammar} {p w : List Char} (hp : p ≠ []) (hf : (start.feed g p).fault = none)
    (hm : (start.feed g p).mode = .code) (hw : Inert g (start.feed g p).opensRegex w) (s : List Char) :
    Option.Rel (Violation.Like (SamePlace (dropMark p) w s)) (scan g (p ++ w ++ s)) (scan g (p ++ s)) := by
  have hgo : (start.feed g p).Going := ⟨hf, fresh_feed hp hf⟩
  have hk : (start.feed g p).cursor = .after (dropMark p) := cursor_start hf
  have hstack : ∀ f ∈ (start.feed g p).stack, SamePlace (dropMark p) w s f.position f.position := by
    intro f h
    obtain ⟨a, b, hab, hpos⟩ := standsAt_frame hf f h
    exact .inl ⟨a, f.opener, b, by rw [hab, List.append_assoc]; rfl, hpos, hpos⟩
  have hstart := agree_self (g := g) hm hf hgo.2 hstack (w.foldl Cursor.advance (start.feed g p).cursor)
    (start.feed g p).cursor
  have hrun := agree_feed hstart id (t := s) (fun c _ => Alike.refl g c) fun a c b e => by
    refine .inr ⟨a, c, b, e, ?_, ?_⟩
    · simp only [hk, Cursor.after_append]
    · simp only [hk, Cursor.after_append]
  rw [List.map_id] at hrun
  have hpast : (start.feed g p).past w .code
      = { start.feed g p with cursor := w.foldl Cursor.advance (start.feed g p).cursor } := by
    rw [← hm]
    rfl
  rw [scan, scan, feed_append, feed_append, feed_append, feed_inert hw hgo hm, hpast]
  exact hrun.verdict Iff.rfl

/-- A comment full of brackets and quotes, before a closer of the wrong kind. -/
theorem scan_insert_comment :
    Option.Rel (Violation.Like (SamePlace ['f', '('] "/* ] ' */".toList ['\n', ']']))
      (scan .full "f(/* ] ' */\n]".toList) (scan .full "f(\n]".toList) ∧
    scan .full "f(/* ] ' */\n]".toList = some (.mismatched '(' ⟨1, 2⟩ ']' ⟨2, 1⟩) := by
  have hb : ¬ ['*', '/'] <:+: " ] ' ".toList := by decide
  refine ⟨?_, by decide⟩
  exact scan_insert (g := .full) (p := ['f', '(']) (by decide) (by decide) (by decide) (.block rfl (by decide) hb) _

end BracketBalance
