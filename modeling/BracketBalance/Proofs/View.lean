/-
  BracketBalance.Proofs.View — the fields of a scan and the scanner that they describe.

  Where the fields fit together, a character does to them what it does to the scanner
  that they describe: `view` commutes with every function of a step
  (`view_literalChar`, `view_plainChar`, `view_codeChar`, `view_step`).

  Proved: whatever chunks are fed, the fields fit together and describe the scanner that
  has read the chunks as one text (`view_feedAll`).
-/

import BracketBalance.Proofs.Fields

namespace BracketBalance

namespace Fields

variable {g : Grammar} {s : Fields} {c : Char} {p : Position} {d : Delimiter} {division : Option Position}

/-! ## The mode -/

theorem mode_hidden (hs : s.state = .code) (he : s.escape = true) : s.mode = .hidden := by
  unfold mode
  rw [hs]
  exact if_pos he

theorem mode_slash {q : Position} (hs : s.state = .code) (he : s.escape = false) (hd : s.division = some q) :
    s.mode = .slash q := by
  unfold mode
  rw [hs, he, hd]
  rfl

theorem mode_code (hs : s.state = .code) (he : s.escape = false) (hd : s.division = none) : s.mode = .code := by
  unfold mode
  rw [hs, he, hd]
  rfl

theorem Plain.mode (h : Plain s) : s.mode = .code := mode_code h.state h.escape h.division

theorem mode_literal (hs : s.state.delimiter? = some d) (hb : s.regexBodyEmpty = false) :
    s.mode = .literal d s.literalStart s.escape := by
  unfold mode
  cases hst : s.state with
  | string q =>
    rw [hst] at hs
    cases hs
    rfl
  | template =>
    rw [hst] at hs
    cases hs
    rfl
  | regex =>
    rw [hst] at hs
    cases hs
    rw [hb]
    rfl
  | _ => rw [hst] at hs; cases hs

theorem mode_regexOpen (hs : s.state = .regex) (hb : s.regexBodyEmpty = true) : s.mode = .regexOpen s.literalStart := by
  unfold mode
  rw [hs]
  exact if_pos hb

theorem mode_lineComment (hs : s.state = .lineComment) : s.mode = .lineComment s.literalStart := by
  unfold mode
  rw [hs]

theorem mode_blockComment (hs : s.state = .blockComment) :
    s.mode = .blockComment s.literalStart (s.commentBefore == some '*') := by
  unfold mode
  rw [hs]

theorem view_of_mode {m : Mode} (hm : s.mode = m) :
    s.view = ⟨m, s.before, s.stack.reverse, s.cursor, s.consumed == 0, s.fault⟩ := by rw [view, hm]

theorem view_settle {m : Mode} (hf : s.fault = none) (hm : s.mode = m) : (settle (s, none)).view =
    ⟨m, s.before, s.stack.reverse, s.cursor, s.consumed == 0, s.fault⟩ := by
  rw [hf]
  exact view_of_mode hm

theorem settle_none (hf : s.fault = none) : settle (s, none) = s := by rw [settle, ← hf]

/-! ## In a literal -/

theorem view_literalChar (hs : s.state.delimiter? = some d) (hb : s.regexBodyEmpty = false)
    (hd : s.division = none) : (s.literalChar c d.char).view = { s.view with mode := s.mode.inside c } := by
  rw [mode_literal hs hb]
  unfold literalChar
  split
  · rename_i he
    rw [he]
    exact view_of_mode (mode_literal hs hb)
  rename_i he
  rw [Bool.not_eq_true] at he
  rw [he]
  show _ = { s.view with mode := Mode.inLiteral d s.literalStart c }
  unfold Mode.inLiteral
  split
  · exact view_of_mode (mode_literal hs hb)
  split
  · exact view_of_mode (mode_code rfl rfl hd)
  · exact view_of_mode (by rw [mode_literal hs hb, he])

/-- The first character of the body of a regex, when it makes no comment of it. -/
theorem view_bodyChar (hs : s.state = .regex) (he : s.escape = false) (hd : s.division = none) (hf : s.fault = none) :
    (settle ({ s with regexBodyEmpty := false }.literalChar c '/', none)).view =
      { s.view with mode := .inLiteral .slash s.literalStart c } := by
  have hdel : s.state.delimiter? = some .slash := by rw [hs]; rfl
  have hm : { s with regexBodyEmpty := false }.mode = .literal .slash s.literalStart s.escape := mode_literal hdel rfl
  have hkept : ({ s with regexBodyEmpty := false }.literalChar c '/').fault = none := fault_literalChar.trans hf
  have hv := view_literalChar (s := { s with regexBodyEmpty := false }) (c := c) hdel rfl hd
  rw [hm, congrArg (Mode.literal .slash s.literalStart) he] at hv
  rw [settle_none hkept]
  exact hv

/-! ## In code -/

theorem view_closeBracket (h : Plain s) (hf : s.fault = none) :
    (match s.closeBracket c p with
      | (s, some v) => settle (s, some v)
      | (s, none) => settle ({ s with before := some c }, none)).view = s.view.close p c := by
  obtain ⟨hs, he, hd, -⟩ := h
  unfold closeBracket Scanner.close
  cases hl : s.stack.getLast? with
  | none =>
    have hnil : s.stack = [] := List.getLast?_eq_none_iff.mp hl
    rw [show s.view.stack = [] by rw [view, hnil]; rfl]
    dsimp only
    refine (view_of_mode (s := settle (s, some _)) (mode_code hs he hd)).trans ?_
    show Scanner.mk _ _ s.stack.reverse _ _ _ = _
    rw [hnil]
    rfl
  | some f =>
    obtain ⟨rest, hrest⟩ := List.getLast?_eq_some_iff.mp hl
    have hlast : s.stack.dropLast = rest := by rw [hrest, List.dropLast_concat]
    rw [show s.view.stack = f :: rest.reverse by rw [view, hrest, List.reverse_concat], hlast]
    dsimp only
    by_cases hm : closerOf f.opener = c
    · rw [if_pos hm, if_pos hm]
      exact view_settle hf (mode_code hs he hd)
    · rw [if_neg hm, if_neg hm]
      exact view_of_mode (mode_code hs he hd)

theorem view_plainChar (h : Plain s) (hf : s.fault = none) (hh : ¬ (g.escapesCode = true ∧ c = '\\'))
    (hb : ¬ (division.isSome = true ∧ c = '*')) :
    (settle (s.plainChar g division c p)).view = s.view.code g division p c := by
  obtain ⟨hs, he, hd, hbody⟩ := id h
  unfold plainChar
  split
  · rename_i hc
    rw [Bool.and_eq_true, decide_eq_true_eq] at hc
    obtain ⟨rfl, hk⟩ := hc
    cases division with
    | some q =>
      rw [Scanner.code_lineComment hk]
      exact view_settle hf (mode_lineComment rfl)
    | none =>
      rw [Scanner.code_slash hk]
      show (settle (if s.opensRegex then _ else _)).view = if s.opensRegex then _ else _
      split
      · exact view_settle hf (mode_regexOpen rfl rfl)
      · exact view_settle hf (mode_slash hs he rfl)
  rename_i hslash
  rw [Scanner.code_plain hh (by simpa [and_comm] using hslash) hb]
  split
  · rename_i hc
    rw [Bool.or_eq_true, decide_eq_true_eq, decide_eq_true_eq] at hc
    rcases hc with rfl | rfl
    · rw [Scanner.plain_quote (d := .doubleQuote) rfl]
      exact view_settle hf (mode_literal rfl hbody)
    · rw [Scanner.plain_quote (d := .apostrophe) rfl]
      exact view_settle hf (mode_literal rfl hbody)
  rename_i hquote
  split
  · rename_i hc
    rw [hc, Scanner.plain_quote (d := .backtick) rfl]
    exact view_settle hf (mode_literal rfl hbody)
  rename_i htick
  split
  · rename_i hc
    rw [Bool.and_eq_true] at hc
    rw [Scanner.plain_opener hc.1 hc.2]
    show _ = Scanner.mk .code (some c) (⟨c, p⟩ :: s.stack.reverse) _ _ _
    rw [← List.reverse_concat]
    exact view_settle hf (mode_code hs he hd)
  rename_i hopener
  split
  · rename_i hc
    rw [Bool.and_eq_true] at hc
    rw [Scanner.plain_closer hc.1 hc.2, ← view_closeBracket h hf]
    cases s.closeBracket c p with
    | mk closed v => cases v <;> rfl
  rename_i hcloser
  have hdel : Delimiter.ofChar? c = none := by
    simp only [Bool.or_eq_true, decide_eq_true_eq, not_or] at hquote
    simp [Delimiter.ofChar?, hquote, htick]
  have hbracket : ¬ (g.knowsBrackets = true ∧ isBracket c = true) := by
    rintro ⟨hk, hbr⟩
    simp only [isBracket, Bool.or_eq_true] at hbr
    simp only [hk, Bool.true_and] at hopener hcloser
    exact hbr.elim hopener hcloser
  rw [Scanner.plain_other hdel hbracket]
  split
  · exact view_settle hf h.mode
  · exact view_settle hf (mode_code hs he hd)

theorem view_codeChar (h : Tied g s) (hs : s.state = .code) (hf : s.fault = none) (he : s.escape = false) :
    (settle (s.codeChar g c p)).view = s.view.code g s.division p c := by
  have hplain := Plain.of_tied h hs he
  unfold codeChar
  rw [if_neg (by simp [he])]
  split
  · rename_i hc
    rw [Bool.and_eq_true, decide_eq_true_eq] at hc
    rw [Scanner.code_hides hc]
    exact view_settle hf (mode_hidden hs rfl)
  rename_i hh
  have hh' : ¬ (g.escapesCode = true ∧ c = '\\') := by simpa using hh
  -- a slash kept in mind has no part in what a character of code does but for its place
  have hcode : s.view.code g s.division p c = { s with division := none }.view.code g s.division p c := rfl
  rw [hcode]
  cases hd : s.division with
  | none => exact view_plainChar hplain hf hh' (by simp)
  | some q =>
    dsimp only
    split
    · rename_i hc
      rw [hc, Scanner.code_blockComment]
      exact view_settle hf (mode_blockComment rfl)
    · exact view_plainChar hplain hf hh' (by simpa using ‹_›)

/-! ## One character -/

theorem view_moved (hc : s.consumed ≠ 0) (c : Char) : (s.moved c).view = s.view.moved c := by
  have hread : (s.consumed == 0) = false := by simpa using hc
  show Scanner.mk s.mode s.before s.stack.reverse (s.cursor.advance c) (s.consumed == 0) s.fault = _
  rw [hread]
  rfl

/-- In code with no backslash pending, the scanner has in mind the slash that the fields have. -/
theorem atCode_view (hs : s.state = .code) (he : s.escape = false) :
    s.view.atCode ∧ s.view.mode.slash? = s.division := by
  cases hd : s.division with
  | none =>
    have hm : s.view.mode = .code := mode_code hs he hd
    refine ⟨⟨by rw [hm]; rfl, fun h => ?_⟩, by rw [hm]; rfl⟩
    rw [hm] at h
    cases h
  | some q =>
    have hm : s.view.mode = .slash q := mode_slash hs he hd
    refine ⟨⟨by rw [hm]; rfl, fun h => ?_⟩, by rw [hm]; rfl⟩
    rw [hm] at h
    cases h

/-- A literal of which something was read. -/
theorem view_step_literal (h : Tied g s) (hf : s.fault = none) (hc : s.consumed ≠ 0)
    (hs : s.state.delimiter? = some d) (hb : s.regexBodyEmpty = false) :
    (settle (s.step g c)).view = s.view.take g c := by
  have hm : s.view.mode = .literal d s.literalStart s.escape := mode_literal hs hb
  rw [step_literal hs hb h.quote, Scanner.take_inside (by rw [hm]; rfl), ← view_moved hc]
  have hkept : ((s.moved c).literalChar c d.char).fault = none := fault_literalChar.trans hf
  rw [settle_none hkept]
  exact view_literalChar (s := s.moved c) hs hb (h.division_of_delimiter hs)

theorem view_step (h : Tied g s) (hf : s.fault = none) (hc : s.consumed ≠ 0) :
    (settle (s.step g c)).view = s.view.take g c := by
  have hm := h.moved c
  cases hs : s.state with
  | code =>
    rw [step_code hs]
    cases he : s.escape with
    | true =>
      have hv : s.view.mode = .hidden := mode_hidden hs he
      rw [codeChar_hidden hm hs he, Scanner.take_hidden hv, ← view_moved hc]
      exact view_settle hf (mode_code hs rfl (h.division_of_escape hs he))
    | false =>
      obtain ⟨hat, hslash⟩ := atCode_view hs he
      rw [view_codeChar hm hs hf he, Scanner.take_atCode hat, hslash, view_moved hc]
      rfl
  | string q => exact view_step_literal h hf hc (by rw [hs]; rfl) (h.body_eq_false (by rw [hs]; nofun))
  | template => exact view_step_literal h hf hc (by rw [hs]; rfl) (h.body_eq_false (by rw [hs]; nofun))
  | regex =>
    cases hb : s.regexBodyEmpty with
    | false => exact view_step_literal h hf hc (by rw [hs]; rfl) hb
    | true =>
      have hv : s.view.mode = .regexOpen s.literalStart := mode_regexOpen hs hb
      -- this character may still make a comment of it
      rw [step_regex hs hb, Scanner.take_inside (by rw [hv]; rfl), hv, ← view_moved hc, Mode.inside]
      split
      · exact view_settle hf (mode_lineComment rfl)
      split
      · exact view_settle hf (mode_blockComment rfl)
      · exact view_bodyChar (s := s.moved c) hs (h.body hb).2 (h.division_eq_none (by rw [hs]; nofun)) hf
  | lineComment =>
    obtain ⟨-, he, hd, -⟩ := h.of_comment (.inl hs)
    have hv : s.view.mode = .lineComment s.literalStart := mode_lineComment hs
    rw [Scanner.take_inside (by rw [hv]; rfl), hv, ← view_moved hc, Mode.inside, step_lineComment hs]
    split
    · exact view_settle hf (mode_code rfl he hd)
    · exact view_settle hf hv
  | blockComment =>
    obtain ⟨-, he, hd, -⟩ := h.of_comment (.inr hs)
    have hv : s.view.mode = .blockComment s.literalStart (s.commentBefore == some '*') := mode_blockComment hs
    rw [Scanner.take_inside (by rw [hv]; rfl), hv, ← view_moved hc, Mode.inside, step_blockComment hs]
    split
    · exact view_settle hf (mode_code rfl he hd)
    · exact view_settle hf (mode_blockComment hs)

/-! ## Texts -/

theorem view_read (h : Tied g s) (c : Char) : (s.read g c).view = s.view.read g c := by
  cases hf : s.fault with
  | some v => rw [read_of_fault hf, Scanner.read_of_fault (v := v) hf]
  | none =>
    by_cases hc : s.consumed = 0 ∧ c = byteOrderMark
    · obtain ⟨hc, rfl⟩ := hc
      rw [read_mark hf hc, Scanner.read_mark hf (by simp [view, hc])]
      rfl
    · have hcount : Tied g { s with consumed := s.consumed + 1 } := h.congr rfl rfl rfl rfl
      have hread : ¬ (s.view.fresh = true ∧ c = byteOrderMark) := by simpa [view] using hc
      rw [read_eq_step hf hc, view_step hcount hf (Nat.succ_ne_zero _), Scanner.read_eq_take hf hread]
      rfl

theorem view_read_all (h : Tied g s) (t : List Char) :
    Tied g (t.foldl (read g) s) ∧ (t.foldl (read g) s).view = s.view.feed g t := by
  induction t generalizing s with
  | nil => exact ⟨h, rfl⟩
  | cons c t ih =>
    rw [List.foldl_cons, Scanner.feed_cons, ← view_read h]
    exact ih (tied_read h c)

theorem view_feedAll (g : Grammar) (chunks : List (List Char)) :
    Tied g (start.feedAll g chunks) ∧ (start.feedAll g chunks).view = Scanner.start.feed g chunks.flatten := by
  rw [feedAll_eq]
  exact view_read_all (tied_start g) chunks.flatten

end Fields

end BracketBalance
