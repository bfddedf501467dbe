/-
  BracketBalance.Proofs.Fields — how the fields of a scan fit together.

  A backslash is pending, a slash kept in mind or a regex without a body only in the
  states that each is about (`Tied`). Every branch of a step keeps them so (`tied_step`),
  and so does a character of a text (`tied_read`).

  A text may come in chunks, and the violation that halts the scan is the answer to its
  chunk: that is the text read character by character (`feed_eq`, `feedAll_eq`).
-/

import BracketBalance.Proofs.Step
import BracketBalance.Scanner.Fields
import Mathlib.Data.List.Basic

namespace BracketBalance

/-- What ends the literal. -/
def ScanState.delimiter? : ScanState → Option Delimiter
  | .string d => some (if d = '\'' then .apostrophe else .doubleQuote)
  | .template => some .backtick
  | .regex => some .slash
  | _ => none

namespace Fields

variable {g : Grammar} {s : Fields} {c : Char} {p : Position} {d : Delimiter} {division : Option Position}

structure Tied (g : Grammar) (s : Fields) : Prop where
  quote : ∀ q, s.state = .string q → q = '"' ∨ q = '\''
  slashes : s.state ∈ [.regex, .lineComment, .blockComment] → g = .full
  escape : s.escape = true → s.state.delimiter?.isSome = true ∨ (s.state = .code ∧ g = .templates)
  division : ∀ q, s.division = some q → g = .full ∧ s.state = .code
  body : s.regexBodyEmpty = true → s.state = .regex ∧ s.escape = false

theorem tied_start (g : Grammar) : Tied g start := ⟨nofun, nofun, nofun, nofun, nofun⟩

/-- Neither the cursor nor the brackets have a part in it. -/
theorem Tied.congr {s' : Fields} (h : Tied g s) (hstate : s'.state = s.state) (hescape : s'.escape = s.escape)
    (hdivision : s'.division = s.division) (hbody : s'.regexBodyEmpty = s.regexBodyEmpty) : Tied g s' := by
  obtain ⟨h1, h2, h3, h4, h5⟩ := h
  constructor
  · rwa [hstate]
  · rwa [hstate]
  · rwa [hstate, hescape]
  · rwa [hstate, hdivision]
  · rwa [hstate, hescape, hbody]

theorem Tied.division_eq_none (h : Tied g s) (hs : s.state ≠ .code) : s.division = none := by
  cases hd : s.division with
  | none => rfl
  | some q => exact absurd (h.division q hd).2 hs

theorem Tied.division_of_delimiter (h : Tied g s) (hs : s.state.delimiter? = some d) : s.division = none := by
  refine h.division_eq_none fun hc => ?_
  rw [hc] at hs
  cases hs

theorem Tied.body_eq_false (h : Tied g s) (hs : s.state ≠ .regex) : s.regexBodyEmpty = false := by
  cases hb : s.regexBodyEmpty with
  | false => rfl
  | true => exact absurd (h.body hb).1 hs

/-- Only the grammar that escapes code has a backslash pending in it. -/
theorem Tied.escape_eq_false (h : Tied g s) (hs : s.state.delimiter? = none) (hg : g ≠ .templates) :
    s.escape = false := by
  cases he : s.escape with
  | false => rfl
  | true =>
    rcases h.escape he with hd | ⟨-, ht⟩
    · rw [hs] at hd
      cases hd
    · exact absurd ht hg

theorem Tied.templates_of_escape (h : Tied g s) (hs : s.state = .code) (he : s.escape = true) : g = .templates := by
  by_contra hg
  rw [h.escape_eq_false (by rw [hs]; rfl) hg] at he
  cases he

/-- Where a backslash is pending in code, no slash is kept in mind. -/
theorem Tied.division_of_escape (h : Tied g s) (hs : s.state = .code) (he : s.escape = true) : s.division = none := by
  cases hd : s.division with
  | none => rfl
  | some q =>
    have hg := h.templates_of_escape hs he
    rw [(h.division q hd).1] at hg
    cases hg

theorem Tied.of_comment (h : Tied g s) (hs : s.state = .lineComment ∨ s.state = .blockComment) :
    g = .full ∧ s.escape = false ∧ s.division = none ∧ s.regexBodyEmpty = false := by
  have hg : g = .full := h.slashes (by rcases hs with hs | hs <;> simp [hs])
  rcases hs with hs | hs
  · exact ⟨hg, h.escape_eq_false (by rw [hs]; rfl) (by rw [hg]; nofun), h.division_eq_none (by rw [hs]; nofun),
      h.body_eq_false (by rw [hs]; nofun)⟩
  · exact ⟨hg, h.escape_eq_false (by rw [hs]; rfl) (by rw [hg]; nofun), h.division_eq_none (by rw [hs]; nofun),
      h.body_eq_false (by rw [hs]; nofun)⟩

/-- In code with nothing pending, all fits. -/
theorem tied_code (hs : s.state = .code) (he : s.escape = false) (hd : s.division = none)
    (hb : s.regexBodyEmpty = false) : Tied g s := by
  constructor
  · simp [hs]
  · simp [hs]
  · simp [he]
  · simp [hd]
  · simp [hb]

/-- In a comment, too, if the grammar knows any. -/
theorem tied_comment (hs : s.state = .lineComment ∨ s.state = .blockComment) (hg : g = .full) (he : s.escape = false)
    (hd : s.division = none) (hb : s.regexBodyEmpty = false) : Tied g s := by
  constructor
  · intro q hq
    rcases hs with hs | hs <;> rw [hs] at hq <;> cases hq
  · exact fun _ => hg
  · simp [he]
  · simp [hd]
  · simp [hb]

/-- At the start of a literal, the same. -/
theorem tied_literal (hs : s.state.delimiter? = some d) (hq : ∀ q, s.state = .string q → q = '"' ∨ q = '\'')
    (hg : s.state = .regex → g = .full) (he : s.escape = false) (hd : s.division = none)
    (hb : s.regexBodyEmpty = true → s.state = .regex) : Tied g s := by
  refine ⟨hq, fun hmem => ?_, fun ht => ?_, fun q hn => ?_, fun ht => ⟨hb ht, he⟩⟩
  · simp only [List.mem_cons, List.not_mem_nil, or_false] at hmem
    rcases hmem with hst | hst | hst
    · exact hg hst
    · rw [hst] at hs
      cases hs
    · rw [hst] at hs
      cases hs
  · rw [he] at ht
    cases ht
  · rw [hd] at hn
    cases hn

theorem tied_literalChar (h : Tied g s) (hs : s.state.delimiter? = some d) (hb : s.regexBodyEmpty = false)
    (c close : Char) : Tied g (s.literalChar c close) := by
  have hd : s.division = none := h.division_of_delimiter hs
  have hbody : s.regexBodyEmpty = true → False := fun ht => by rw [hb] at ht; cases ht
  unfold literalChar
  split
  · exact ⟨h.quote, h.slashes, nofun, h.division, fun ht => (hbody ht).elim⟩
  split
  · exact ⟨h.quote, h.slashes, fun _ => .inl (by rw [hs]; rfl), h.division, fun ht => (hbody ht).elim⟩
  split
  · rename_i he _ _
    exact tied_code rfl (by simpa using he) hd hb
  · exact h

/-! ## In code -/

/-- What is left of a step: the fields, and the violation that it found. -/
def settle (r : Fields × Option Violation) : Fields := { r.1 with fault := r.2 }

theorem Tied.settle (h : Tied g s) (v : Option Violation) : Tied g (settle (s, v)) := h.congr rfl rfl rfl rfl

/-- In code, with nothing pending but perhaps what the caller has in hand. -/
structure Plain (s : Fields) : Prop where
  state : s.state = .code
  escape : s.escape = false
  division : s.division = none
  body : s.regexBodyEmpty = false

theorem Plain.of_tied (h : Tied g s) (hs : s.state = .code) (he : s.escape = false) :
    Plain { s with division := none } :=
  ⟨hs, he, rfl, h.body_eq_false (by rw [hs]; nofun)⟩

theorem tied_closeBracket (h : Plain s) : Tied g (settle (s.closeBracket c p)) := by
  unfold closeBracket
  split
  · exact tied_code h.state h.escape h.division h.body
  · dsimp only
    split <;> exact tied_code h.state h.escape h.division h.body

theorem tied_plainChar (h : Plain s) (hd : ∀ q, division = some q → g = .full) :
    Tied g (settle (s.plainChar g division c p)) := by
  obtain ⟨hs, he, hn, hb⟩ := h
  have hbody : s.regexBodyEmpty = true → False := fun ht => by rw [hb] at ht; cases ht
  unfold plainChar
  split
  · rename_i hc
    have hg : g = .full := by
      by_contra hg
      rw [Grammar.knowsSlashes_of_ne hg] at hc
      simp at hc
    split
    · exact tied_comment (.inl rfl) hg he hn hb
    split
    · exact tied_literal (d := .slash) rfl nofun (fun _ => hg) rfl hn fun _ => rfl
    · refine ⟨fun q hq => ?_, fun _ => hg, fun ht => ?_, fun q _ => ⟨hg, hs⟩, fun ht => (hbody ht).elim⟩
      · rw [show s.state = .string q from hq] at hs
        cases hs
      · rw [show s.escape = true from ht] at he
        cases he
  split
  · rename_i hc
    refine tied_literal rfl (fun q hq => ?_) nofun rfl hn fun ht => (hbody ht).elim
    cases hq
    simpa using hc
  split
  · exact tied_literal (d := .backtick) rfl nofun nofun rfl hn fun ht => (hbody ht).elim
  split
  · exact tied_code hs he hn hb
  split
  · have hclose : Tied g (settle (s.closeBracket c p)) := tied_closeBracket ⟨hs, he, hn, hb⟩
    split
    · rename_i heq
      rwa [heq] at hclose
    · rename_i heq
      rw [heq] at hclose
      exact hclose.congr rfl rfl rfl rfl
  · split <;> exact tied_code hs he hn hb

theorem codeChar_hidden (h : Tied g s) (hs : s.state = .code) (he : s.escape = true) :
    s.codeChar g c p = ({ s with escape := false }, none) := by
  simp [codeChar, h.templates_of_escape hs he, he, Grammar.escapesCode]

theorem tied_codeChar (h : Tied g s) (hs : s.state = .code) : Tied g (settle (s.codeChar g c p)) := by
  have hb : s.regexBodyEmpty = false := h.body_eq_false (by rw [hs]; nofun)
  cases he : s.escape with
  | true =>
    rw [codeChar_hidden h hs he]
    exact tied_code hs rfl (h.division_of_escape hs he) hb
  | false =>
    unfold codeChar
    rw [if_neg (by simp [he])]
    split
    · rename_i hc
      rw [Bool.and_eq_true] at hc
      refine ⟨h.quote, h.slashes, fun _ => .inr ⟨hs, ?_⟩, h.division, fun ht => ?_⟩
      · cases g with
        | templates => rfl
        | _ => cases hc.1
      · rw [show s.regexBodyEmpty = true from ht] at hb
        cases hb
    · have hplain := Plain.of_tied h hs he
      cases hd : s.division with
      | none => exact tied_plainChar hplain nofun
      | some q =>
        have hg := (h.division q hd).1
        dsimp only
        split
        · exact tied_comment (.inr rfl) hg he rfl hb
        · exact tied_plainChar hplain fun _ _ => hg

/-! ## One character -/

/-- The fields with `c` counted and nothing else done. -/
def moved (s : Fields) (c : Char) : Fields := { s with cursor := s.cursor.advance c }

theorem Tied.moved (h : Tied g s) (c : Char) : Tied g (s.moved c) := h.congr rfl rfl rfl rfl

theorem step_code (hs : s.state = .code) : s.step g c = (s.moved c).codeChar g c s.cursor.next := by
  simp [step, moved, hs]

theorem step_literal (hs : s.state.delimiter? = some d) (hb : s.regexBodyEmpty = false)
    (hq : ∀ q, s.state = .string q → q = '"' ∨ q = '\'') : s.step g c = ((s.moved c).literalChar c d.char, none) := by
  cases hst : s.state with
  | string q =>
    rw [hst] at hs
    rcases hq q hst with rfl | rfl <;> cases hs <;> simp [step, moved, hst, Delimiter.char]
  | template =>
    rw [hst] at hs
    cases hs
    simp [step, moved, hst, Delimiter.char]
  | regex =>
    rw [hst] at hs
    cases hs
    simp [step, moved, hst, hb, Delimiter.char]
  | _ => rw [hst] at hs; cases hs

theorem step_regex (hs : s.state = .regex) (hb : s.regexBodyEmpty = true) : s.step g c =
    if c = '/' then ({ s.moved c with state := .lineComment, regexBodyEmpty := false }, none)
    else if c = '*' then ({ s.moved c with regexBodyEmpty := false }.enterBlockComment, none)
    else ({ s.moved c with regexBodyEmpty := false }.literalChar c '/', none) := by
  simp [step, moved, hs, hb]

theorem step_lineComment (hs : s.state = .lineComment) :
    s.step g c = (if c = '\n' then { s.moved c with state := .code } else s.moved c, none) := by
  simp [step, moved, hs]

theorem step_blockComment (hs : s.state = .blockComment) : s.step g c =
    (if s.commentBefore == some '*' && c = '/' then { s.moved c with state := .code }
      else { s.moved c with commentBefore := some c }, none) := by
  simp [step, moved, hs]

theorem tied_step (h : Tied g s) (c : Char) : Tied g (settle (s.step g c)) := by
  have hm := h.moved c
  have hliteral : ∀ d, s.state.delimiter? = some d → s.regexBodyEmpty = false → Tied g (settle (s.step g c)) := by
    intro d hs hb
    rw [step_literal hs hb h.quote]
    exact (tied_literalChar hm hs hb c d.char).settle none
  cases hs : s.state with
  | code =>
    rw [step_code hs]
    exact tied_codeChar hm hs
  | string q => exact hliteral _ (by rw [hs]; rfl) (h.body_eq_false (by rw [hs]; nofun))
  | template => exact hliteral _ (by rw [hs]; rfl) (h.body_eq_false (by rw [hs]; nofun))
  | regex =>
    cases hb : s.regexBodyEmpty with
    | false => exact hliteral _ (by rw [hs]; rfl) hb
    | true =>
      have hg := h.slashes (by simp [hs])
      have he := (h.body hb).2
      have hd := h.division_eq_none (by rw [hs]; nofun)
      have hdel : (s.moved c).state.delimiter? = some .slash := congrArg ScanState.delimiter? hs
      have hbody : Tied g { s.moved c with regexBodyEmpty := false } :=
        ⟨h.quote, h.slashes, h.escape, h.division, nofun⟩
      rw [step_regex hs hb]
      split
      · exact tied_comment (.inl rfl) hg he hd rfl
      split
      · exact tied_comment (.inr rfl) hg he hd rfl
      · exact (tied_literalChar hbody hdel rfl c '/').settle none
  | lineComment =>
    obtain ⟨-, he, hd, hb⟩ := h.of_comment (.inl hs)
    rw [step_lineComment hs]
    split
    · exact tied_code rfl he hd hb
    · exact hm.settle none
  | blockComment =>
    obtain ⟨hg, he, hd, hb⟩ := h.of_comment (.inr hs)
    rw [step_blockComment hs]
    split
    · exact tied_code rfl he hd hb
    · exact tied_comment (.inr hs) hg he hd hb

/-! ## Texts -/

theorem fault_literalChar {close : Char} : (s.literalChar c close).fault = s.fault := by
  unfold literalChar
  repeat' split
  all_goals rfl

theorem fault_closeBracket : (s.closeBracket c p).1.fault = s.fault := by
  unfold closeBracket
  split
  · rfl
  · dsimp only
    split <;> rfl

theorem fault_plainChar : (s.plainChar g division c p).1.fault = s.fault := by
  unfold plainChar
  split
  · split
    · rfl
    split <;> rfl
  split
  · rfl
  split
  · rfl
  split
  · rfl
  split
  · have hclose : (s.closeBracket c p).1.fault = s.fault := fault_closeBracket
    split
    · rename_i heq
      rwa [heq] at hclose
    · rename_i heq
      rwa [heq] at hclose
  · split <;> rfl

theorem fault_codeChar : (s.codeChar g c p).1.fault = s.fault := by
  unfold codeChar
  split
  · rfl
  split
  · rfl
  dsimp only
  split
  · split
    · rfl
    · exact fault_plainChar
  · exact fault_plainChar

/-- A step leaves it to its caller to keep the violation. -/
theorem fault_step : (s.step g c).1.fault = s.fault := by
  unfold step
  dsimp only
  split
  · split <;> rfl
  · split <;> rfl
  · exact fault_literalChar
  · exact fault_literalChar
  · split
    · split
      · rfl
      split
      · rfl
      · exact fault_literalChar
    · exact fault_literalChar
  · exact fault_codeChar

/-- One character of a text, of whatever chunk. -/
def read (g : Grammar) (s : Fields) (c : Char) : Fields :=
  if s.fault.isSome then s
  else if s.consumed = 0 && c = byteOrderMark then { s with consumed := s.consumed + 1 }
  else settle ({ s with consumed := s.consumed + 1 }.step g c)

theorem read_of_fault {v : Violation} (hf : s.fault = some v) (c : Char) : s.read g c = s := by simp [read, hf]

theorem read_mark (hf : s.fault = none) (hc : s.consumed = 0) :
    s.read g byteOrderMark = { s with consumed := s.consumed + 1 } := by simp [read, hf, hc]

theorem read_eq_step (hf : s.fault = none) (hc : ¬ (s.consumed = 0 ∧ c = byteOrderMark)) :
    s.read g c = settle ({ s with consumed := s.consumed + 1 }.step g c) := by
  unfold read
  rw [if_neg (by simp [hf]), if_neg (by simpa using hc)]

theorem tied_read (h : Tied g s) (c : Char) : Tied g (s.read g c) := by
  have hcount : Tied g { s with consumed := s.consumed + 1 } := h.congr rfl rfl rfl rfl
  unfold read
  split
  · exact h
  split
  · exact hcount
  · exact tied_step hcount c

theorem read_all_of_fault {v : Violation} (hf : s.fault = some v) (t : List Char) : t.foldl (read g) s = s := by
  induction t with
  | nil => rfl
  | cons c t ih => rw [List.foldl_cons, read_of_fault hf, ih]

/-- A chunk is read character by character, and the violation that halts the scan is the answer. -/
theorem feedChars_eq (hf : s.fault = none) (t : List Char) :
    s.feedChars g t = (t.foldl (read g) s, (t.foldl (read g) s).fault) := by
  induction t generalizing s with
  | nil => rw [feedChars, List.foldl_nil, hf]
  | cons c t ih =>
    rw [feedChars, List.foldl_cons]
    by_cases hc : s.consumed = 0 ∧ c = byteOrderMark
    · rw [if_pos (by simpa using hc), hc.2, read_mark hf hc.1]
      exact ih hf
    · have hkept : ({ s with consumed := s.consumed + 1 }.step g c).1.fault = none := fault_step.trans hf
      rw [if_neg (by simpa using hc), read_eq_step hf hc]
      cases hstep : step g { s with consumed := s.consumed + 1 } c with
      | mk s' v =>
        rw [hstep] at hkept
        cases v with
        -- the violation is kept, and the rest of the chunk changes nothing
        | some v => rw [read_all_of_fault (v := v) rfl, settle]
        | none =>
          have hs' : settle (s', none) = s' := by rw [settle, ← hkept]
          rw [hs']
          exact ih hkept

theorem feed_eq (s : Fields) (chunk : List Char) :
    s.feed g chunk = (chunk.foldl (read g) s, (chunk.foldl (read g) s).fault) := by
  cases hf : s.fault with
  | some v => rw [feed, hf, read_all_of_fault hf, hf]
  | none =>
    rw [feed, hf]
    exact feedChars_eq hf chunk

theorem feedAll_eq (s : Fields) (chunks : List (List Char)) : s.feedAll g chunks = chunks.flatten.foldl (read g) s := by
  induction chunks generalizing s with
  | nil => rfl
  | cons chunk chunks ih =>
    rw [List.flatten_cons, List.foldl_append, ← ih, feedAll, List.foldl_cons, feed_eq]
    rfl

end Fields

end BracketBalance
