/-
  BracketBalance.Proofs.Step — what one character does to a scan.

  A halted scan stays as it is. A byte-order mark that opens the text only ends the
  start. Every other character moves the cursor, and then (`Change`, `change_read`)
  it leaves the open brackets alone, or it is a bracket of code: it opens, it closes
  the innermost open bracket, or it halts the scan.

  Proved beside it: how `feed` goes over a text cut in two (`feed_append`), that a
  text is scanned as what follows its mark (`scan_eq_dropMark`), and that a halt is
  for good (`feed_of_fault`).
-/

import BracketBalance.Scanner.Step

namespace BracketBalance

/-! ## Characters -/

def isBracket (c : Char) : Bool := isOpener c || isCloser c

theorem isOpener_iff {c : Char} : isOpener c = true ↔ c = '(' ∨ c = '[' ∨ c = '{' := by
  simp [isOpener, or_assoc]

theorem isCloser_iff {c : Char} : isCloser c = true ↔ c = ')' ∨ c = ']' ∨ c = '}' := by
  simp [isCloser, or_assoc]

theorem isCloser_of_isOpener {c : Char} (h : isOpener c = true) : isCloser c = false := by
  rcases isOpener_iff.mp h with rfl | rfl | rfl <;> rfl

theorem isCloser_closerOf (o : Char) : isCloser (closerOf o) = true := by
  unfold closerOf
  split
  · rfl
  · split <;> rfl

theorem isBracket_of_isOpener {c : Char} (h : isOpener c = true) : isBracket c = true := by
  simp [isBracket, h]

theorem isBracket_of_isCloser {c : Char} (h : isCloser c = true) : isBracket c = true := by
  simp [isBracket, h]

/-- A bracket is no blank and no delimiter, and it is no part of a comment or an escape. -/
theorem ne_of_isBracket {c : Char} (h : isBracket c = true) :
    Delimiter.ofChar? c = none ∧ isBlank c = false ∧ c ≠ '/' ∧ c ≠ '*' ∧ c ≠ '\\' ∧ c ≠ '\n'
      ∧ c ≠ byteOrderMark := by
  simp only [isBracket, Bool.or_eq_true, isOpener_iff, isCloser_iff] at h
  rcases h with (rfl | rfl | rfl) | (rfl | rfl | rfl) <;> decide

namespace Delimiter

/-- The delimiters that open a literal anywhere in code are the three quotes. -/
theorem eq_of_ofChar? {c : Char} {d : Delimiter} (h : ofChar? c = some d) :
    c = d.char ∧ c ∈ ['"', '\'', '\x60'] := by
  unfold ofChar? at h
  split at h
  · rename_i hc
    cases h
    exact ⟨hc, by simp [hc]⟩
  split at h
  · rename_i hc
    cases h
    exact ⟨hc, by simp [hc]⟩
  split at h
  · rename_i hc
    cases h
    exact ⟨hc, by simp [hc]⟩
  · cases h

theorem char_ne_escape (d : Delimiter) : d.char ≠ '\\' := by cases d <;> decide

theorem char_ne_mark (d : Delimiter) : d.char ≠ byteOrderMark := by cases d <;> decide

end Delimiter

namespace Grammar

variable {g : Grammar}

theorem knowsBrackets_of_ne (h : g ≠ .templates) : g.knowsBrackets = true := by
  cases g with
  | templates => exact absurd rfl h
  | _ => rfl

theorem knowsSlashes_of_ne (h : g ≠ .full) : g.knowsSlashes = false := by
  cases g with
  | full => exact absurd rfl h
  | _ => rfl

/-- The grammar that escapes code knows no brackets. -/
theorem escapesCode_of_knowsBrackets (h : g.knowsBrackets = true) : g.escapesCode = false := by
  cases g with
  | templates => cases h
  | _ => rfl

end Grammar

namespace Mode

/-- Where the division slash stands that was just read. -/
def slash? : Mode → Option Position
  | slash q => some q
  | _ => none

theorem inCode_iff {m : Mode} : m.inCode = true ↔ m = .code ∨ m = .hidden ∨ ∃ q, m = .slash q := by
  cases m <;> simp [inCode, unfinished]

end Mode

namespace Scanner

variable {g : Grammar} {s : Scanner} {c : Char}

/-! ## Texts -/

@[simp] theorem feed_nil (g : Grammar) (s : Scanner) : s.feed g [] = s := rfl

@[simp] theorem feed_cons (g : Grammar) (s : Scanner) (c : Char) (t : List Char) :
    s.feed g (c :: t) = (s.read g c).feed g t := rfl

theorem feed_one (g : Grammar) (s : Scanner) (c : Char) : s.feed g [c] = s.read g c := rfl

theorem feed_append (g : Grammar) (s : Scanner) (t u : List Char) : s.feed g (t ++ u) = (s.feed g t).feed g u :=
  List.foldl_append

theorem feed_snoc (g : Grammar) (s : Scanner) (t : List Char) (c : Char) :
    s.feed g (t ++ [c]) = (s.feed g t).read g c := feed_append g s t [c]

/-! ## A halted scan -/

theorem read_of_fault {v : Violation} (h : s.fault = some v) : s.read g c = s := by simp [read, h]

theorem feed_of_fault {v : Violation} (h : s.fault = some v) (t : List Char) : s.feed g t = s := by
  induction t with
  | nil => rfl
  | cons c t ih => rw [feed_cons, read_of_fault h, ih]

theorem verdict_of_fault {v : Violation} (h : s.fault = some v) : s.verdict g = some v := by simp [verdict, h]

/-- What has not halted at the end has not halted before. -/
theorem fault_of_feed {t : List Char} (h : (s.feed g t).fault = none) : s.fault = none := by
  cases hf : s.fault with
  | none => rfl
  | some v => rw [feed_of_fault hf, hf] at h; exact h

theorem fault_before {p t : List Char} (hp : p <+: t) (h : (s.feed g t).fault = none) :
    (s.feed g p).fault = none := by
  obtain ⟨q, rfl⟩ := hp
  rw [feed_append] at h
  exact fault_of_feed h

/-- A text that halts a scan has a character that does, and the rest of it does nothing. -/
theorem exists_halt {t : List Char} {v : Violation} (hf : s.fault = none) (h : (s.feed g t).fault = some v) :
    ∃ p c q, t = p ++ c :: q ∧ (s.feed g p).fault = none ∧ ((s.feed g p).read g c).fault = some v
      ∧ s.feed g t = (s.feed g p).read g c := by
  induction t generalizing s with
  | nil => rw [feed_nil, hf] at h; cases h
  | cons c t ih =>
    cases hc : (s.read g c).fault with
    | some w =>
      have hw : s.feed g (c :: t) = s.read g c := feed_of_fault hc t
      rw [hw, hc] at h
      cases h
      exact ⟨[], c, t, rfl, hf, hc, hw⟩
    | none =>
      obtain ⟨p, d, q, rfl, hp⟩ := ih hc h
      exact ⟨c :: p, d, q, rfl, hp⟩

/-! ## A character that is no mark -/

theorem mode_of_slash? {m : Mode} {q : Position} (h : m.slash? = some q) : m = .slash q := by
  cases m <;> cases h
  rfl

/-- The scan with `c` counted and nothing else done. -/
def moved (s : Scanner) (c : Char) : Scanner := { s with cursor := s.cursor.advance c, fresh := false }

/-- Whether the next character is read as code, and not hidden by a backslash. -/
def atCode (s : Scanner) : Prop := s.mode.inCode = true ∧ s.mode ≠ .hidden

theorem take_atCode (h : s.atCode) : s.take g c = (s.moved c).code g s.mode.slash? s.cursor.next c := by
  obtain ⟨h, hh⟩ := h
  rcases Mode.inCode_iff.mp h with h | h | ⟨q, h⟩
  · simp [take, moved, h, Mode.slash?]
  · exact absurd h hh
  · simp [take, moved, h, Mode.slash?]

theorem take_code (h : s.mode = .code) : s.take g c = (s.moved c).code g none s.cursor.next c := by
  have hat : s.atCode := by rw [atCode, h]; exact ⟨rfl, nofun⟩
  rw [take_atCode hat, h]
  rfl

theorem take_slash {q : Position} (h : s.mode = .slash q) :
    s.take g c = (s.moved c).code g (some q) s.cursor.next c := by
  have hat : s.atCode := by rw [atCode, h]; exact ⟨rfl, nofun⟩
  rw [take_atCode hat, h]
  rfl

theorem take_hidden (h : s.mode = .hidden) : s.take g c = { s.moved c with mode := .code } := by
  simp [take, moved, h]

theorem take_inside (h : s.mode.inCode = false) : s.take g c = { s.moved c with mode := s.mode.inside c } := by
  cases hm : s.mode with
  | code => simp [hm, Mode.inCode, Mode.unfinished] at h
  | hidden => simp [hm, Mode.inCode, Mode.unfinished] at h
  | slash q => simp [hm, Mode.inCode, Mode.unfinished] at h
  | _ => simp [take, moved, hm]

/-! ## One character of code -/

variable {slash : Option Position} {p : Position}

theorem plain_quote {d : Delimiter} (h : Delimiter.ofChar? c = some d) :
    s.plain g p c = { s with mode := .literal d p false } := by simp [plain, h]

theorem plain_opener (hg : g.knowsBrackets = true) (h : isOpener c = true) :
    s.plain g p c = { s with mode := .code, stack := ⟨c, p⟩ :: s.stack, before := some c } := by
  simp [plain, hg, h, (ne_of_isBracket (isBracket_of_isOpener h)).1]

theorem plain_closer (hg : g.knowsBrackets = true) (h : isCloser c = true) : s.plain g p c = s.close p c := by
  have ho : isOpener c = false := by
    cases ho : isOpener c with
    | false => rfl
    | true => rw [isCloser_of_isOpener ho] at h; cases h
  simp [plain, hg, h, ho, (ne_of_isBracket (isBracket_of_isCloser h)).1]

theorem plain_other (hd : Delimiter.ofChar? c = none) (h : ¬ (g.knowsBrackets = true ∧ isBracket c = true)) :
    s.plain g p c = { s with mode := .code, before := if isBlank c then s.before else some c } := by
  by_cases hg : g.knowsBrackets = true
  · have hb : isBracket c = false := by simpa [hg] using h
    simp only [isBracket, Bool.or_eq_false_iff] at hb
    simp [plain, hd, hb]
  · simp [plain, hd, hg]

theorem code_bracket (h : isBracket c = true) : s.code g slash p c = s.plain g p c := by
  obtain ⟨-, -, hs, hst, hb, -⟩ := ne_of_isBracket h
  cases slash <;> simp [code, hs, hst, hb]

theorem code_hides (h : g.escapesCode = true ∧ c = '\\') : s.code g slash p c = { s with mode := .hidden } := by
  simp [code, h]

theorem code_lineComment (h : g.knowsSlashes = true) (q : Position) :
    s.code g (some q) p '/' = { s with mode := .lineComment q } := by simp [code, h]

theorem code_slash (h : g.knowsSlashes = true) : s.code g none p '/' =
    if s.opensRegex then { s with mode := .regexOpen p } else { s with mode := .slash p, before := some '/' } := by
  simp [code, h]

theorem code_blockComment (q : Position) : s.code g (some q) p '*' = { s with mode := .blockComment q false } := by
  simp [code]

theorem code_plain (hh : ¬ (g.escapesCode = true ∧ c = '\\')) (hs : ¬ (g.knowsSlashes = true ∧ c = '/'))
    (hb : ¬ (slash.isSome = true ∧ c = '*')) : s.code g slash p c = s.plain g p c := by
  unfold code
  rw [if_neg (by simpa using hh), if_neg (by simpa [and_comm] using hs)]
  cases slash with
  | none => rfl
  | some q => exact if_neg (by simpa using hb)

/-- What a character of code that is no bracket does, `slash` being where a division slash
    stands just before it. -/
inductive Lexed (g : Grammar) (s : Scanner) (slash : Option Position) (p : Position) (c : Char) (s' : Scanner) : Prop
  | hides : g.escapesCode = true → c = '\\' → s' = { s with mode := .hidden } → Lexed g s slash p c s'
  | lineComment (q : Position) : g.knowsSlashes = true → c = '/' → slash = some q →
      s' = { s with mode := .lineComment q } → Lexed g s slash p c s'
  | blockComment (q : Position) : c = '*' → slash = some q → s' = { s with mode := .blockComment q false } →
      Lexed g s slash p c s'
  | regex : g.knowsSlashes = true → c = '/' → slash = none → s.opensRegex = true →
      s' = { s with mode := .regexOpen p } → Lexed g s slash p c s'
  | division : g.knowsSlashes = true → c = '/' → slash = none → s.opensRegex = false →
      s' = { s with mode := .slash p, before := some '/' } → Lexed g s slash p c s'
  | quote (d : Delimiter) : Delimiter.ofChar? c = some d → s' = { s with mode := .literal d p false } →
      Lexed g s slash p c s'
  | other : Delimiter.ofChar? c = none → ¬ (g.escapesCode = true ∧ c = '\\') → ¬ (g.knowsSlashes = true ∧ c = '/') →
      ¬ (slash.isSome = true ∧ c = '*') →
      s' = { s with mode := .code, before := if isBlank c then s.before else some c } → Lexed g s slash p c s'

theorem lexed_code (h : ¬ (g.knowsBrackets = true ∧ isBracket c = true)) :
    Lexed g s slash p c (s.code g slash p c) := by
  by_cases hh : g.escapesCode = true ∧ c = '\\'
  · exact .hides hh.1 hh.2 (code_hides hh)
  by_cases hs : g.knowsSlashes = true ∧ c = '/'
  · obtain ⟨hk, rfl⟩ := hs
    cases slash with
    | some q => exact .lineComment q hk rfl rfl (code_lineComment hk q)
    | none =>
      cases ho : s.opensRegex with
      | true => exact .regex hk rfl rfl ho (by simp [code_slash hk, ho])
      | false => exact .division hk rfl rfl ho (by simp [code_slash hk, ho])
  by_cases hb : slash.isSome = true ∧ c = '*'
  · obtain ⟨hq, rfl⟩ := hb
    obtain ⟨q, rfl⟩ := Option.isSome_iff_exists.mp hq
    exact .blockComment q rfl rfl (code_blockComment q)
  rw [code_plain hh hs hb]
  cases hd : Delimiter.ofChar? c with
  | some d => exact .quote d hd (plain_quote hd)
  | none => exact .other hd hh hs hb (plain_other hd h)

theorem Lexed.frame {s' : Scanner} (h : Lexed g s slash p c s') :
    s'.stack = s.stack ∧ s'.fault = s.fault ∧ s'.cursor = s.cursor ∧ s'.fresh = s.fresh := by
  cases h with
  | hides _ _ e => simp [e]
  | lineComment _ _ _ _ e => simp [e]
  | blockComment _ _ _ e => simp [e]
  | regex _ _ _ _ e => simp [e]
  | division _ _ _ _ e => simp [e]
  | quote _ _ e => simp [e]
  | other _ _ _ _ e => simp [e]

/-! ## One character -/

def counts (g : Grammar) (s : Scanner) (c : Char) : Prop :=
  g.knowsBrackets = true ∧ s.atCode ∧ isBracket c = true

/-- What a character does that does not count as a bracket. -/
inductive Quiet (g : Grammar) (s : Scanner) (c : Char) (s' : Scanner) : Prop
  | mark : s.fresh = true → c = byteOrderMark → s' = { s with fresh := false } → Quiet g s c s'
  | inside : s.mode.inCode = false → s' = { s.moved c with mode := s.mode.inside c } → Quiet g s c s'
  | hidden : s.mode = .hidden → s' = { s.moved c with mode := .code } → Quiet g s c s'
  | lexed : s.atCode → Lexed g (s.moved c) s.mode.slash? s.cursor.next c s' → Quiet g s c s'

inductive Change (g : Grammar) (s : Scanner) (c : Char) (s' : Scanner) : Prop
  | quiet : ¬ s.counts g c → Quiet g s c s' → Change g s c s'
  | opens : s.counts g c → isOpener c = true →
      s' = ⟨.code, some c, ⟨c, s.cursor.next⟩ :: s.stack, s.cursor.advance c, false, none⟩ → Change g s c s'
  | closes (f : Frame) (rest : List Frame) : s.counts g c → isCloser c = true →
      s.stack = f :: rest → closerOf f.opener = c →
      s' = ⟨.code, some c, rest, s.cursor.advance c, false, none⟩ → Change g s c s'
  | unmatched : s.counts g c → isCloser c = true → s.stack = [] →
      s' = ⟨.code, s.before, [], s.cursor.advance c, false, some (.unmatchedCloser c s.cursor.next)⟩ →
      Change g s c s'
  | mismatched (f : Frame) (rest : List Frame) : s.counts g c → isCloser c = true →
      s.stack = f :: rest → closerOf f.opener ≠ c →
      s' = ⟨.code, s.before, rest, s.cursor.advance c, false,
        some (.mismatched f.opener f.position c s.cursor.next)⟩ → Change g s c s'

theorem Quiet.frame {s' : Scanner} (h : Quiet g s c s') :
    s'.stack = s.stack ∧ s'.fault = s.fault ∧ s'.fresh = false := by
  cases h with
  | mark _ _ e => simp [e]
  | inside _ e => simp [e, moved]
  | hidden _ e => simp [e, moved]
  | lexed _ hl =>
    obtain ⟨hstack, hfault, -, hfresh⟩ := hl.frame
    exact ⟨hstack, hfault, hfresh⟩

/-- A mark has no place in the text, and every other character one. -/
theorem Quiet.cursor {s' : Scanner} (h : Quiet g s c s') :
    (s.fresh = true ∧ c = byteOrderMark ∧ s'.cursor = s.cursor) ∨ s'.cursor = s.cursor.advance c := by
  cases h with
  | mark hs hc e => exact .inl ⟨hs, hc, by simp [e]⟩
  | inside _ e => exact .inr (by simp [e, moved])
  | hidden _ e => exact .inr (by simp [e, moved])
  | lexed _ hl => exact .inr hl.frame.2.2.1

theorem quiet_take (h : ¬ s.counts g c) : Quiet g s c (s.take g c) := by
  cases hm : s.mode.inCode with
  | false => exact .inside hm (take_inside hm)
  | true =>
    by_cases hh : s.mode = .hidden
    · exact .hidden hh (take_hidden hh)
    · refine .lexed ⟨hm, hh⟩ ?_
      rw [take_atCode ⟨hm, hh⟩]
      exact lexed_code fun hb => h ⟨hb.1, ⟨hm, hh⟩, hb.2⟩

theorem change_take (hf : s.fault = none) : Change g s c (s.take g c) := by
  by_cases hr : s.counts g c
  · obtain ⟨hg, ha, hb⟩ := id hr
    have ht : s.take g c = (s.moved c).plain g s.cursor.next c := by rw [take_atCode ha, code_bracket hb]
    cases ho : isOpener c with
    | true =>
      refine .opens hr ho ?_
      rw [ht, plain_opener hg ho]
      simp [moved, hf]
    | false =>
      have hc : isCloser c = true := by simpa [isBracket, ho] using hb
      rw [plain_closer hg hc] at ht
      cases hs : s.stack with
      | nil =>
        refine .unmatched hr hc hs ?_
        rw [ht]
        simp [close, moved, hs]
      | cons f rest =>
        by_cases hm : closerOf f.opener = c
        · refine .closes f rest hr hc hs hm ?_
          rw [ht]
          simp [close, moved, hs, hm, hf]
        · refine .mismatched f rest hr hc hs hm ?_
          rw [ht]
          simp [close, moved, hs, hm]
  · exact .quiet hr (quiet_take hr)

theorem read_mark (hf : s.fault = none) (hs : s.fresh = true) :
    s.read g byteOrderMark = { s with fresh := false } := by simp [read, hf, hs]

theorem read_eq_take (hf : s.fault = none) (hs : ¬ (s.fresh = true ∧ c = byteOrderMark)) :
    s.read g c = s.take g c := by
  unfold read
  rw [if_neg (by simp [hf]), if_neg (by simpa using hs)]

theorem change_read (hf : s.fault = none) : Change g s c (s.read g c) := by
  by_cases hs : s.fresh = true ∧ c = byteOrderMark
  · obtain ⟨hs, rfl⟩ := hs
    exact .quiet (fun h => absurd h.2.2 (by decide)) (.mark hs rfl (read_mark hf hs))
  · rw [read_eq_take hf hs]
    exact change_take hf

theorem fresh_read (hf : s.fault = none) : (s.read g c).fresh = false := by
  cases change_read (g := g) (c := c) hf with
  | quiet _ h => exact h.frame.2.2
  | opens _ _ h => rw [h]
  | closes _ _ _ _ _ _ h => rw [h]
  | unmatched _ _ _ h => rw [h]
  | mismatched _ _ _ _ _ _ h => rw [h]

/-! ## The end of a text -/

theorem innermost_eq_none_iff : s.innermost = none ↔ s.stack = [] := by simp [innermost]

theorem verdict_of_inCode (hf : s.fault = none) (hm : s.mode.inCode = true) : s.verdict g = s.innermost := by
  have hu : s.mode.unfinished = none := by simpa [Mode.inCode] using hm
  simp [verdict, hf, hu]

/-- Nothing is open where nothing is wrong at the end. -/
theorem of_verdict_eq_none (h : s.verdict g = none) : s.fault = none ∧ s.stack = [] := by
  unfold verdict at h
  split at h
  · cases h
  · refine ⟨‹_›, innermost_eq_none_iff.mp ?_⟩
    split at h
    · split at h
      · exact h
      · cases h
    · cases h
    · exact h

theorem inCode_of_verdict_eq_none (hg : g ≠ .templates) (h : s.verdict g = none) : s.mode.inCode = true := by
  have hf := (of_verdict_eq_none h).1
  cases hu : s.mode.unfinished with
  | none => simp [Mode.inCode, hu]
  | some u =>
    obtain ⟨kind, start⟩ := u
    cases kind <;> simp [verdict, hf, hu, hg] at h

/-! ## The opening mark -/

/-- The scan of a text that has begun, with nothing read but perhaps its mark. -/
def opened : Scanner := { start with fresh := false }

theorem read_opened {t : List Char} (h : c ≠ byteOrderMark) :
    (start.feed g (c :: t)) = opened.feed g (c :: t) := by
  rw [feed_cons, feed_cons, read_eq_take rfl (fun hs => h hs.2), read_eq_take rfl (fun hs => h hs.2)]
  rfl

end Scanner

/-- A text is scanned as what follows its mark. -/
theorem scan_eq_dropMark (g : Grammar) (t : List Char) :
    scan g t = (Scanner.opened.feed g (dropMark t)).verdict g := by
  cases t with
  | nil => rfl
  | cons c t =>
    by_cases h : c = byteOrderMark
    · subst h
      simp only [scan, dropMark, if_true, Scanner.feed_cons, Scanner.read_mark (s := .start) rfl rfl, Scanner.opened]
    · rw [scan, Scanner.read_opened h, dropMark, if_neg h]

end BracketBalance
