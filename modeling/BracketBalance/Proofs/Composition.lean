/-
  BracketBalance.Proofs.Composition — texts one after another, and texts in brackets.

  A text that balances leaves little behind. After it, a semicolon and a line feed bring
  a scan back to its start in all that the rest depends on: it is in code, nothing is
  open, and a slash would open a regex. Only the lines count on. So what follows is
  scanned as if it stood alone, with its places as many lines further down.

  In brackets, a text is scanned above a frame that is not its own. Such frames make no
  difference to a scan that does not halt without them (`feed_under`), and an opener
  before a slash lets it open a regex as well.

  Proved: both (`scan_compose`), for the grammars that know brackets.
-/

import BracketBalance.Proofs.Insertion
import BracketBalance.Proofs.Viability

namespace BracketBalance

/-! ## Places further down -/

/-- The same column, `n` lines further down. -/
def Position.down (n : Nat) (p : Position) : Position := ⟨p.line + n, p.column⟩

def Violation.map (f : Position → Position) : Violation → Violation
  | .unmatchedCloser c p => .unmatchedCloser c (f p)
  | .mismatched o p c q => .mismatched o (f p) c (f q)
  | .unterminatedLiteral kind p => .unterminatedLiteral kind (f p)
  | .unterminatedBracket o p => .unterminatedBracket o (f p)

theorem Violation.Like.eq_map {f : Position → Position} {v v' : Violation}
    (h : Violation.Like (fun p q => q = f p) v v') : v' = v.map f := by
  cases h with
  | unmatchedCloser c h => rw [h]; rfl
  | mismatched o c h k => rw [h, k]; rfl
  | unterminatedLiteral kind h => rw [h]; rfl
  | unterminatedBracket o h => rw [h]; rfl

theorem eq_map_of_like {f : Position → Position} {v v' : Option Violation}
    (h : Option.Rel (Violation.Like fun p q => q = f p) v v') : v' = v.map (Violation.map f) := by
  cases h with
  | some h => rw [h.eq_map]; rfl
  | none => rfl

namespace Cursor

theorem next_foldl_down (n : Nat) (t : List Char) :
    (t.foldl advance ⟨1 + n, 0⟩).next = (t.foldl advance start).next.down n := by
  have h1 := one_le_line_after t
  rw [foldl_advance, foldl_advance]
  unfold beyond
  split
  · simp [next, Position.down, start]
  · simp [next, Position.down, start]
    omega

end Cursor

namespace Scanner

variable {g : Grammar} {s : Scanner} {c : Char} {p : Position} {t : List Char} {outer : List Frame}

/-! ## After a text that balances -/

/-- What a text leaves that balances: a scan in code with nothing open. -/
theorem of_balanced (hg : g ≠ .templates) (h : (opened.feed g t).verdict g = none) :
    (opened.feed g t).Going ∧ (opened.feed g t).atCode ∧ (opened.feed g t).stack = [] := by
  obtain ⟨hf, hs⟩ := of_verdict_eq_none h
  have he : g.escapesCode = false := Grammar.escapesCode_of_knowsBrackets (Grammar.knowsBrackets_of_ne hg)
  have hm : (opened.feed g t).mode.inCode = true := inCode_of_verdict_eq_none hg h
  exact ⟨Going.opened.feed hf, (sound_feed (sound_opened g) t).atCode he hm, hs⟩

/-- A semicolon ends whatever stood before it, be it a division slash, and a line feed ends its line. -/
theorem feed_semicolon (h : s.Going) (ha : s.atCode) :
    s.feed g [';', '\n'] = { s with mode := .code, before := some ';', cursor := ⟨s.cursor.line + 1, 0⟩ } := by
  have h1 : s.feed g [';'] = { s with mode := .code, before := some ';', cursor := s.cursor.advance ';' } := by
    rw [feed_one, read_going h, take_atCode ha, code_plain (by simp) (by simp) (by simp),
      plain_other rfl (fun hb => absurd hb.2 (by decide)), moved_eq h]
    rfl
  have hgo : (s.feed g [';']).Going := by rw [h1]; exact h
  have hm : (s.feed g [';']).mode = .code := by rw [h1]
  have h2 : (s.feed g [';']).feed g ['\n'] = (s.feed g [';']).past ['\n'] .code := feed_blank hgo hm (by decide)
  show s.feed g ([';'] ++ ['\n']) = _
  rw [feed_append, h2, h1]
  rfl

theorem agree_semicolon (h : s.Going) (ha : s.atCode) (hs : s.stack = []) (t : List Char) :
    Agree (fun p q => q = p.down s.cursor.line) g g (opened.feed g t) (s.feed g ([';', '\n'] ++ t)) := by
  have h0 : Agree (fun p q => q = p.down s.cursor.line) g g opened (s.feed g [';', '\n']) := by
    rw [feed_semicolon h ha]
    refine agree_in_code rfl rfl (fun _ _ => rfl) ?_ ?_ ⟨rfl, h.2⟩
    · show List.Forall₂ _ [] s.stack
      rw [hs]
      exact .nil
    · show Option.Rel _ none s.fault
      rw [h.1]
      exact .none
  have hrun := agree_feed h0 id (t := t) (fun c _ => Alike.refl g c) fun a c b _ => by
    rw [feed_semicolon h ha]
    show (a.foldl Cursor.advance ⟨s.cursor.line + 1, 0⟩).next = (a.foldl Cursor.advance Cursor.start).next.down _
    rw [Nat.add_comm, Cursor.next_foldl_down]
  rw [List.map_id] at hrun
  rw [feed_append]
  exact hrun

/-! ## Frames further out -/

/-- The scan with more brackets open, further out than its own. -/
def under (s : Scanner) (outer : List Frame) : Scanner := { s with stack := s.stack ++ outer }

theorem close_under (h : (s.close p c).fault = none) : (s.under outer).close p c = (s.close p c).under outer := by
  unfold close at *
  cases hs : s.stack with
  | nil => simp [hs] at h
  | cons f rest =>
    by_cases hc : closerOf f.opener = c
    · simp [under, hs, hc]
    · simp [hs, hc] at h

theorem plain_under (h : (s.plain g p c).fault = none) : (s.under outer).plain g p c = (s.plain g p c).under outer := by
  cases hd : Delimiter.ofChar? c with
  | some d => rw [plain_quote hd, plain_quote hd]; rfl
  | none =>
    by_cases hb : g.knowsBrackets = true ∧ isBracket c = true
    · cases ho : isOpener c with
      | true => rw [plain_opener hb.1 ho, plain_opener hb.1 ho]; rfl
      | false =>
        have hc : isCloser c = true := by simpa [isBracket, ho] using hb.2
        rw [plain_closer hb.1 hc] at h
        rw [plain_closer hb.1 hc, plain_closer hb.1 hc]
        exact close_under h
    · rw [plain_other hd hb, plain_other hd hb]; rfl

theorem code_under {slash : Option Position} (h : (s.code g slash p c).fault = none) :
    (s.under outer).code g slash p c = (s.code g slash p c).under outer := by
  by_cases he : g.escapesCode = true ∧ c = '\\'
  · rw [code_hides he, code_hides he]; rfl
  by_cases hs : g.knowsSlashes = true ∧ c = '/'
  · obtain ⟨hk, rfl⟩ := hs
    cases slash with
    | some q => rw [code_lineComment hk, code_lineComment hk]; rfl
    | none =>
      have ho : (s.under outer).opensRegex = s.opensRegex := rfl
      rw [code_slash hk, code_slash hk, ho]
      split <;> rfl
  by_cases hb : slash.isSome = true ∧ c = '*'
  · obtain ⟨hsome, rfl⟩ := hb
    obtain ⟨q, rfl⟩ := Option.isSome_iff_exists.mp hsome
    rw [code_blockComment, code_blockComment]; rfl
  rw [code_plain he hs hb] at h
  rw [code_plain he hs hb, code_plain he hs hb]
  exact plain_under h

theorem take_under (h : (s.take g c).fault = none) : (s.under outer).take g c = (s.take g c).under outer := by
  cases hm : s.mode.inCode with
  | false => rw [take_inside hm, take_inside (s := s.under outer) hm]; rfl
  | true =>
    by_cases hh : s.mode = .hidden
    · rw [take_hidden hh, take_hidden (s := s.under outer) hh]; rfl
    · rw [take_atCode ⟨hm, hh⟩] at h
      rw [take_atCode ⟨hm, hh⟩, take_atCode (s := s.under outer) ⟨hm, hh⟩]
      exact code_under h

theorem read_under (hs : s.Going) (h : (s.read g c).fault = none) :
    (s.under outer).read g c = (s.read g c).under outer := by
  rw [read_going hs] at h
  rw [read_going hs, read_going (s := s.under outer) hs]
  exact take_under h

/-- A scan that does not halt never looks at the frames further out. -/
theorem feed_under (hs : s.Going) (h : (s.feed g t).fault = none) :
    (s.under outer).feed g t = (s.feed g t).under outer := by
  induction t generalizing s with
  | nil => rfl
  | cons c t ih =>
    have hc : (s.read g c).fault = none := fault_of_feed h
    rw [feed_cons, feed_cons, read_under hs hc]
    exact ih ⟨hc, fresh_read hs.1⟩ h

/-- The scan behind an opener at the start of a text, but for the frame of that opener. -/
def bracketed (o : Char) : Scanner := { opened with before := some o, cursor := Cursor.start.advance o }

theorem read_opener (hg : g.knowsBrackets = true) {o : Char} (ho : isOpener o = true) :
    opened.read g o = (bracketed o).under [⟨o, Cursor.start.next⟩] := by
  rw [read_code Going.opened rfl, code_bracket (isBracket_of_isOpener ho), plain_opener hg ho]
  rfl

/-- Behind an opener a text is scanned as it is at the start, wherever it stands. -/
theorem agree_bracketed {o : Char} (ho : isOpener o = true) (t : List Char) :
    Agree (fun _ _ => True) g g (opened.feed g t) ((bracketed o).feed g t) := by
  have hb : (bracketed o).opensRegex = true := by
    rcases isOpener_iff.mp ho with rfl | rfl | rfl <;> rfl
  have h0 : Agree (fun _ _ => True) g g opened (bracketed o) :=
    agree_in_code rfl rfl (fun _ _ => hb.symm) .nil .none ⟨rfl, rfl⟩
  have hrun := agree_feed h0 id (t := t) (fun c _ => Alike.refl g c) fun _ _ _ _ => trivial
  rw [List.map_id] at hrun
  exact hrun

theorem feed_opener (hg : g ≠ .templates) {o : Char} (ho : isOpener o = true)
    (h : (opened.feed g t).verdict g = none) :
    ((opened.read g o).feed g t).fault = none ∧ ((opened.read g o).feed g t).mode.inCode = true ∧
      ((opened.read g o).feed g t).stack = [⟨o, Cursor.start.next⟩] := by
  obtain ⟨hgo, ha, hs⟩ := of_balanced hg h
  have hagree := agree_bracketed (g := g) ho t
  have hf : ((bracketed o).feed g t).fault = none := hagree.goes.mp hgo.1
  have hstack : ((bracketed o).feed g t).stack = [] := by
    have hf2 := hagree.stack
    rw [hs] at hf2
    exact List.forall₂_nil_left_iff.mp hf2
  rw [read_opener (Grammar.knowsBrackets_of_ne hg) ho, feed_under ⟨rfl, rfl⟩ hf]
  refine ⟨hf, ?_, ?_⟩
  · show ((bracketed o).feed g t).mode.inCode = true
    rw [← hagree.mode.inCode]
    exact ha.1
  · show ((bracketed o).feed g t).stack ++ _ = _
    rw [hstack]
    rfl

end Scanner

open Scanner

/-- A text behind one that balances, with a semicolon and a line feed between them, is found to have what it has
    alone, as many lines further down as there are before it. In a pair of brackets, a text that balances does so. -/
theorem scan_compose {g : Grammar} (hg : g ≠ .templates) {b : List Char} (hb : b.head? ≠ some byteOrderMark) :
    (∀ a, scan g a = none →
      scan g (a ++ [';', '\n'] ++ b) = (scan g b).map (Violation.map (Position.down (1 + a.count '\n')))) ∧
    (scan g b = none → ∀ o, isOpener o = true → scan g ([o] ++ b ++ [closerOf o]) = none) := by
  have hdrop : scan g b = (opened.feed g b).verdict g := by rw [scan_eq_dropMark, dropMark_eq_self hb]
  constructor
  · intro a ha
    rw [scan_eq_dropMark] at ha
    obtain ⟨hgo, hat, hs⟩ := of_balanced hg ha
    have hline : (opened.feed g (dropMark a)).cursor.line = 1 + a.count '\n' := by
      rw [cursor_feed rfl hgo.1, ← count_dropMark]
      exact Cursor.line_after_eq (dropMark a)
    have hagree := (agree_semicolon (g := g) hgo hat hs b).verdict Iff.rfl
    rw [hline] at hagree
    have htext : dropMark (a ++ [';', '\n'] ++ b) = dropMark a ++ ([';', '\n'] ++ b) := by
      rw [List.append_assoc]
      exact dropMark_append_cons (by decide) a ('\n' :: b)
    rw [scan_eq_dropMark, htext, feed_append, hdrop]
    exact eq_map_of_like hagree
  · intro h o ho
    rw [hdrop] at h
    obtain ⟨hf, hm, hs⟩ := feed_opener hg ho h
    have hsound : Sound g ((opened.read g o).feed g b) := sound_feed (sound_read (sound_opened g) o) b
    obtain ⟨hm', hs', hf'⟩ := read_closer hsound hf hm hs
    have hmark : o ≠ byteOrderMark := (ne_of_isBracket (isBracket_of_isOpener ho)).2.2.2.2.2.2
    have htext : dropMark ([o] ++ b ++ [closerOf o]) = o :: (b ++ [closerOf o]) := if_neg hmark
    rw [scan_eq_dropMark, htext, feed_cons, feed_snoc, verdict_of_inCode hf' (by rw [hm']; rfl)]
    exact innermost_eq_none_iff.mpr hs'

/-- A regex just behind a division slash, which the semicolon and the line feed keep apart, and one in brackets. -/
theorem scan_compose_regex :
    scan .full "f(\n) /;\n/[)]/.g(\n x]".toList = some (.mismatched '(' ⟨3, 8⟩ ']' ⟨4, 3⟩) ∧
      scan .full "[/[)]/.g(x)]".toList = none := by
  have h1 : scan .full "/[)]/.g(\n x]".toList = some (.mismatched '(' ⟨1, 8⟩ ']' ⟨2, 3⟩) := by decide
  constructor
  · have hb : "/[)]/.g(\n x]".toList.head? ≠ some byteOrderMark := by decide
    have h := (scan_compose (g := .full) (by decide) hb).1 "f(\n) /".toList (by decide)
    rw [h1] at h
    exact h
  · exact (scan_compose (g := .full) (by decide) (b := "/[)]/.g(x)".toList) (by decide)).2 (by decide) '[' rfl

end BracketBalance
