/-
  BracketBalance.Proofs.Encoding — one document in several encodings.

  A document may open with a byte-order mark, and its lines may end with a carriage
  return and a line feed (`crlf`). The scan and the report see to both, each in its own
  way: the scan skips the mark and finds nothing to do in a carriage return, the report
  drops both before it numbers the lines.

  Proved: in whatever a line feed ends, a carriage return just before it leaves a scan
  where the line feed alone would (`read_return`), so all texts are scanned as they are
  with their lines ended the other way (`feed_crlf`); the lines are the same too, where
  no line had a carriage return at its end already (`lines_crlf`). So a check comes to
  the same outcome (`check_encoded`).
-/

import BracketBalance.Proofs.Composition
import BracketBalance.Proofs.Report

namespace BracketBalance

/-- Every line feed with a carriage return before it. -/
def crlf (t : List Char) : List Char := t.flatMap fun c => if c = '\n' then ['\r', '\n'] else [c]

@[simp] theorem crlf_nil : crlf [] = [] := rfl

theorem crlf_feed (t : List Char) : crlf ('\n' :: t) = '\r' :: '\n' :: crlf t := rfl

theorem crlf_cons {c : Char} (hc : c ≠ '\n') (t : List Char) : crlf (c :: t) = c :: crlf t := by
  simp [crlf, hc]

/-! ## The scan -/

namespace Mode

/-- No literal and no comment sees a carriage return, if a line feed comes next. -/
theorem blank_return (m : Mode) : (m.blank '\r').blank '\n' = m.blank '\n' := by
  cases m with
  | literal d st escaped =>
    cases escaped with
    | true => cases d <;> rfl
    | false => cases d <;> rfl
  | blockComment st star => cases star <;> rfl
  | _ => rfl

end Mode

namespace Scanner

variable {g : Grammar} {s : Scanner} {c : Char}

theorem read_blank (hf : s.fault = none) (hc : isBlank c = true) :
    s.read g c = { s.moved c with mode := s.mode.blank c } := by
  have hmark : ¬ (s.fresh = true ∧ c = byteOrderMark) := by
    rintro ⟨-, rfl⟩
    exact absurd hc (by decide)
  rw [read_eq_take hf hmark, take_blank hc]

/-- A carriage return before a line feed changes nothing: not in code, where it may stand behind a slash or a
    backslash, nor at the start of a regex, nor in any other literal or comment. -/
theorem read_return (g : Grammar) (s : Scanner) : (s.read g '\r').read g '\n' = s.read g '\n' := by
  cases hf : s.fault with
  | some v => rw [read_of_fault hf]
  | none =>
    have h1 : s.read g '\r' = { s.moved '\r' with mode := s.mode.blank '\r' } := read_blank hf (by decide)
    have h2 : s.read g '\n' = { s.moved '\n' with mode := s.mode.blank '\n' } := read_blank hf (by decide)
    have hf' : (s.read g '\r').fault = none := by rw [h1]; exact hf
    rw [read_blank hf' (by decide), h1, h2]
    show { s.moved '\n' with mode := (s.mode.blank '\r').blank '\n' } = _
    rw [Mode.blank_return]

theorem feed_crlf (g : Grammar) (s : Scanner) (t : List Char) : s.feed g (crlf t) = s.feed g t := by
  induction t generalizing s with
  | nil => rfl
  | cons c t ih =>
    by_cases hc : c = '\n'
    · subst hc
      rw [crlf_feed, feed_cons, feed_cons, read_return, feed_cons, ih]
    · rw [crlf_cons hc, feed_cons, feed_cons, ih]

end Scanner

theorem scan_crlf (g : Grammar) (t : List Char) : scan g (crlf t) = scan g t := by
  rw [scan, scan, Scanner.feed_crlf]

theorem scan_mark (g : Grammar) {t : List Char} (ht : t.head? ≠ some byteOrderMark) :
    scan g (byteOrderMark :: t) = scan g t := by
  rw [scan_eq_dropMark, scan_eq_dropMark, dropMark_eq_self ht]
  rfl

/-! ## The report -/

theorem head?_crlf (t : List Char) : (crlf t).head? ≠ some '\n' := by
  cases t with
  | nil => simp
  | cons c t =>
    by_cases hc : c = '\n'
    · subst hc
      simp [crlf_feed]
    · simp [crlf_cons hc, hc]

theorem head?_crlf_mark {t : List Char} (ht : t.head? ≠ some byteOrderMark) :
    (crlf t).head? ≠ some byteOrderMark := by
  cases t with
  | nil => simp
  | cons c t =>
    by_cases hc : c = '\n'
    · subst hc
      simp [crlf_feed, byteOrderMark]
    · simpa [crlf_cons hc] using ht

theorem lines_crlf {t : List Char} (h : ¬ ['\r', '\n'] <:+: t) : lines (crlf t) = lines t := by
  induction t with
  | nil => rfl
  | cons c t ih =>
    have ht : lines (crlf t) = lines t := ih fun hi => h (List.infix_cons hi)
    by_cases hc : c = '\n'
    · subst hc
      rw [crlf_feed, lines_return, lines_feed, ht]
    · have hr : ¬ (c = '\r' ∧ t.head? = some '\n') := by
        rintro ⟨rfl, hn⟩
        obtain ⟨u, rfl⟩ := List.head?_eq_some_iff.mp hn
        exact h ⟨[], u, rfl⟩
      rw [crlf_cons hc, lines_cons hc fun hn => head?_crlf t hn.2, lines_cons hc hr, ht]

/-- A report sees nothing of a text but its lines. -/
theorem render_congr {t u : List Char} (h : lines (dropMark t) = lines (dropMark u)) (style : Report.Style)
    (v : Option Violation) : Report.render style v t = Report.render style v u := by
  simp only [Report.render, Report.reportLines, Report.context, Window.around, h]

/-- Texts with the same scan and the same lines have the same outcome. -/
theorem check_congr {config : Config} {t u : List Char} (hs : scan config.grammar t = scan config.grammar u)
    (hl : lines (dropMark t) = lines (dropMark u)) : (check config t).1 = (check config u).1 := by
  rw [check_eq, check_eq, hs, render_congr hl]

/-- A text comes to the same outcome with either end of its lines, and with and without a mark before it. -/
theorem check_encoded (config : Config) {t : List Char} (ht : t.head? ≠ some byteOrderMark)
    (hr : ¬ ['\r', '\n'] <:+: t) :
    (check config (crlf t)).1 = (check config t).1 ∧
      (check config (byteOrderMark :: t)).1 = (check config t).1 ∧
      (check config (byteOrderMark :: crlf t)).1 = (check config t).1 := by
  have hl : lines (dropMark (crlf t)) = lines (dropMark t) := by
    rw [dropMark_eq_self ht, dropMark_eq_self (head?_crlf_mark ht), lines_crlf hr]
  have hmark : ∀ {u : List Char}, u.head? ≠ some byteOrderMark →
      (check config (byteOrderMark :: u)).1 = (check config u).1 := by
    intro u hu
    refine check_congr (scan_mark config.grammar hu) ?_
    rw [dropMark_eq_self hu]
    rfl
  have hcrlf : (check config (crlf t)).1 = (check config t).1 := check_congr (scan_crlf config.grammar t) hl
  exact ⟨hcrlf, hmark ht, (hmark (head?_crlf_mark ht)).trans hcrlf⟩

/-- A line that ends behind a backslash in a regex, one that ends behind a division slash, and a lone carriage
    return at the end. -/
theorem check_encoded_mismatch :
    (check ⟨.full, some ⟨1, 1⟩, 0⟩ (byteOrderMark :: crlf "f(/a\\\n/)(b /\n]\n\r".toList)).1 =
      (check ⟨.full, some ⟨1, 1⟩, 0⟩ "f(/a\\\n/)(b /\n]\n\r".toList).1 ∧
    scan .full "f(/a\\\n/)(b /\n]\n\r".toList = some (.mismatched '(' ⟨2, 3⟩ ']' ⟨3, 1⟩) := by
  have hr : ¬ ['\r', '\n'] <:+: "f(/a\\\n/)(b /\n]\n\r".toList := by decide
  exact ⟨(check_encoded ⟨.full, some ⟨1, 1⟩, 0⟩ (by decide) hr).2.2, by decide⟩

end BracketBalance
