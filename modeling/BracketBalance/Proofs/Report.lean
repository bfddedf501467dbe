/-
  BracketBalance.Proofs.Report — what a report shows of a violation.

  A window is a stretch of the numbered lines of a text (`around_eq`), so it has a line
  of the text once if the line is not too far away, and no other line with its number
  (`filter_around`). A check reports what a scan finds (`check_eq`).

  Proved (`report_shows`): the window around a violation has the line it points at,
  with what it is about in its column, and the report has that window between its
  markers.
-/

import BracketBalance.Check
import BracketBalance.Proofs.Places
import BracketBalance.Proofs.Session

namespace BracketBalance

/-! ## Numbered lines -/

/-- The lines of a list with their numbers, the first of which is `i`. -/
def numbered (i : Nat) (ls : List (List Char)) : List (Nat × List Char) := (ls.zipIdx i).map Prod.swap

@[simp] theorem numbered_nil (i : Nat) : numbered i [] = [] := rfl

@[simp] theorem numbered_cons (i : Nat) (l : List Char) (ls : List (List Char)) :
    numbered i (l :: ls) = (i, l) :: numbered (i + 1) ls := by simp [numbered]

theorem drop_numbered (i n : Nat) (ls : List (List Char)) : (numbered i ls).drop n = numbered (i + n) (ls.drop n) := by
  induction ls generalizing i n with
  | nil => simp
  | cons l ls ih =>
    cases n with
    | zero => rfl
    | succ n => rw [numbered_cons, List.drop_succ_cons, List.drop_succ_cons, ih, Nat.add_right_comm, Nat.add_assoc]

theorem takeWhile_numbered (i j : Nat) (ls : List (List Char)) :
    (numbered i ls).takeWhile (·.1 ≤ j) = numbered i (ls.take (j + 1 - i)) := by
  induction ls generalizing i with
  | nil => simp
  | cons l ls ih =>
    rw [numbered_cons, List.takeWhile_cons, ih]
    by_cases h : i ≤ j
    · have hs : j + 1 - i = j + 1 - (i + 1) + 1 := by omega
      simp [h, hs]
    · have hz : j + 1 - i = 0 := by omega
      simp [h, hz]

/-- No two lines have one number. -/
theorem filter_numbered (i n : Nat) (ls : List (List Char)) :
    (numbered i ls).filter (·.1 = n) = if i ≤ n then (ls[n - i]?.map (n, ·)).toList else [] := by
  induction ls generalizing i with
  | nil => simp
  | cons l ls ih =>
    rw [numbered_cons, List.filter_cons, ih]
    by_cases he : i = n
    · subst he
      simp
    · by_cases h : i ≤ n
      · have hs : n - i = n - (i + 1) + 1 := by omega
        simp [he, h, hs, show i + 1 ≤ n by omega]
      · simp [he, h, show ¬ i + 1 ≤ n by omega]

theorem map_snd_numbered (i : Nat) (ls : List (List Char)) : (numbered i ls).map Prod.snd = ls := by
  simp [numbered, Function.comp_def]

/-- The lines of a text from number `i` to number `j`. -/
def linesBetween (t : List Char) (i j : Nat) : List (List Char) := ((lines t).take j).drop (i - 1)

def Window.first (w : Window) (line : Nat) : Nat := max 1 (line - w.before)

theorem around_eq (w : Window) (t : List Char) (line : Nat) :
    w.around t line = numbered (w.first line) (linesBetween (dropMark t) (w.first line) (line + w.after)) := by
  have h1 : 1 + (max (line - w.before) 1 - 1) = w.first line := by unfold Window.first; omega
  have h2 : max (line - w.before) 1 - 1 = w.first line - 1 := by omega
  have h3 : line + w.after + 1 - w.first line = line + w.after - (w.first line - 1) := by omega
  show ((numbered 1 (lines (dropMark t))).drop _).takeWhile _ = _
  rw [drop_numbered, h1, h2, takeWhile_numbered, h3, linesBetween, List.drop_take]

/-- The window around a line of the text has that line, once. -/
theorem filter_around {t : List Char} {line : Nat} {l : List Char} (h1 : 1 ≤ line)
    (hl : (lines (dropMark t))[line - 1]? = some l) (w : Window) :
    (w.around t line).filter (·.1 = line) = [(line, l)] := by
  have hf : w.first line ≤ line := by unfold Window.first; omega
  have hi : w.first line - 1 + (line - w.first line) = line - 1 := by unfold Window.first at *; omega
  rw [around_eq, filter_numbered, if_pos hf, linesBetween, List.getElem?_drop, hi, List.getElem?_take,
    if_pos (by omega), hl]
  rfl

/-! ## A check and its scan -/

@[simp] theorem Session.scanner_finish (g : Grammar) (s : Session) : (s.finish g).scanner = s.scanner := by
  unfold finish
  split <;> rfl

theorem verdict_session (config : Config) (t : List Char) :
    (config.session t).verdict config.grammar = scan config.grammar t := by
  rw [Session.verdict, Config.session, Session.scanner_finish, Session.scanner_feed]
  rfl

theorem check_eq (config : Config) (t : List Char) :
    (check config t).1 = ⟨scan config.grammar t, Report.render config.style (scan config.grammar t) t⟩ := by
  rw [← verdict_session]
  rfl

/-- A report with a window: the headline, and the lines between the markers. -/
theorem render_window {g : Grammar} (hg : g ≠ .strings) (w : Window) (v : Violation) (t : List Char) :
    Report.render ⟨g, some w⟩ (some v) t = String.join (([Report.headline g v, "--- context ---"]
      ++ (w.around t v.position.line).map (fun l => String.ofList l.2) ++ ["---------------"]).map (· ++ "\n")) := by
  cases g with
  | strings => exact absurd rfl hg
  | full => rfl
  | templates => rfl

/-! ## What is shown -/

/-- The window around a violation has its line, once, with what it is about in its column, and the opener that a
    wrong closer met is where it is said to be. The report has the headline and the lines of the window. -/
theorem report_shows {g : Grammar} {t : List Char} {v : Violation} (h : scan g t = some v) (w : Window) :
    (∃ l, (w.around t v.position.line).filter (·.1 = v.position.line) = [(v.position.line, l)] ∧
      HasAt l v.position.column v.mark) ∧
    (∀ o p c q, v = .mismatched o p c q → Legible (dropMark t) p [o]) ∧
    let first := max 1 (v.position.line - w.before)
    let last := min (v.position.line + w.after) (lines (dropMark t)).length
    first ≤ v.position.line ∧ v.position.line ≤ last ∧
    (g ≠ .strings → ∀ every, (check ⟨g, some w, every⟩ t).1.report =
      String.join (([Report.headline g v, "--- context ---"] ++ (linesBetween (dropMark t) first last).map String.ofList
        ++ ["---------------"]).map (· ++ "\n"))) := by
  obtain ⟨⟨h1, l, hl, hm⟩, ho⟩ := legible_of_scan h
  refine ⟨⟨l, filter_around h1 hl w, hm⟩, ho, by omega, ?_, ?_⟩
  · have hlt : v.position.line - 1 < (lines (dropMark t)).length := (List.getElem?_eq_some_iff.mp hl).1
    omega
  · intro hg every
    have hb : linesBetween (dropMark t) (w.first v.position.line) (v.position.line + w.after)
        = linesBetween (dropMark t) (max 1 (v.position.line - w.before))
            (min (v.position.line + w.after) (lines (dropMark t)).length) := by
      rw [linesBetween, linesBetween, List.take_eq_take_min]
      rfl
    rw [check_eq, h]
    show Report.render ⟨g, some w⟩ (some v) t = _
    rw [render_window hg, ← hb, ← map_snd_numbered (w.first v.position.line) (linesBetween _ _ _), ← around_eq,
      List.map_map]
    rfl

/-- An opener on the second line, met by a wrong closer on the third, behind a mark and a carriage return. -/
theorem report_shows_mismatch :
    scan .full "\uFEFFf\r\n  [a,\r\n \x7d\r\n".toList = some (.mismatched '[' ⟨2, 3⟩ '}' ⟨3, 2⟩) ∧
      (check ⟨.full, some ⟨1, 1⟩, 0⟩ "\uFEFFf\r\n  [a,\r\n \x7d\r\n".toList).1.report =
        "Mismatched [ opened at 2:3 closed by \x7d at 3:2\n--- context ---\n  [a,\n \x7d\n---------------\n" := by
  have h : scan .full "\uFEFFf\r\n  [a,\r\n \x7d\r\n".toList = some (.mismatched '[' ⟨2, 3⟩ '}' ⟨3, 2⟩) := by decide
  exact ⟨h, ((report_shows h ⟨1, 1⟩).2.2.2.2 (by decide) 0).trans (by decide)⟩

end BracketBalance
