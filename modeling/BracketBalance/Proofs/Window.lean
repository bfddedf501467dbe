/-
  BracketBalance.Proofs.Window — exactly the lines around a line.

  A window drops the lines before its first and takes lines up to its last, and both
  ends are clipped. What is left (`mem_around`) is each line of the text that is no more
  than `before` lines ahead of the one in question and no more than `after` behind it,
  read over the natural numbers, wherever that line is. The numbers only increase
  (`pairwise_around`).

  `counted` is the same calculation in counts of 64 bits. Proved (`around_exact`): for a
  text that can be counted it never leaves their range, and has the same lines.
-/

import BracketBalance.Proofs.Counts
import BracketBalance.Proofs.Report

namespace BracketBalance

/-! ## The lines of a window -/

theorem mem_numbered {i n : Nat} {l : List Char} {ls : List (List Char)} :
    (n, l) ∈ numbered i ls ↔ i ≤ n ∧ ls[n - i]? = some l := by
  rw [numbered, List.mem_map]
  constructor
  · intro h
    obtain ⟨⟨l', n'⟩, hm, e⟩ := h
    cases e
    exact List.mk_mem_zipIdx_iff_le_and_getElem?_sub.mp hm
  · intro h
    exact ⟨(l, n), List.mk_mem_zipIdx_iff_le_and_getElem?_sub.mpr h, rfl⟩

theorem pairwise_numbered (i : Nat) (ls : List (List Char)) : (numbered i ls).Pairwise fun a b => a.1 < b.1 := by
  induction ls generalizing i with
  | nil => exact List.Pairwise.nil
  | cons l ls ih =>
    rw [numbered_cons, List.pairwise_cons]
    refine ⟨?_, ih (i + 1)⟩
    rintro ⟨n, l'⟩ hm
    exact (mem_numbered.mp hm).1

theorem getElem?_linesBetween {t : List Char} {i j n : Nat} {l : List Char} (hi : 1 ≤ i) (hn : i ≤ n) :
    (linesBetween t i j)[n - i]? = some l ↔ n ≤ j ∧ (lines t)[n - 1]? = some l := by
  have hidx : i - 1 + (n - i) = n - 1 := by omega
  rw [linesBetween, List.getElem?_drop, hidx]
  by_cases hj : n ≤ j
  · rw [List.getElem?_take, if_pos (by omega)]
    exact (and_iff_right hj).symm
  · rw [List.getElem?_take, if_neg (by omega)]
    exact iff_of_false (Option.some_ne_none l).symm fun h => hj h.1

theorem mem_around {w : Window} {t : List Char} {line n : Nat} {l : List Char} : (n, l) ∈ w.around t line ↔
    (1 ≤ n ∧ (lines (dropMark t))[n - 1]? = some l) ∧ line ≤ n + w.before ∧ n ≤ line + w.after := by
  have hfirst : 1 ≤ w.first line := Nat.le_max_left _ _
  have hle : w.first line ≤ n ↔ 1 ≤ n ∧ line ≤ n + w.before := by
    unfold Window.first
    omega
  rw [around_eq, mem_numbered]
  constructor
  · intro h
    obtain ⟨hn, hl⟩ := h
    obtain ⟨hlast, hl⟩ := (getElem?_linesBetween hfirst hn).mp hl
    exact ⟨⟨(hle.mp hn).1, hl⟩, (hle.mp hn).2, hlast⟩
  · intro h
    obtain ⟨⟨h1, hl⟩, hb, hlast⟩ := h
    have hn := hle.mpr ⟨h1, hb⟩
    exact ⟨hn, (getElem?_linesBetween hfirst hn).mpr ⟨hlast, hl⟩⟩

theorem pairwise_around (w : Window) (t : List Char) (line : Nat) :
    (w.around t line).Pairwise fun a b => a.1 < b.1 := by
  rw [around_eq]
  exact pairwise_numbered _ _

/-! ## A window in counts -/

/-- The window, with counts of 64 bits: its ends stop at what can be counted, and no other number may. -/
def Window.counted (w : Window) (t : List Char) (line : Nat) : Option (List (Nat × List Char)) := do
  let first := max (nearestCount (line - w.before)) 1
  let last := nearestCount (line + w.after)
  let numbered ← (lines (dropMark t)).zipIdx.mapM fun l => (count? (l.2 + 1)).map (·, l.1)
  let skipped ← count? (first - 1)
  return (numbered.drop skipped).takeWhile (·.1 ≤ last)

theorem length_lines_le (t : List Char) : (lines t).length ≤ t.length := by
  have hcount := List.count_le_length (a := '\n') (l := t)
  rw [length_lines]
  split
  · exact hcount
  · rename_i h
    -- the last character ends no line
    rw [not_or] at h
    obtain ⟨u, c, rfl⟩ := (List.eq_nil_or_concat' t).resolve_left h.1
    have hc : c ≠ '\n' := by simpa using h.2
    have hu := List.count_le_length (a := '\n') (l := u)
    rw [List.count_append, List.count_singleton, List.length_append, List.length_singleton]
    simp only [beq_iff_eq, hc, if_false]
    omega

theorem mapM_numbered {i : Nat} {ls : List (List Char)} (h : i + ls.length ≤ countLimit) :
    (ls.zipIdx i).mapM (fun l => (count? (l.2 + 1)).map (·, l.1)) = some (numbered (i + 1) ls) := by
  induction ls generalizing i with
  | nil => rfl
  | cons l ls ih =>
    rw [List.length_cons] at h
    rw [List.zipIdx_cons, List.mapM_cons, ih (by omega), numbered_cons, count?_add_one (by omega)]
    rfl

/-- A last line past the limit takes all that there are. -/
theorem takeWhile_limit {i : Nat} {ls : List (List Char)} (n : Nat) (h : i + ls.length ≤ countLimit + 1) :
    (numbered i ls).takeWhile (·.1 ≤ min n countLimit) = (numbered i ls).takeWhile (·.1 ≤ n) := by
  rw [takeWhile_numbered, takeWhile_numbered]
  by_cases hn : n ≤ countLimit
  · rw [Nat.min_eq_left hn]
  · rw [Nat.min_eq_right (by omega), List.take_of_length_le (by omega), List.take_of_length_le (by omega)]

theorem Window.counted_eq {w : Window} {t : List Char} {line : Nat} (ht : t.length ≤ countLimit) (hl : line ≤ countLimit) :
    w.counted t line = some (w.around t line) := by
  have hlines : (lines (dropMark t)).length ≤ countLimit :=
    (length_lines_le _).trans ((dropMark_suffix t).length_le.trans ht)
  have hfirst : max (line - w.before) 1 ≤ countLimit := Nat.max_le.mpr ⟨by omega, by decide⟩
  have hskip := count?_pred (Nat.le_max_right (line - w.before) 1) hfirst
  have hrest : 1 + (max (line - w.before) 1 - 1) + ((lines (dropMark t)).drop (max (line - w.before) 1 - 1)).length
      ≤ countLimit + 1 := by
    rw [List.length_drop]
    omega
  have hlast := takeWhile_limit (line + w.after) hrest
  rw [← drop_numbered] at hlast
  rw [Window.counted, mapM_numbered (by omega), nearestCount_sub hl, nearestCount_add, hskip]
  exact congrArg some hlast

/-- A window has the lines of the text that are near enough, each once and in order, and it is counted with no number
    out of range. -/
theorem around_exact {w : Window} {t : List Char} {line : Nat} (ht : t.length ≤ countLimit)
    (hl : line ≤ countLimit) :
    w.counted t line = some (w.around t line) ∧ ((w.around t line).Pairwise fun a b => a.1 < b.1) ∧
      ∀ n l, (n, l) ∈ w.around t line ↔
        (1 ≤ n ∧ (lines (dropMark t))[n - 1]? = some l) ∧ line ≤ n + w.before ∧ n ≤ line + w.after :=
  ⟨Window.counted_eq ht hl, pairwise_around w t line, fun _ _ => mem_around⟩

/-- A window as large as can be around a line past the end of a text of two lines. -/
theorem around_exact_limit :
    "\uFEFFa\r\nb".toList.length ≤ countLimit ∧
      (⟨countLimit, countLimit⟩ : Window).counted "\uFEFFa\r\nb".toList countLimit = some [(1, ['a']), (2, ['b'])] := by
  have ht : "\uFEFFa\r\nb".toList.length ≤ countLimit := by decide
  refine ⟨ht, (around_exact ht (Nat.le_refl countLimit)).1.trans ?_⟩
  decide

end BracketBalance
