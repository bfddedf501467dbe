/-
  BracketBalance.Proofs.Throttle — how often a reporter tells of a line.

  A reporter can be shown any lines in any order (`reachAll`), again and backwards too.
  All it keeps of them is the last line it told of and how many it told of, and that is
  what its answers say (`Paced`). Each line it tells of is an interval past the one
  before, so as many intervals as it told of lines fit below the last of them
  (`Paced.fits`).

  Proved (`told_spaced`): what the answer to each line is, how far apart the lines told
  of are, and how many there can be. One line keeps it (`Paced.reach`), so any lines do
  (`paced`).
-/

import BracketBalance.Progress
import Mathlib.Data.List.Chain
import Mathlib.Data.List.Induction

namespace BracketBalance

namespace Reporter

/-- The answers to lines shown one after the other, and the reporter they leave. -/
def reachAll : Reporter → List Nat → List (Option Progress) × Reporter
  | r, [] => ([], r)
  | r, line :: lines =>
    let (r, answer) := r.reach line
    let (answers, r) := reachAll r lines
    (answer :: answers, r)

def told (answers : List (Option Progress)) : List Nat := answers.filterMap (·.map Progress.line)

/-- The last line that answers tell of; 0 if there is none. -/
def latest (answers : List (Option Progress)) : Nat := (told answers).getLast?.getD 0

/-- The answer to a line when `last` is the last one told of. -/
def answerTo (every : Nat) (total : Option Nat) (last line : Nat) : Option Progress :=
  if every = 0 ∨ line < last + every then none else some ⟨line, total⟩

variable {r : Reporter} {line : Nat} {answers : List (Option Progress)}

theorem reachAll_snoc (r : Reporter) (lines : List Nat) (line : Nat) : r.reachAll (lines ++ [line]) =
    ((r.reachAll lines).1 ++ [((r.reachAll lines).2.reach line).2], ((r.reachAll lines).2.reach line).1) := by
  induction lines generalizing r with
  | nil => rfl
  | cons n lines ih => simp only [List.cons_append, reachAll, ih]

theorem told_none (answers : List (Option Progress)) : told (answers ++ [none]) = told answers := by
  simp [told]

theorem told_some (answers : List (Option Progress)) (p : Progress) :
    told (answers ++ [some p]) = told answers ++ [p.line] := by
  simp [told]

/-- The line before the first one told of counts as 0. -/
theorem getLast?_told (answers : List (Option Progress)) : (0 :: told answers).getLast? = some (latest answers) :=
  List.getLast?_cons

theorem reach_of_le (h : r.every ≠ 0) (hle : r.last + r.every ≤ line) :
    r.reach line = ({ r with last := line, emitted := r.emitted + 1 }, some ⟨line, r.total⟩) := by
  unfold reach
  rw [if_neg]
  simp only [Bool.or_eq_true, decide_eq_true_eq]
  omega

theorem reach_of_lt (h : r.every = 0 ∨ line < r.last + r.every) : r.reach line = (r, none) := by
  unfold reach
  rw [if_pos]
  simp only [Bool.or_eq_true, decide_eq_true_eq]
  omega

/-- What a reporter that was shown `lines` keeps of them, and how it answered. -/
structure Paced (every : Nat) (total : Option Nat) (lines : List Nat) (answers : List (Option Progress))
    (r : Reporter) : Prop where
  every_eq : r.every = every
  total_eq : r.total = total
  length : answers.length = lines.length
  answered : ∀ i : Nat, answers[i]? = lines[i]?.map (answerTo every total (latest (answers.take i)))
  last : r.last = latest answers
  emitted : r.emitted = (told answers).length
  spaced : (0 :: told answers).IsChain fun a b => a + every ≤ b
  /-- So many intervals are below the last line told of. -/
  fits : r.emitted * every ≤ r.last
  shown : r.last = 0 ∨ r.last ∈ lines

theorem paced_start (every : Nat) (total : Option Nat) : Paced every total [] [] (start every total) where
  every_eq := rfl
  total_eq := rfl
  length := rfl
  answered := fun _ => rfl
  last := rfl
  emitted := rfl
  spaced := .singleton 0
  fits := by simp [start]
  shown := .inl rfl

variable {every : Nat} {total : Option Nat} {lines : List Nat}

theorem Paced.answered_snoc (h : Paced every total lines answers r) (line : Nat) (i : Nat) :
    (answers ++ [answerTo every total r.last line])[i]? = (lines ++ [line])[i]?.map
      (answerTo every total (latest ((answers ++ [answerTo every total r.last line]).take i))) := by
  rcases Nat.lt_trichotomy i answers.length with hi | hi | hi
  · rw [List.take_append_of_le_length (Nat.le_of_lt hi), List.getElem?_append_left hi,
      List.getElem?_append_left (h.length ▸ hi)]
    exact h.answered i
  · subst hi
    rw [List.take_left, List.getElem?_concat_length, h.length, List.getElem?_concat_length, h.last]
    rfl
  · have hlines : lines.length < i := h.length ▸ hi
    rw [List.getElem?_eq_none, List.getElem?_eq_none]
    · rfl
    · rw [List.length_append, List.length_singleton]
      omega
    · rw [List.length_append, List.length_singleton]
      omega

theorem Paced.length_snoc (h : Paced every total lines answers r) (line : Nat) (answer : Option Progress) :
    (answers ++ [answer]).length = (lines ++ [line]).length := by
  rw [List.length_append, List.length_append, h.length]
  rfl

theorem Paced.pass (h : Paced every total lines answers r) (hlt : every = 0 ∨ line < r.last + every) :
    Paced every total (lines ++ [line]) (answers ++ [none]) r := by
  have hanswered := h.answered_snoc line
  have hnone : answerTo every total r.last line = none := if_pos hlt
  rw [hnone] at hanswered
  refine ⟨h.every_eq, h.total_eq, h.length_snoc line none, hanswered, ?_, ?_, ?_, h.fits, ?_⟩
  · rw [latest, told_none]
    exact h.last
  · rw [told_none]
    exact h.emitted
  · rw [told_none]
    exact h.spaced
  · exact h.shown.imp_right (List.mem_append_left _)

/-- A line that is told of is an interval past the last, and the next counts from it. -/
theorem Paced.tell (h : Paced every total lines answers r) (h0 : every ≠ 0) (hle : r.last + every ≤ line) :
    Paced every total (lines ++ [line]) (answers ++ [some ⟨line, r.total⟩])
      { r with last := line, emitted := r.emitted + 1 } := by
  have hanswered := h.answered_snoc line
  have hsome : answerTo every total r.last line = some ⟨line, r.total⟩ := by
    rw [answerTo, if_neg, h.total_eq]
    omega
  rw [hsome] at hanswered
  refine ⟨h.every_eq, h.total_eq, h.length_snoc line _, hanswered, ?_, ?_, ?_, ?_, ?_⟩
  · rw [latest, told_some, List.getLast?_concat]
    rfl
  · rw [told_some, List.length_append, ← h.emitted]
    rfl
  · rw [told_some, ← List.cons_append, List.isChain_append]
    refine ⟨h.spaced, .singleton line, ?_⟩
    rw [getLast?_told, ← h.last]
    rintro a ha b hb
    cases ha
    cases hb
    exact hle
  · show (r.emitted + 1) * every ≤ line
    rw [Nat.add_mul, Nat.one_mul]
    exact Nat.le_trans (Nat.add_le_add_right h.fits every) hle
  · exact .inr (List.mem_append_right _ List.mem_cons_self)

theorem Paced.reach (h : Paced every total lines answers r) (line : Nat) :
    Paced every total (lines ++ [line]) (answers ++ [(r.reach line).2]) (r.reach line).1 := by
  by_cases hlt : r.every = 0 ∨ line < r.last + r.every
  · rw [reach_of_lt hlt]
    exact h.pass (h.every_eq ▸ hlt)
  · rw [not_or, Nat.not_lt] at hlt
    obtain ⟨h0, hle⟩ := hlt
    rw [reach_of_le h0 hle]
    rw [h.every_eq] at h0 hle
    exact h.tell h0 hle

theorem paced (every : Nat) (total : Option Nat) (lines : List Nat) :
    Paced every total lines ((start every total).reachAll lines).1 ((start every total).reachAll lines).2 := by
  induction lines using List.reverseRecOn with
  | nil => exact paced_start every total
  | append_singleton lines line ih =>
    rw [reachAll_snoc]
    exact ih.reach line

theorem Paced.silent (h : Paced 0 total lines answers r) : told answers = [] := by
  refine List.filterMap_eq_nil_iff.mpr fun a ha => ?_
  obtain ⟨i, hi⟩ := List.mem_iff_getElem?.mp ha
  rw [h.answered i, Option.map_eq_some_iff] at hi
  obtain ⟨line, -, rfl⟩ := hi
  rfl

/-- Any lines shown in any order. A line is told of exactly when it is an interval past the last one told of, and only
    with its own number and the total; so the lines told of are an interval apart, the first from 0, and with an
    interval of 0 there are none. The reporter counts them, and that many intervals do not go past the largest line
    shown. -/
theorem told_spaced (every : Nat) (total : Option Nat) (lines : List Nat) :
    let (answers, r) := (start every total).reachAll lines
    answers.length = lines.length ∧
    (∀ i : Nat, answers[i]? = lines[i]?.map fun line =>
      if every = 0 ∨ line < latest (answers.take i) + every then none else some ⟨line, total⟩) ∧
    (0 :: told answers).IsChain (fun a b => a + every ≤ b) ∧
    r.emitted = (told answers).length ∧
    r.emitted * every ≤ lines.max?.getD 0 ∧
    (every = 0 → told answers = []) := by
  have h := paced every total lines
  refine ⟨h.length, h.answered, h.spaced, h.emitted, ?_, ?_⟩
  · refine h.fits.trans ?_
    rcases h.shown with h0 | hm
    · rw [h0]
      exact Nat.zero_le _
    · exact List.le_max?_getD_of_mem hm
  · rintro rfl
    exact h.silent

/-- Lines that go back and come again: of eight, three are told of. -/
example : ((start 5 none).reachAll [3, 7, 6, 12, 2, 12, 16, 18]).1.map (·.map Progress.line) =
    [none, some 7, none, some 12, none, none, none, some 18] := by decide

end Reporter

end BracketBalance
