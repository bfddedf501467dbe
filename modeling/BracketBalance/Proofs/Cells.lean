/-
  BracketBalance.Proofs.Cells — the places of a text and the cells of its lines.

  A cursor gives every character a place (`places`), also a line feed and a carriage
  return before it. These two are in none of the lines; every other character is shown in
  one (`Shown`). A line has a cell for each of its characters (`Cell`), numbered from 1 as
  the lines are.

  Proved (`places_bijOn`): the places increase strictly, and between the characters shown
  and the cells they are one to one, each cell with the character that has its place. One
  way is `line_after`; that no cell is left over is shown from the front of the text, where
  a character moves the cells behind it as it moves the places (`exists_shown`).
-/

import BracketBalance.Proofs.Lines
import Mathlib.Data.Set.Function

namespace BracketBalance

namespace Cursor

/-- The places of the characters of a text, from `k` on. -/
def places : Cursor → List Char → List Position
  | _, [] => []
  | k, c :: t => k.next :: (k.advance c).places t

/-- The place of the character of a text that has `i` characters before it. -/
def placeOf (t : List Char) (i : Nat) : Position := (after (t.take i)).next

theorem places_eq_map (k : Cursor) (t : List Char) :
    k.places t = (List.range t.length).map fun i => ((t.take i).foldl advance k).next := by
  induction t generalizing k with
  | nil => rfl
  | cons c t ih =>
    rw [places, ih, List.length_cons, List.range_succ_eq_map, List.map_cons, List.map_map]
    rfl

theorem position_lt_of_mem_places {k : Cursor} {t : List Char} :
    ∀ p ∈ k.places t, k.position < p := by
  induction t generalizing k with
  | nil => exact nofun
  | cons c t ih =>
    refine List.forall_mem_cons.mpr ⟨k.position_lt_next, fun p hp => ?_⟩
    exact Position.lt_of_le_of_lt (k.position_le_advance c) (ih p hp)

theorem pairwise_places (k : Cursor) (t : List Char) : (k.places t).Pairwise (· < ·) := by
  induction t generalizing k with
  | nil => exact .nil
  | cons c t ih =>
    refine List.pairwise_cons.mpr ⟨fun p hp => ?_, ih (k.advance c)⟩
    exact Position.lt_of_le_of_lt (k.next_le_position_advance c) (position_lt_of_mem_places p hp)

theorem placeOf_lt {t : List Char} {i j : Nat} (hij : i < j) (hj : j < t.length) : placeOf t i < placeOf t j := by
  have h := pairwise_places start t
  rw [places_eq_map, List.pairwise_map, List.pairwise_iff_getElem] at h
  specialize h i j (by rw [List.length_range]; omega) (by rw [List.length_range]; omega) hij
  rwa [List.getElem_range, List.getElem_range] at h

theorem placeOf_feed (t : List Char) (i : Nat) :
    placeOf ('\n' :: t) (i + 1) = ⟨(placeOf t i).line + 1, (placeOf t i).column⟩ := by
  rw [placeOf, List.take_succ_cons, after_feed]
  rfl

theorem placeOf_cons {c : Char} (hc : c ≠ '\n') (t : List Char) (i : Nat) : placeOf (c :: t) (i + 1) =
    if (placeOf t i).line = 1 then ⟨1, (placeOf t i).column + 1⟩ else placeOf t i := by
  rw [placeOf, List.take_succ_cons, after_cons hc]
  show next (if (after (t.take i)).line = 1 then _ else _) = if (after (t.take i)).line = 1 then _ else _
  split <;> rfl

/-- Behind a text, the column counts the characters after its last line feed. -/
theorem column_after_eq (t : List Char) : (after t).column = (t.reverse.takeWhile (· ≠ '\n')).length := by
  induction t using List.reverseRecOn with
  | nil => rfl
  | append_singleton t c ih =>
    rw [after_snoc, List.reverse_append, List.reverse_singleton, List.singleton_append, List.takeWhile_cons, advance]
    by_cases hc : c = '\n'
    · simp [hc]
    · simp [hc, ih]

end Cursor

open Cursor

/-- The character at `i` is `c`, and ends no line, alone or as a carriage return before a line feed. -/
def Shown (t : List Char) (i : Nat) (c : Char) : Prop :=
  t[i]? = some c ∧ c ≠ '\n' ∧ ¬ (c = '\r' ∧ t[i + 1]? = some '\n')

/-- The line `l` is that of `p`, and reaches to its column. -/
def Cell (t : List Char) (p : Position) (l : List Char) : Prop :=
  1 ≤ p.line ∧ (lines t)[p.line - 1]? = some l ∧ 1 ≤ p.column ∧ p.column ≤ l.length

variable {t : List Char} {i : Nat} {c : Char}

theorem cell_of_shown (h : Shown t i c) :
    ∃ l, Cell t (placeOf t i) l ∧ l[(placeOf t i).column - 1]? = some c := by
  obtain ⟨hi, hc, hr⟩ := h
  obtain ⟨hlt, hget⟩ := List.getElem?_eq_some_iff.mp hi
  have ht : t.take i ++ c :: t.drop (i + 1) = t := by
    rw [← hget, ← List.drop_eq_getElem_cons hlt]
    exact List.take_append_drop i t
  have hr' : ¬ (c = '\r' ∧ (t.drop (i + 1)).head? = some '\n') := by rwa [List.head?_drop]
  obtain ⟨l, hl, hd⟩ := line_after (t.take i) hc (t.drop (i + 1))
  rw [ht] at hl
  rw [lines_cons hc hr', List.headD_cons] at hd
  have hcolumn : l[(after (t.take i)).column]? = some c := by
    rw [← List.head?_drop, hd]
    rfl
  refine ⟨l, ⟨one_le_line_after _, hl, Nat.le_add_left 1 _, ?_⟩, hcolumn⟩
  exact (List.getElem?_eq_some_iff.mp hcolumn).1

theorem exists_shown {t : List Char} {n m : Nat} {l : List Char} (hl : (lines t)[n]? = some l) (hm : m < l.length) :
    ∃ i c, Shown t i c ∧ placeOf t i = ⟨n + 1, m + 1⟩ := by
  induction t generalizing n m l with
  | nil => cases hl
  | cons d t ih =>
    by_cases hf : d = '\n'
    · -- the first line is empty, and the others are those of the rest
      subst hf
      rw [lines_feed] at hl
      cases n with
      | zero => cases hl; cases hm
      | succ n =>
        obtain ⟨i, c, hs, hp⟩ := ih hl hm
        exact ⟨i + 1, c, hs, by rw [placeOf_feed, hp]⟩
    by_cases hr : d = '\r' ∧ t.head? = some '\n'
    · -- the lines are those of the rest, the first of which is empty
      obtain ⟨rfl, hn⟩ := hr
      obtain ⟨u, rfl⟩ := List.head?_eq_some_iff.mp hn
      rw [lines_return, ← lines_feed] at hl
      cases n with
      | zero => rw [lines_feed] at hl; cases hl; cases hm
      | succ n =>
        obtain ⟨i, c, hs, hp⟩ := ih hl hm
        exact ⟨i + 1, c, hs, by rw [placeOf_cons hf, hp]; simp⟩
    -- the first line has one character more, the others are those of the rest
    rw [lines_cons hf hr] at hl
    cases n with
    | zero =>
      cases hl
      cases m with
      | zero =>
        refine ⟨0, d, ⟨rfl, hf, ?_⟩, rfl⟩
        rwa [List.getElem?_cons_succ, ← List.head?_eq_getElem?]
      | succ m =>
        rw [List.length_cons] at hm
        obtain ⟨l, ls, hls⟩ := List.exists_cons_of_ne_nil (l := lines t) fun h => by simp [h] at hm
        rw [hls, List.headD_cons] at hm
        obtain ⟨i, c, hs, hp⟩ := ih (n := 0) (by rw [hls]; rfl) (Nat.lt_of_succ_lt_succ hm)
        exact ⟨i + 1, c, hs, by rw [placeOf_cons hf, hp]; simp⟩
    | succ n =>
      rw [List.getElem?_cons_succ, List.getElem?_tail] at hl
      obtain ⟨i, c, hs, hp⟩ := ih hl hm
      exact ⟨i + 1, c, hs, by rw [placeOf_cons hf, hp]; simp⟩

/-- The places of a text in order: they increase strictly, and of the characters that end no line they are the cells of
    its lines, one to one, each cell with the character of its place. Behind the text the cursor has counted its line
    feeds, and the characters after the last of them. -/
theorem places_bijOn (t : List Char) :
    start.places t = (List.range t.length).map (placeOf t) ∧ (start.places t).Pairwise (· < ·) ∧
    Set.BijOn (placeOf t) {i | ∃ c, Shown t i c} {p | ∃ l, Cell t p l} ∧
    (∀ i c, Shown t i c → ∃ l, Cell t (placeOf t i) l ∧ l[(placeOf t i).column - 1]? = some c) ∧
    (after t).position = ⟨1 + t.count '\n', (t.reverse.takeWhile (· ≠ '\n')).length⟩ := by
  refine ⟨places_eq_map start t, pairwise_places start t, ⟨?_, ?_, ?_⟩, fun i c => cell_of_shown, ?_⟩
  · rintro i ⟨c, hs⟩
    obtain ⟨l, hl, -⟩ := cell_of_shown hs
    exact ⟨l, hl⟩
  · rintro i ⟨c, hi, -⟩ j ⟨d, hj, -⟩ he
    have hilt := (List.getElem?_eq_some_iff.mp hi).1
    have hjlt := (List.getElem?_eq_some_iff.mp hj).1
    rcases Nat.lt_trichotomy i j with hlt | heq | hlt
    · exact absurd (he ▸ placeOf_lt hlt hjlt) (Position.lt_irrefl _)
    · exact heq
    · exact absurd (he ▸ placeOf_lt hlt hilt) (Position.lt_irrefl _)
  · rintro ⟨line, column⟩ ⟨l, h1, hl, h2, hlen⟩
    have hm : column - 1 < l.length := Nat.lt_of_lt_of_le (Nat.sub_lt h2 Nat.one_pos) hlen
    obtain ⟨i, c, hs, hp⟩ := exists_shown hl hm
    refine ⟨i, ⟨c, hs⟩, hp.trans ?_⟩
    rw [Nat.sub_add_cancel h1, Nat.sub_add_cancel h2]
  · rw [position, line_after_eq, column_after_eq]

end BracketBalance
