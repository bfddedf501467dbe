/-
  BracketBalance.Proofs.Lines — the places of a text and the lines of a report.

  A cursor counts line feeds and characters; a report cuts a text into lines. Both are
  read here from the front of a text, one character at a time: what a character does
  to the lines of what follows it (`lines_feed`, `lines_return`, `lines_cons`), and to
  the cursor behind it (`after_feed`, `after_cons`).

  Proved: where the cursor behind `a` stands, the line it counts has what follows `a`
  from the column after the one it counts on (`line_after`). So a word of the text is
  found in the line and the column of its place (`line_of_standsAt`).
-/

import BracketBalance.Proofs.Position
import BracketBalance.Text.Line
import Mathlib.Data.List.Induction

namespace BracketBalance

/-! ## Lines from the front -/

theorem pieces_sep (sep : Char) (t : List Char) : pieces sep (sep :: t) = [] :: pieces sep t := by simp [pieces]

theorem pieces_other {sep c : Char} (h : c ≠ sep) {t p : List Char} {ps : List (List Char)}
    (hp : pieces sep t = p :: ps) : pieces sep (c :: t) = (c :: p) :: ps := by
  unfold pieces at hp ⊢
  rw [List.foldr_cons, hp]
  exact if_neg h

/-- Only a separator at the front makes the first of several pieces empty. -/
theorem head?_of_pieces {sep : Char} {t : List Char} {ps : List (List Char)} (h : pieces sep t = [] :: ps)
    (hps : ps ≠ []) : t.head? = some sep := by
  cases t with
  | nil => cases h; exact absurd rfl hps
  | cons c t =>
    by_cases hc : c = sep
    · rw [hc]; rfl
    · obtain ⟨p, ps', hp⟩ := List.exists_cons_of_ne_nil (pieces_ne_nil sep t)
      rw [pieces_other hc hp] at h
      cases h

theorem dropReturn_cons {c : Char} {l : List Char} (h : c ≠ '\r' ∨ l ≠ []) :
    dropReturn (c :: l) = c :: dropReturn l := by
  cases l with
  | nil =>
    have hc : c ≠ '\r' := h.resolve_right (fun hl => hl rfl)
    simp [dropReturn, hc]
  | cons d l =>
    unfold dropReturn
    rw [List.getLast?_cons_cons, List.dropLast_cons_cons]
    split <;> rfl

/-- A piece that a line feed ends is a line; the last one is, if it is not empty. -/
theorem lines_eq_cons {t p : List Char} {ps : List (List Char)} (h : pieces '\n' t = p :: ps) (hps : ps ≠ []) :
    lines t = dropReturn p :: (ps.dropLast.map dropReturn ++ ps.getLast?.toList.filter (!·.isEmpty)) := by
  have hl : (p :: ps).getLast? = ps.getLast? := by
    obtain ⟨q, qs, rfl⟩ := List.exists_cons_of_ne_nil hps
    exact List.getLast?_cons_cons
  simp only [lines, h, List.dropLast_cons_of_ne_nil hps, hl, List.map_cons, List.cons_append]

theorem lines_feed (t : List Char) : lines ('\n' :: t) = [] :: lines t :=
  lines_eq_cons (pieces_sep '\n' t) (pieces_ne_nil '\n' t)

theorem lines_return (t : List Char) : lines ('\r' :: '\n' :: t) = [] :: lines t := by
  have h : pieces '\n' ('\r' :: '\n' :: t) = ['\r'] :: pieces '\n' t :=
    pieces_other (by decide) (pieces_sep '\n' t)
  exact lines_eq_cons h (pieces_ne_nil '\n' t)

/-- Every other character belongs to the first line. -/
theorem lines_cons {c : Char} {t : List Char} (hc : c ≠ '\n') (hr : ¬ (c = '\r' ∧ t.head? = some '\n')) :
    lines (c :: t) = (c :: (lines t).headD []) :: (lines t).tail := by
  obtain ⟨p, ps, hp⟩ := List.exists_cons_of_ne_nil (pieces_ne_nil '\n' t)
  have hcp := pieces_other hc hp
  by_cases hps : ps = []
  · subst hps
    cases p <;> simp [lines, hcp, hp]
  · have hd : dropReturn (c :: p) = c :: dropReturn p := by
      refine dropReturn_cons ?_
      by_cases h : p = []
      · rw [h] at hp
        exact .inl fun hcr => hr ⟨hcr, head?_of_pieces hp hps⟩
      · exact .inr h
    rw [lines_eq_cons hcp hps, lines_eq_cons hp hps, hd]
    rfl

/-- A line for each line feed, and one for what follows the last of them. -/
theorem length_lines (t : List Char) :
    (lines t).length = t.count '\n' + if t = [] ∨ t.getLast? = some '\n' then 0 else 1 := by
  induction t with
  | nil => rfl
  | cons c t ih =>
    have hlast : t ≠ [] → (c :: t).getLast? = t.getLast? := fun ht => by
      obtain ⟨d, u, rfl⟩ := List.exists_cons_of_ne_nil ht
      exact List.getLast?_cons_cons
    by_cases hc : c = '\n'
    · subst hc
      rw [lines_feed, List.length_cons, ih, List.count_cons_self]
      by_cases ht : t = []
      · simp [ht]
      · simp only [ht, hlast ht, false_or, List.cons_ne_nil]
        omega
    · rw [List.count_cons_of_ne hc]
      by_cases hr : c = '\r' ∧ t.head? = some '\n'
      · obtain ⟨rfl, hn⟩ := hr
        obtain ⟨u, rfl⟩ := List.head?_eq_some_iff.mp hn
        rw [lines_return, ← lines_feed, ih, hlast (List.cons_ne_nil _ u)]
        simp
      · rw [lines_cons hc hr, List.length_cons, List.length_tail, ih]
        by_cases ht : t = []
        · simp [ht, hc]
        · -- a text that ends with a line feed has one
          have hpos : t.getLast? = some '\n' → 0 < t.count '\n' := fun hl =>
            List.count_pos_iff.mpr (List.mem_of_getLast? hl)
          rw [hlast ht]
          by_cases hl : t.getLast? = some '\n'
          · have := hpos hl
            simp only [hl, or_true, if_true]
            omega
          · simp [ht, hl]

/-- A word within a line begins the first line of a text that it begins. -/
theorem prefix_headD_lines {m : List Char} (hm : ∀ c ∈ m, c ≠ '\n' ∧ c ≠ '\r') (t : List Char) :
    m <+: (lines (m ++ t)).headD [] := by
  induction m with
  | nil => exact List.nil_prefix
  | cons c m ih =>
    obtain ⟨hc, hm⟩ := List.forall_mem_cons.mp hm
    rw [List.cons_append, lines_cons hc.1 (fun h => hc.2 h.1)]
    exact (List.prefix_cons_inj c).mpr (ih hm)

/-! ## The cursor behind a text -/

namespace Cursor

def after (t : List Char) : Cursor := t.foldl advance start

theorem after_append (t u : List Char) : after (t ++ u) = u.foldl advance (after t) := List.foldl_append

theorem after_snoc (t : List Char) (c : Char) : after (t ++ [c]) = (after t).advance c := after_append t [c]

/-- Where the cursor `k` comes to that goes on as one that comes from the start to `j`. -/
def beyond (k j : Cursor) : Cursor :=
  if j.line = 1 then ⟨k.line, k.column + j.column⟩ else ⟨k.line + (j.line - 1), j.column⟩

theorem advance_beyond {k j : Cursor} (hj : 1 ≤ j.line) (c : Char) :
    (k.beyond j).advance c = k.beyond (j.advance c) := by
  have hn : ¬ j.line = 0 := by omega
  by_cases hc : c = '\n'
  · by_cases h : j.line = 1
    · simp [beyond, advance, hc, h]
    · simp [beyond, advance, hc, h, hn]
      omega
  · by_cases h : j.line = 1
    · simp [beyond, advance, hc, h, Nat.add_assoc]
    · simp [beyond, advance, hc, h]

theorem one_le_line_after (t : List Char) : 1 ≤ (after t).line := by
  induction t using List.reverseRecOn with
  | nil => exact Nat.le_refl 1
  | append_singleton t c ih =>
    rw [after_snoc, advance]
    split
    · exact Nat.le_add_left 1 _
    · exact ih

theorem line_after_eq (t : List Char) : (after t).line = 1 + t.count '\n' := by
  induction t using List.reverseRecOn with
  | nil => rfl
  | append_singleton t c ih =>
    rw [after_snoc, List.count_append]
    by_cases hc : c = '\n'
    · subst hc
      simp [advance, ih, Nat.add_assoc]
    · simp [advance, hc, ih]

theorem foldl_advance (k : Cursor) (t : List Char) : t.foldl advance k = k.beyond (after t) := by
  induction t using List.reverseRecOn with
  | nil => simp [beyond, after, start]
  | append_singleton t c ih =>
    rw [List.foldl_append, ih, after_snoc]
    exact advance_beyond (one_le_line_after t) c

theorem after_feed (t : List Char) : after ('\n' :: t) = ⟨(after t).line + 1, (after t).column⟩ := by
  have h := one_le_line_after t
  rw [after, List.foldl_cons, foldl_advance, beyond]
  split
  · simp_all [advance, start]
  · simp only [advance, start, if_true, Cursor.mk.injEq, and_true]
    omega

theorem after_cons {c : Char} (hc : c ≠ '\n') (t : List Char) :
    after (c :: t) = if (after t).line = 1 then ⟨1, (after t).column + 1⟩ else after t := by
  have h := one_le_line_after t
  rw [after, List.foldl_cons, foldl_advance, beyond, advance, if_neg hc]
  split
  · simp [start, Nat.add_comm]
  · simp only [start]
    rw [Nat.add_sub_cancel' h]

end Cursor

open Cursor

/-! ## A place and its line -/

/-- What follows `a` is what the line of its place has from there on. -/
theorem line_after (a : List Char) {c : Char} (hc : c ≠ '\n') (t : List Char) :
    ∃ l, (lines (a ++ c :: t))[(after a).line - 1]? = some l ∧
      l.drop (after a).column = (lines (c :: t)).headD [] := by
  induction a with
  | nil =>
    by_cases hr : c = '\r' ∧ t.head? = some '\n'
    · obtain ⟨rfl, ht⟩ := hr
      obtain ⟨u, rfl⟩ := List.head?_eq_some_iff.mp ht
      exact ⟨[], by rw [List.nil_append, lines_return]; rfl, by rw [lines_return]; rfl⟩
    · exact ⟨_, by rw [List.nil_append, lines_cons hc hr]; rfl, by rw [lines_cons hc hr]; rfl⟩
  | cons d a ih =>
    obtain ⟨l, hl, hd⟩ := ih
    have h1 := one_le_line_after a
    by_cases hf : d = '\n'
    · -- one more line before it
      refine ⟨l, ?_, by rw [hf, after_feed]; exact hd⟩
      rw [hf, List.cons_append, lines_feed, after_feed]
      rw [List.getElem?_cons, if_neg (by simp; omega)]
      exact hl
    rw [after_cons hf, List.cons_append]
    by_cases hr : d = '\r' ∧ (a ++ c :: t).head? = some '\n'
    · -- the carriage return is in none of the lines, and `a` begins with its line feed
      obtain ⟨rfl, ha⟩ := hr
      cases a with
      | nil => simp [hc] at ha
      | cons e a =>
        obtain rfl : e = '\n' := by simpa using ha
        have h2 := one_le_line_after a
        rw [if_neg (by rw [after_feed]; simp; omega)]
        refine ⟨l, ?_, hd⟩
        rw [List.cons_append, lines_return, ← lines_feed]
        exact hl
    · rw [lines_cons hf hr]
      split
      · rename_i hone
        rw [hone] at hl
        obtain ⟨ls, hls⟩ := List.head?_eq_some_iff.mp (List.head?_eq_getElem?.trans hl)
        exact ⟨d :: l, by simp [hls], by simpa using hd⟩
      · rename_i hone
        obtain ⟨k, hk⟩ : ∃ k, (after a).line = k + 2 := ⟨(after a).line - 2, by omega⟩
        rw [hk] at hl ⊢
        exact ⟨l, by simpa using hl, hd⟩

/-- The word `m` stands in the text `t` at `p`. -/
def StandsAt (t m : List Char) (p : Position) : Prop := ∃ a b, t = a ++ m ++ b ∧ p = (after a).next

/-- The line `l` has the word `m` from the column `i` on. -/
def HasAt (l : List Char) (i : Nat) (m : List Char) : Prop := 1 ≤ i ∧ m <+: l.drop (i - 1)

theorem StandsAt.append {t m : List Char} {p : Position} (h : StandsAt t m p) (u : List Char) :
    StandsAt (t ++ u) m p := by
  obtain ⟨a, b, rfl, hp⟩ := h
  exact ⟨a, b ++ u, by simp, hp⟩

/-- A word is found in its line, at its column. -/
theorem line_of_standsAt {t m : List Char} {p : Position} (h : StandsAt t m p) (hn : m ≠ [])
    (hm : ∀ c ∈ m, c ≠ '\n' ∧ c ≠ '\r') :
    1 ≤ p.line ∧ ∃ l, (lines t)[p.line - 1]? = some l ∧ HasAt l p.column m := by
  obtain ⟨a, b, rfl, rfl⟩ := h
  refine ⟨one_le_line_after a, ?_⟩
  obtain ⟨c, m', rfl⟩ := List.exists_cons_of_ne_nil hn
  have hc : c ≠ '\n' := (hm c List.mem_cons_self).1
  obtain ⟨l, hl, hd⟩ := line_after a hc (m' ++ b)
  refine ⟨l, by rw [List.append_assoc]; exact hl, Nat.le_add_left 1 _, ?_⟩
  show c :: m' <+: l.drop (after a).column
  rw [hd]
  exact prefix_headD_lines hm b

end BracketBalance
