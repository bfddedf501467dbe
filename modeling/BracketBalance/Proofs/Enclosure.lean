/-
  BracketBalance.Proofs.Enclosure — how a literal or a comment is left.

  A scan that is inside a literal or a comment reads on in it (`StaysIn`) until a
  character takes it back to code (`LeavesAt`). Meanwhile nothing but its mode and its
  cursor changes (`StaysIn.feed_eq`, `LeavesAt.feed_eq`).

  What a mode remembers of the text it has read is a function of that text (`Follows`):
  of a string, whether a backslash is pending, of a block comment, whether a star came
  last. Proved for every mode of which that is so: it is left at the first character
  that ends it (`leavesAt_iff`), and stayed in if there is none (`staysIn_iff`).
-/

import BracketBalance.Proofs.Insertion
import Mathlib.Order.Nat

namespace BracketBalance

/-- The place `i` of `t` has a character that `ends` picks, for what stands before it. -/
def PickedAt (ends : List Char → Char → Prop) (t : List Char) (i : Nat) : Prop :=
  ∃ c, t[i]? = some c ∧ ends (t.take i) c

/-- Inside the literal or comment `m`, the mode is `reading u` after the text `u`, until a character that `ends`
    picks. Said of what `t` begins with only. -/
structure Mode.Follows (m : Mode) (t : List Char) (reading : List Char → Mode) (ends : List Char → Char → Prop) :
    Prop where
  first : reading [] = m
  inside : ∀ u, (reading u).inCode = false ∧ (reading u).unfinished = m.unfinished
  stays : ∀ u c, u ++ [c] <+: t → ¬ ends u c → (reading u).inside c = reading (u ++ [c])
  leaves : ∀ u c, u ++ [c] <+: t → ends u c → (reading u).inside c = .code

section

variable {t : List Char} {i : Nat}

theorem take_succ_of_getElem? {c : Char} (h : t[i]? = some c) : t.take (i + 1) = t.take i ++ [c] := by
  rw [List.take_add_one, h]
  rfl

theorem exists_take_succ (h : i < t.length) : ∃ c, t[i]? = some c ∧ t.take (i + 1) = t.take i ++ [c] :=
  ⟨t[i], List.getElem?_eq_getElem h, List.take_succ_eq_append_getElem h⟩

theorem isLeast_of_lt {P : Nat → Prop} (h : P i) (hn : ∀ j < i, ¬ P j) : IsLeast {j | P j} i := by
  refine ⟨h, fun j hj => ?_⟩
  by_contra hlt
  exact hn j (by omega) hj

end

namespace Scanner

variable {g : Grammar} {s : Scanner} {t : List Char} {m : Mode} {i j k : Nat}

def StaysIn (g : Grammar) (s : Scanner) (t : List Char) : Prop :=
  ∀ u, u <+: t → (s.feed g u).mode.unfinished = s.mode.unfinished

/-- The character at `i` is the first of `t` after which the scan is in code again. -/
def LeavesAt (g : Grammar) (s : Scanner) (t : List Char) (i : Nat) : Prop :=
  i < t.length ∧ s.StaysIn g (t.take i) ∧ (s.feed g (t.take (i + 1))).mode = .code

theorem StaysIn.of_prefix {u : List Char} (h : s.StaysIn g t) (hu : u <+: t) : s.StaysIn g u :=
  fun v hv => h v (hv.trans hu)

/-! ## What a literal or a comment leaves as it was -/

theorem feed_snoc_inside (h : s.Going) (he : s.feed g t = s.past t m) (hm : m.inCode = false) (c : Char) :
    s.feed g (t ++ [c]) = s.past (t ++ [c]) (m.inside c) :=
  feed_past he (feed_inside (h.past t m) rfl hm rfl)

theorem StaysIn.feed_eq (h : s.Going) (hi : s.mode.inCode = false) (hs : s.StaysIn g t) :
    ∃ m, s.feed g t = s.past t m ∧ m.inCode = false := by
  induction t using List.reverseRecOn with
  | nil => exact ⟨s.mode, rfl, hi⟩
  | append_singleton t c ih =>
    obtain ⟨m, he, hm⟩ := ih (hs.of_prefix (List.prefix_append t [c]))
    have hc := feed_snoc_inside h he hm c
    have hu := hs _ List.prefix_rfl
    refine ⟨_, hc, ?_⟩
    rw [hc] at hu
    rw [Mode.inCode, show (m.inside c).unfinished = _ from hu]
    exact hi

theorem LeavesAt.feed_eq (h : s.Going) (hi : s.mode.inCode = false) (hl : s.LeavesAt g t i) :
    s.feed g (t.take (i + 1)) = s.past (t.take (i + 1)) .code := by
  obtain ⟨hlt, hs, hc⟩ := hl
  obtain ⟨m, he, hm⟩ := hs.feed_eq h hi
  obtain ⟨c, -, htake⟩ := exists_take_succ hlt
  rw [htake, feed_snoc_inside h he hm] at hc ⊢
  rw [show m.inside c = .code from hc]

/-- The open brackets are the same all through a literal or a comment, its last character included. -/
theorem StaysIn.unclosed (h : s.Going) (hi : s.mode.inCode = false) (hs : s.StaysIn g (t.take i)) :
    (s.feed g (t.take (i + 1))).unclosed = s.unclosed ∧ (s.feed g (t.take (i + 1))).fault = none := by
  obtain ⟨m, he, hm⟩ := hs.feed_eq h hi
  by_cases hlt : i < t.length
  · obtain ⟨c, -, htake⟩ := exists_take_succ hlt
    rw [htake, feed_snoc_inside h he hm]
    exact ⟨rfl, h.1⟩
  · rw [List.take_of_length_le (by omega)] at he ⊢
    rw [he]
    exact ⟨rfl, h.1⟩

/-! ## The first way out -/

theorem LeavesAt.not_staysIn (hi : s.mode.inCode = false) (h : s.LeavesAt g t i) (hj : i < j) :
    ¬ s.StaysIn g (t.take j) := by
  intro hs
  have hu := hs (t.take (i + 1)) (List.take_prefix_take_left (by omega))
  rw [h.2.2] at hu
  rw [Mode.inCode, ← hu] at hi
  cases hi

theorem LeavesAt.unique (hi : s.mode.inCode = false) (h : s.LeavesAt g t i) (h' : s.LeavesAt g t j) : i = j := by
  rcases Nat.lt_trichotomy i j with hij | hij | hij
  · exact absurd h'.2.1 (h.not_staysIn hi hij)
  · exact hij
  · exact absurd h.2.1 (h'.not_staysIn hi hij)

variable {reading : List Char → Mode} {ends : List Char → Char → Prop}

/-- As long as no character is picked, the mode is that of the text read. -/
theorem feed_follows (h : s.Going) (hf : s.mode.Follows t reading ends) (hk : k ≤ t.length)
    (hn : ∀ j < k, ¬ PickedAt ends t j) : s.feed g (t.take k) = s.past (t.take k) (reading (t.take k)) := by
  induction k with
  | zero =>
    rw [List.take_zero, hf.first]
    rfl
  | succ k ih =>
    obtain ⟨c, hc, htake⟩ := exists_take_succ (show k < t.length by omega)
    have hp : t.take k ++ [c] <+: t := htake ▸ List.take_prefix _ t
    have hstep := hf.stays _ c hp fun he => hn k (by omega) ⟨c, hc, he⟩
    have hread := ih (by omega) fun j hj => hn j (by omega)
    rw [htake, feed_snoc_inside h hread (hf.inside _).1, hstep]

theorem staysIn_take (h : s.Going) (hf : s.mode.Follows t reading ends) (hk : k ≤ t.length)
    (hn : ∀ j < k, ¬ PickedAt ends t j) : s.StaysIn g (t.take k) := by
  intro u hu
  have hlen := hu.length_le
  rw [List.length_take] at hlen
  have htake : u = t.take u.length := List.prefix_iff_eq_take.mp (hu.trans (List.take_prefix k t))
  rw [htake, feed_follows h hf (by omega) fun j hj => hn j (by omega)]
  exact (hf.inside _).2

theorem leavesAt_of_isLeast (h : s.Going) (hf : s.mode.Follows t reading ends)
    (hl : IsLeast {i | PickedAt ends t i} i) : s.LeavesAt g t i := by
  obtain ⟨⟨c, hc, he⟩, hleast⟩ := hl
  have hlt : i < t.length := (List.getElem?_eq_some_iff.mp hc).1
  have hn : ∀ j < i, ¬ PickedAt ends t j := fun j hj hp => absurd (hleast hp) (by omega)
  have htake := take_succ_of_getElem? hc
  have hp : t.take i ++ [c] <+: t := htake ▸ List.take_prefix _ t
  refine ⟨hlt, staysIn_take h hf (by omega) hn, ?_⟩
  rw [htake, feed_snoc_inside h (feed_follows h hf (by omega) hn) (hf.inside _).1]
  exact hf.leaves _ c hp he

/-- A literal or comment is left at the first character that ends it. -/
theorem leavesAt_iff (h : s.Going) (hf : s.mode.Follows t reading ends) :
    s.LeavesAt g t i ↔ IsLeast {i | PickedAt ends t i} i := by
  classical
  have hi : s.mode.inCode = false := hf.first ▸ (hf.inside []).1
  constructor
  · intro hl
    by_cases hp : ∃ j, PickedAt ends t j
    · have hleast := Nat.isLeast_find hp
      rwa [hl.unique hi (leavesAt_of_isLeast h hf hleast)]
    · have hs := staysIn_take (g := g) h hf (Nat.le_refl _) fun j _ hj => hp ⟨j, hj⟩
      exact absurd hs (hl.not_staysIn hi hl.1)
  · exact leavesAt_of_isLeast h hf

theorem staysIn_iff (h : s.Going) (hf : s.mode.Follows t reading ends) :
    s.StaysIn g t ↔ ∀ i, ¬ PickedAt ends t i := by
  classical
  have hi : s.mode.inCode = false := hf.first ▸ (hf.inside []).1
  constructor
  · intro hs i hp
    have hl := leavesAt_of_isLeast (g := g) h hf (Nat.isLeast_find ⟨i, hp⟩)
    exact hl.not_staysIn hi (Nat.lt_succ_self _) (hs.of_prefix (List.take_prefix _ t))
  · intro hn
    have hs := staysIn_take (g := g) h hf (Nat.le_refl _) fun j _ => hn j
    rwa [List.take_length] at hs

end Scanner

end BracketBalance
