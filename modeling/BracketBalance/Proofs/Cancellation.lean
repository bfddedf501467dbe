/-
  BracketBalance.Proofs.Cancellation — words of brackets, and the pairs in them.

  Two neighbours of a word are a pair when the second closes the first. `Remains w r`
  says that r is what is left of w when neighbours that are a pair have gone, in any
  order, until there are none; `Nested w` that w is well nested.

  `push` is the same with a stack: a bracket that closes the last one takes it away,
  and every other one is put on top. Proved:
  - `remains_iff`: the stack is what remains, so nothing else does.
  - `nested_iff`: a word is well nested when its stack is empty.
  - `isOpener_of_foldl_push`: a closer that is left once is left for good.

  `sym` is the character of a letter of the word, which may hold more than that.
-/

import BracketBalance.Proofs.Step
import Mathlib.Data.List.Chain
import Mathlib.Logic.Relation

namespace BracketBalance

variable {α : Type} (sym : α → Char)

def Pair (x y : α) : Prop := isOpener (sym x) = true ∧ closerOf (sym x) = sym y

instance (x y : α) : Decidable (Pair sym x y) := inferInstanceAs (Decidable (_ ∧ _))

inductive Cancels : List α → List α → Prop
  | pair (u v : List α) {x y : α} : Pair sym x y → Cancels (u ++ x :: y :: v) (u ++ v)

def Remains (w r : List α) : Prop := Relation.ReflTransGen (Cancels sym) w r ∧ ∀ r', ¬ Cancels sym r r'

inductive Nested : List α → Prop
  | nil : Nested []
  | pair {x y : α} {u v : List α} : Pair sym x y → Nested u → Nested v → Nested (x :: (u ++ y :: v))

/-- One more bracket on the stack, whose top is the last one. -/
def push : List α → α → List α
  | [], y => [y]
  | x :: k, y => if Pair sym x y then k else y :: x :: k

variable {sym}

theorem isCloser_of_pair {x y : α} (h : Pair sym x y) : isCloser (sym y) = true := by
  rw [← h.2]
  exact isCloser_closerOf _

theorem push_pair {x y : α} (h : Pair sym x y) (k : List α) : push sym (x :: k) y = k := if_pos h

theorem push_not_pair {x y : α} (h : ¬ Pair sym x y) (k : List α) : push sym (x :: k) y = y :: x :: k := if_neg h

theorem push_opener {x : α} (h : isOpener (sym x) = true) (k : List α) : push sym k x = x :: k := by
  cases k with
  | nil => rfl
  | cons z k =>
    refine push_not_pair (fun hp => ?_) k
    have := isCloser_of_pair hp
    rw [isCloser_of_isOpener h] at this
    cases this

theorem push_push {x y : α} (h : Pair sym x y) (k : List α) : push sym (push sym k x) y = k := by
  rw [push_opener h.1, push_pair h]

/-! ## What remains -/

theorem foldl_push_of_cancels {w w' : List α} (h : Cancels sym w w') (k : List α) :
    w.foldl (push sym) k = w'.foldl (push sym) k := by
  obtain ⟨u, v, hp⟩ := h
  rw [List.foldl_append, List.foldl_append, List.foldl_cons, List.foldl_cons, push_push hp]

theorem foldl_push_of_reflTransGen {w w' : List α} (h : Relation.ReflTransGen (Cancels sym) w w') (k : List α) :
    w.foldl (push sym) k = w'.foldl (push sym) k := by
  induction h with
  | refl => rfl
  | tail _ hc ih => rw [ih, foldl_push_of_cancels hc]

theorem not_cancels_iff {w : List α} : (∀ w', ¬ Cancels sym w w') ↔ w.IsChain (fun x y => ¬ Pair sym x y) := by
  rw [List.isChain_iff_forall_rel_of_append_cons_cons]
  constructor
  · intro h x y u v hw hp
    subst hw
    exact h _ (.pair u v hp)
  · intro h w' hc
    obtain ⟨u, v, hp⟩ := hc
    exact h rfl hp

/-- A stack holds no pair, from the last bracket to the first. -/
def Settled (sym : α → Char) (k : List α) : Prop := k.IsChain fun y x => ¬ Pair sym x y

theorem settled_push {k : List α} (h : Settled sym k) (y : α) : Settled sym (push sym k y) := by
  cases k with
  | nil => exact List.isChain_singleton y
  | cons x k =>
    by_cases hp : Pair sym x y
    · rw [push_pair hp]
      exact h.tail
    · rw [push_not_pair hp]
      exact List.isChain_cons_cons.mpr ⟨hp, h⟩

theorem settled_foldl {k : List α} (h : Settled sym k) (w : List α) : Settled sym (w.foldl (push sym) k) := by
  induction w generalizing k with
  | nil => exact h
  | cons y w ih => exact ih (settled_push h y)

/-- The stack under a word, read from its first bracket, comes of the word by cancelling. -/
theorem cancels_foldl (w k : List α) :
    Relation.ReflTransGen (Cancels sym) (k.reverse ++ w) (w.foldl (push sym) k).reverse := by
  induction w generalizing k with
  | nil => rw [List.append_nil]; exact .refl
  | cons y w ih =>
    have hstep : Relation.ReflTransGen (Cancels sym) (k.reverse ++ y :: w) ((push sym k y).reverse ++ w) := by
      cases k with
      | nil => exact .refl
      | cons x k =>
        by_cases hp : Pair sym x y
        · rw [push_pair hp, List.reverse_cons, List.append_assoc]
          exact .single (.pair k.reverse w hp)
        · rw [push_not_pair hp, List.reverse_cons (a := y), List.append_assoc]
          exact .refl
    exact hstep.trans (ih _)

/-- A word without pairs goes on the stack as it is. -/
theorem foldl_push_of_chain {w k : List α} (h : Settled sym (w.reverse ++ k)) :
    w.foldl (push sym) k = w.reverse ++ k := by
  induction w generalizing k with
  | nil => rfl
  | cons y w ih =>
    have hk : push sym k y = y :: k := by
      cases k with
      | nil => rfl
      | cons x k =>
        refine push_not_pair ?_ k
        rw [List.reverse_cons, List.append_assoc] at h
        exact (List.isChain_cons_cons.mp (h.right_of_append)).1
    rw [List.foldl_cons, hk, ih (by simpa using h)]
    simp

/-- What remains of a word is its stack, and nothing else. -/
theorem remains_iff {w r : List α} : Remains sym w r ↔ r = (w.foldl (push sym) []).reverse := by
  constructor
  · intro h
    obtain ⟨hw, hr⟩ := h
    have hs : Settled sym r.reverse := List.isChain_reverse.mpr (not_cancels_iff.mp hr)
    rw [foldl_push_of_reflTransGen hw, foldl_push_of_chain (by simpa using hs)]
    simp
  · intro hr
    subst hr
    refine ⟨cancels_foldl w [], not_cancels_iff.mpr ?_⟩
    exact List.isChain_reverse.mpr (settled_foldl List.isChain_nil w)

/-! ## Nesting -/

theorem foldl_push_of_nested {w : List α} (h : Nested sym w) (k : List α) : w.foldl (push sym) k = k := by
  induction h generalizing k with
  | nil => rfl
  | pair hp _ _ ihu ihv =>
    rw [List.foldl_cons, List.foldl_append, List.foldl_cons, ihu, push_push hp, ihv]

/-- A word that closes every bracket of a stack, with well nested words between. -/
def Unwinds (sym : α → Char) : List α → List α → Prop
  | [], w => Nested sym w
  | x :: k, w => ∃ u y v, w = u ++ y :: v ∧ Pair sym x y ∧ Nested sym u ∧ Unwinds sym k v

theorem unwinds_nested {x y : α} {u : List α} (hp : Pair sym x y) (hu : Nested sym u) {k v : List α}
    (h : Unwinds sym k v) : Unwinds sym k (x :: (u ++ y :: v)) := by
  cases k with
  | nil => exact .pair hp hu h
  | cons z k =>
    obtain ⟨u', y', v', rfl, hp', hu', hv'⟩ := h
    exact ⟨x :: (u ++ y :: u'), y', v', by simp, hp', .pair hp hu hu', hv'⟩

theorem unwinds_of_foldl {w k : List α} (h : w.foldl (push sym) k = []) : Unwinds sym k w := by
  induction w generalizing k with
  | nil =>
    obtain rfl : k = [] := h
    exact .nil
  | cons y w ih =>
    have hy := ih (k := push sym k y) h
    -- what is pushed is closed again inside the word, or it closes the top of the stack
    have pushed : ∀ {k' : List α}, Unwinds sym (y :: k') w → Unwinds sym k' (y :: w) := by
      intro k' hk
      obtain ⟨u, z, v, rfl, hp, hu, hv⟩ := hk
      exact unwinds_nested hp hu hv
    cases k with
    | nil => exact pushed hy
    | cons x k =>
      by_cases hp : Pair sym x y
      · rw [push_pair hp] at hy
        exact ⟨[], y, w, rfl, hp, .nil, hy⟩
      · rw [push_not_pair hp] at hy
        exact pushed hy

/-- A word is well nested when its stack is empty. -/
theorem nested_iff {w : List α} : Nested sym w ↔ w.foldl (push sym) [] = [] :=
  ⟨fun h => foldl_push_of_nested h [], unwinds_of_foldl⟩

/-- A closer that is left once is left for good. -/
theorem isOpener_of_foldl_push {w k : List α} (h : w.foldl (push sym) k = []) : ∀ x ∈ k, isOpener (sym x) = true := by
  have hu := unwinds_of_foldl h
  clear h
  induction k generalizing w with
  | nil => simp
  | cons x k ih =>
    obtain ⟨u, y, v, -, hp, -, hv⟩ := hu
    exact List.forall_mem_cons.mpr ⟨hp.1, ih hv⟩

end BracketBalance
