/-
  BracketBalance.Proofs.Diagnosis — what a scan reports, from its brackets alone.

  `codeBrackets` are the brackets of a text that are read as code, with their places.
  What remains of them when pairs next to each other have gone (`Remains`) says all
  that the stack of a scan says, in a grammar that knows brackets:
  - `remains_codeBrackets`: while nothing is wrong, it is the open brackets.
  - `diagnosis`: a scan halts at the first closer that remains, and what remained
    before it says which violation that is (`Blames`). If no closer ever remains, the
    text ends in an open literal, or with what remains still open, or balanced.
-/

import BracketBalance.Proofs.Cancellation
import BracketBalance.Proofs.Origin

namespace BracketBalance

/-- A bracket of a text, and where it stands. -/
structure Bracket where
  char : Char
  position : Position
  deriving DecidableEq, Repr

def Frame.bracket (f : Frame) : Bracket := ⟨f.opener, f.position⟩

/-- The violation that the closer `b` is when `r` is open, and what is open after it. -/
inductive Blames : List Bracket → Bracket → Violation → List Bracket → Prop
  | unmatched (b : Bracket) : Blames [] b (.unmatchedCloser b.char b.position) []
  | mismatched (r : List Bracket) (o b : Bracket) : closerOf o.char ≠ b.char → o.position < b.position →
      Blames (r ++ [o]) b (.mismatched o.char o.position b.char b.position) r

namespace Scanner

variable {g : Grammar} {s : Scanner} {c : Char}

/-- The next character as a bracket of code, if it is one. -/
def sighted (s : Scanner) (c : Char) : List Bracket :=
  if s.fault = none ∧ s.mode.inCode = true ∧ isBracket c = true then [⟨c, s.cursor.next⟩] else []

def brackets (g : Grammar) : Scanner → List Char → List Bracket
  | _, [] => []
  | s, c :: t => s.sighted c ++ (s.read g c).brackets g t

def opens (s : Scanner) : List Bracket := s.unclosed.map Frame.bracket

end Scanner

/-- The brackets of a text that are read while it is code, up to the one that halts the scan. -/
def codeBrackets (g : Grammar) (t : List Char) : List Bracket := Scanner.start.brackets g t

/-- A closer remains of the brackets of a text. -/
def Stuck (g : Grammar) (t : List Char) : Prop :=
  ∃ r, Remains Bracket.char (codeBrackets g t) r ∧ ∃ b ∈ r, isCloser b.char = true

namespace Scanner

variable {g : Grammar} {s : Scanner} {c : Char}

theorem brackets_append (t u : List Char) : s.brackets g (t ++ u) = s.brackets g t ++ (s.feed g t).brackets g u := by
  induction t generalizing s with
  | nil => rfl
  | cons c t ih => simp only [List.cons_append, brackets, feed_cons, ih, List.append_assoc]

theorem codeBrackets_snoc (t : List Char) (c : Char) :
    codeBrackets g (t ++ [c]) = codeBrackets g t ++ (start.feed g t).sighted c := by
  rw [codeBrackets, brackets_append]
  simp [codeBrackets, brackets]

theorem counts_iff (hs : Sound g s) (hg : g ≠ .templates) :
    s.counts g c ↔ s.mode.inCode = true ∧ isBracket c = true := by
  have hk : g.knowsBrackets = true := Grammar.knowsBrackets_of_ne hg
  constructor
  · intro h
    obtain ⟨-, ha, hb⟩ := h
    exact ⟨ha.1, hb⟩
  · intro h
    obtain ⟨hm, hb⟩ := h
    exact ⟨hk, hs.atCode (Grammar.escapesCode_of_knowsBrackets hk) hm, hb⟩

theorem sighted_of_counts (hf : s.fault = none) (h : s.counts g c) : s.sighted c = [⟨c, s.cursor.next⟩] :=
  if_pos ⟨hf, h.2.1.1, h.2.2⟩

theorem sighted_of_not_counts (hs : Sound g s) (hg : g ≠ .templates) (h : ¬ s.counts g c) : s.sighted c = [] := by
  refine if_neg fun hc => h ?_
  exact (counts_iff hs hg).mpr hc.2

/-! ## The stack -/

def pile (s : Scanner) : List Bracket := s.stack.map Frame.bracket

theorem opens_eq (s : Scanner) : s.opens = s.pile.reverse := by simp [opens, pile, unclosed]

theorem pile_read (hs : Sound g s) (hg : g ≠ .templates) (hf : s.fault = none) (hf' : (s.read g c).fault = none) :
    (s.read g c).pile = (s.sighted c).foldl (push Bracket.char) s.pile := by
  cases change_read (g := g) (c := c) hf with
  | quiet hc hq =>
    rw [sighted_of_not_counts hs hg hc, pile, hq.frame.1]
    rfl
  | opens hc ho e =>
    rw [sighted_of_counts hf hc, e]
    exact (@push_opener _ Bracket.char ⟨c, s.cursor.next⟩ ho s.pile).symm
  | closes f rest hc _ hstack hm e =>
    have hp : Pair Bracket.char f.bracket ⟨c, s.cursor.next⟩ := ⟨hs.openers f (by simp [hstack]), hm⟩
    rw [sighted_of_counts hf hc, e]
    simp only [pile, hstack, List.map_cons, List.foldl_cons, List.foldl_nil, push_pair hp]
  | unmatched _ _ _ e => rw [e] at hf'; cases hf'
  | mismatched _ _ _ _ _ _ e => rw [e] at hf'; cases hf'

/-- A halt, from the brackets: the closer that remains, what it is blamed for, and what stays open. -/
theorem pile_halt (hs : Sound g s) (hf : s.fault = none) {v : Violation} (hv : (s.read g c).fault = some v) :
    isCloser c = true ∧ s.sighted c = [⟨c, s.cursor.next⟩]
      ∧ push Bracket.char s.pile ⟨c, s.cursor.next⟩ = ⟨c, s.cursor.next⟩ :: s.pile
      ∧ Blames s.opens ⟨c, s.cursor.next⟩ v (s.read g c).opens ∧ (s.read g c).cursor.position = v.position := by
  have hk : isCloser c = true → (s.cursor.advance c).position = s.cursor.next := fun hc =>
    Cursor.position_advance (ne_of_isBracket (isBracket_of_isCloser hc)).2.2.2.2.2.1 _
  cases change_read (g := g) (c := c) hf with
  | quiet _ hq => rw [hq.frame.2.1, hf] at hv; cases hv
  | opens _ _ e => rw [e] at hv; cases hv
  | closes _ _ _ _ _ _ e => rw [e] at hv; cases hv
  | unmatched hc hcl hstack e =>
    rw [e] at hv ⊢
    cases hv
    refine ⟨hcl, sighted_of_counts hf hc, ?_, ?_, hk hcl⟩
    · simp [pile, hstack, push]
    · have : s.opens = [] := by simp [opens, unclosed, hstack]
      rw [this]
      exact .unmatched _
  | mismatched f rest hc hcl hstack hm e =>
    rw [e] at hv ⊢
    cases hv
    have hmem : f ∈ s.stack := by simp [hstack]
    have hp : ¬ Pair Bracket.char f.bracket ⟨c, s.cursor.next⟩ := fun h => hm h.2
    refine ⟨hcl, sighted_of_counts hf hc, ?_, ?_, hk hcl⟩
    · simp only [pile, hstack, List.map_cons, push_not_pair hp]
    · have : s.opens = (rest.map Frame.bracket).reverse ++ [f.bracket] := by simp [opens, unclosed, hstack]
      rw [this, opens, unclosed, List.map_reverse]
      exact Blames.mismatched _ f.bracket ⟨c, s.cursor.next⟩ hm (hs.lt_next f hmem)

theorem pile_feed (hg : g ≠ .templates) (t : List Char) (hf : (start.feed g t).fault = none) :
    (start.feed g t).pile = (codeBrackets g t).foldl (push Bracket.char) [] := by
  induction t using List.reverseRecOn with
  | nil => rfl
  | append_singleton t c ih =>
    rw [feed_snoc] at hf ⊢
    have hf0 : (start.feed g t).fault = none := fault_of_feed (t := [c]) hf
    rw [codeBrackets_snoc, List.foldl_append, ← ih hf0]
    exact pile_read (sound g t) hg hf0 hf

theorem remains_codeBrackets (hg : g ≠ .templates) {t : List Char} (hf : (start.feed g t).fault = none)
    {r : List Bracket} : Remains Bracket.char (codeBrackets g t) r ↔ r = (start.feed g t).opens := by
  rw [remains_iff, ← pile_feed hg t hf, opens_eq]

theorem isOpener_of_mem_opens (hs : Sound g s) : ∀ b ∈ s.opens, isOpener b.char = true := by
  intro b hb
  obtain ⟨f, hf, rfl⟩ := List.mem_map.mp hb
  exact hs.openers f (List.mem_reverse.mp hf)

theorem not_stuck_of_fault (hg : g ≠ .templates) {t : List Char} (hf : (start.feed g t).fault = none) :
    ¬ Stuck g t := by
  intro h
  obtain ⟨r, hr, b, hb, hc⟩ := h
  obtain rfl := (remains_codeBrackets hg hf).mp hr
  rw [isCloser_of_isOpener (isOpener_of_mem_opens (sound g t) b hb)] at hc
  cases hc

/-- At the character that halts the scan, what remained and the closer remain. -/
theorem remains_halt (hg : g ≠ .templates) {p : List Char} (hf : (start.feed g p).fault = none) {v : Violation}
    (hv : ((start.feed g p).read g c).fault = some v) :
    Remains Bracket.char (codeBrackets g (p ++ [c]))
      ((start.feed g p).opens ++ [⟨c, (start.feed g p).cursor.next⟩]) := by
  obtain ⟨-, hsight, hpush, -⟩ := pile_halt (sound g p) hf hv
  rw [remains_iff, codeBrackets_snoc, List.foldl_append, ← pile_feed hg p hf, hsight, List.foldl_cons, List.foldl_nil,
    hpush, List.reverse_cons, opens_eq]

theorem stuck_halt (hg : g ≠ .templates) {p : List Char} (hf : (start.feed g p).fault = none) {v : Violation}
    (hv : ((start.feed g p).read g c).fault = some v) : Stuck g (p ++ [c]) :=
  ⟨_, remains_halt hg hf hv, ⟨c, (start.feed g p).cursor.next⟩, by simp, (pile_halt (sound g p) hf hv).1⟩

theorem fault_iff_stuck (hg : g ≠ .templates) (t : List Char) :
    (start.feed g t).fault ≠ none ↔ ∃ p, p <+: t ∧ Stuck g p := by
  constructor
  · intro h
    obtain ⟨v, hv⟩ := Option.ne_none_iff_exists'.mp h
    obtain ⟨p, c, q, rfl, hp, hc, -⟩ := exists_halt rfl hv
    exact ⟨p ++ [c], ⟨q, by simp⟩, stuck_halt hg hp hc⟩
  · intro h hf
    obtain ⟨p, hp, hs⟩ := h
    exact not_stuck_of_fault hg (fault_before hp hf) hs

theorem verdict_of_no_fault (hg : g ≠ .templates) (hf : s.fault = none) :
    s.verdict g = match s.mode.unfinished with
      | some (kind, start) => some (.unterminatedLiteral kind start)
      | none => s.opens.getLast?.map fun b => .unterminatedBracket b.char b.position := by
  have hi : s.innermost = s.opens.getLast?.map fun b => .unterminatedBracket b.char b.position := by
    cases hs : s.stack <;> simp [innermost, opens, unclosed, hs, Frame.bracket]
  rw [← hi]
  simp only [verdict, hf]
  split <;> simp_all

end Scanner

open Scanner

/-- What the brackets of `t` say of the scan of `t`. -/
structure Diagnosed (g : Grammar) (t : List Char) : Prop where
  /-- While nothing is wrong, the open brackets are what remains of the brackets read. -/
  remains : (start.feed g t).fault = none →
    ∀ r, Remains Bracket.char (codeBrackets g t) r ↔ r = (start.feed g t).opens
  openers : (start.feed g t).fault = none → ∀ b ∈ (start.feed g t).opens, isOpener b.char = true
  ordered : (start.feed g t).fault = none → (start.feed g t).opens.Pairwise fun a b => a.position < b.position
  halts : (start.feed g t).fault ≠ none ↔ ∃ p, p <+: t ∧ Stuck g p
  /-- The shortest text of which a closer remains says what is wrong. -/
  blames : ∀ v, (start.feed g t).fault = some v → ∃ p c q r, t = p ++ c :: q ∧ isCloser c = true ∧
    (∀ p', p' <+: p → ¬ Stuck g p') ∧ Remains Bracket.char (codeBrackets g p) r ∧
    Remains Bracket.char (codeBrackets g (p ++ [c])) (r ++ [⟨c, (start.feed g p).cursor.next⟩]) ∧
    Blames r ⟨c, (start.feed g p).cursor.next⟩ v (start.feed g t).opens ∧
    (start.feed g t).cursor.position = v.position
  verdict : (start.feed g t).fault = none → scan g t = match (start.feed g t).mode.unfinished with
    | some (kind, st) => some (.unterminatedLiteral kind st)
    | none => (start.feed g t).opens.getLast?.map fun b => .unterminatedBracket b.char b.position
  origin : (start.feed g t).fault = none → ∀ kind st,
    (start.feed g t).mode.unfinished = some (kind, st) → OpenSince g t kind st

theorem diagnosis {g : Grammar} (hg : g ≠ .templates) (t : List Char) : Diagnosed g t where
  remains hf _ := remains_codeBrackets hg hf
  openers _ := isOpener_of_mem_opens (sound g t)
  ordered _ := List.pairwise_map.mpr (List.pairwise_reverse.mpr (sound g t).ordered)
  halts := fault_iff_stuck hg t
  blames v hv := by
    obtain ⟨p, c, q, rfl, hp, hc, he⟩ := exists_halt rfl hv
    obtain ⟨hcl, -, -, hb, hk⟩ := pile_halt (sound g p) hp hc
    refine ⟨p, c, q, (start.feed g p).opens, rfl, hcl, fun p' h => ?_, ?_, remains_halt hg hp hc, ?_, ?_⟩
    · exact not_stuck_of_fault hg (fault_before h hp)
    · exact (remains_codeBrackets hg hp).mpr rfl
    · rw [he]; exact hb
    · rw [he]; exact hk
  verdict hf := verdict_of_no_fault hg hf
  origin hf _ _ h := openSince_of_unfinished hf h

/-- An opener in a string, a pair, and a closer that does not close what is left. -/
theorem diagnosis_of_mismatch :
    Grammar.full ≠ .templates ∧ Diagnosed .full "f('[', \x7b(a) / b\n]".toList
      ∧ scan .full "f('[', \x7b(a) / b\n]".toList = some (.mismatched '{' ⟨1, 8⟩ ']' ⟨2, 1⟩) :=
  ⟨by decide, diagnosis (by decide) _, by decide⟩

end BracketBalance
