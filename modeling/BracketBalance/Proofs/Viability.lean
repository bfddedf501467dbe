/-
  BracketBalance.Proofs.Viability — a violation is found neither early nor late.

  As long as a scan has not halted, its text can be completed: `ending` finishes the
  open literal or comment, and `closers` closes what is open. Once it has halted, no
  more text changes what it says. Proved together as `viable`:
  - every text whose scan goes on is the beginning of a text that balances, and what
    is missing is at least a character for every open bracket.
  - every text whose scan halts is beyond repair from the closer on that it blames.
-/

import BracketBalance.Proofs.Diagnosis

namespace BracketBalance

def Mode.ending : Mode → List Char
  | .code => []
  | .hidden => []
  | .slash _ => []
  | .literal d _ false => [d.char]
  /- the backslash takes the first one -/
  | .literal d _ true => [d.char, d.char]
  /- a regex has a body -/
  | .regexOpen _ => [' ', '/']
  | .lineComment _ => ['\n']
  | .blockComment _ _ => ['*', '/']

/-- The closing bracket that a violation is about. -/
def Violation.closer? : Violation → Option Bracket
  | .unmatchedCloser c p => some ⟨c, p⟩
  | .mismatched _ _ c p => some ⟨c, p⟩
  | .unterminatedLiteral _ _ => none
  | .unterminatedBracket _ _ => none

theorem Blames.closer?_eq {r r' : List Bracket} {b : Bracket} {v : Violation} (h : Blames r b v r') :
    v.closer? = some b := by
  cases h with
  | unmatched b => rfl
  | mismatched r o b _ _ => rfl

namespace Scanner

variable {g : Grammar} {s : Scanner} {c : Char}

def closers (s : Scanner) : List Char := s.stack.map fun f => closerOf f.opener

/-! ## The end of a literal -/

theorem read_inside (hf : s.fault = none) (hi : s.mode.inCode = false) (hc : c ≠ byteOrderMark) :
    s.read g c = { s.moved c with mode := s.mode.inside c } := by
  rw [read_eq_take hf (fun h => hc h.2), take_inside hi]

/-- Two characters inside a literal or a comment, of which the first does not end it. -/
theorem feed_inside_two {d : Char} (hf : s.fault = none) (hi : s.mode.inCode = false) (hc : c ≠ byteOrderMark)
    (hi' : (s.mode.inside c).inCode = false) (hd : d ≠ byteOrderMark) :
    s.feed g [c, d] = { (s.moved c).moved d with mode := (s.mode.inside c).inside d } := by
  have hr := read_inside (g := g) hf hi hc
  rw [feed_cons, feed_cons, feed_nil, hr]
  exact read_inside hf hi' hd

theorem feed_ending (hf : s.fault = none) (hi : s.mode.inCode = false) :
    (s.feed g s.mode.ending).mode = .code ∧ (s.feed g s.mode.ending).stack = s.stack
      ∧ (s.feed g s.mode.ending).fault = none := by
  cases hm : s.mode with
  | code => rw [hm] at hi; cases hi
  | hidden => rw [hm] at hi; cases hi
  | slash q => rw [hm] at hi; cases hi
  | literal d start escaped =>
    have hd := d.char_ne_escape
    cases escaped with
    | false =>
      have hr := read_inside (g := g) hf hi d.char_ne_mark
      simp only [Mode.ending, feed_cons, feed_nil, hr]
      simp [hm, Mode.inside, Mode.inLiteral, hd, moved, hf]
    | true =>
      have hi' : (s.mode.inside d.char).inCode = false := by rw [hm]; rfl
      have hr := feed_inside_two (g := g) hf hi d.char_ne_mark hi' d.char_ne_mark
      simp only [Mode.ending, hr]
      simp [hm, Mode.inside, Mode.inLiteral, hd, moved, hf]
  | regexOpen start =>
    have hi' : (s.mode.inside ' ').inCode = false := by rw [hm]; rfl
    have hr := feed_inside_two (g := g) (d := '/') hf hi (by decide) hi' (by decide)
    simp only [Mode.ending, hr]
    simp [hm, Mode.inside, Mode.inLiteral, Delimiter.char, moved, hf]
  | lineComment start =>
    have hr := read_inside (g := g) (c := '\n') hf hi (by decide)
    simp only [Mode.ending, feed_cons, feed_nil, hr]
    simp [hm, Mode.inside, moved, hf]
  | blockComment start star =>
    have hi' : (s.mode.inside '*').inCode = false := by rw [hm]; cases star <;> rfl
    have hr := feed_inside_two (g := g) (d := '/') hf hi (by decide) hi' (by decide)
    simp only [Mode.ending, hr]
    cases star <;> simp [hm, Mode.inside, moved, hf]

theorem ending_of_inCode {m : Mode} (h : m.inCode = true) : m.ending = [] := by
  rcases Mode.inCode_iff.mp h with rfl | rfl | ⟨q, rfl⟩ <;> rfl

/-- After its ending a scan is in code, with the brackets open that were. -/
theorem inCode_ending (hf : s.fault = none) :
    (s.feed g s.mode.ending).mode.inCode = true ∧ (s.feed g s.mode.ending).stack = s.stack
      ∧ (s.feed g s.mode.ending).fault = none := by
  cases hi : s.mode.inCode with
  | true => rw [ending_of_inCode hi]; exact ⟨hi, rfl, hf⟩
  | false =>
    obtain ⟨hm, hrest⟩ := feed_ending (g := g) hf hi
    exact ⟨by rw [hm]; rfl, hrest⟩

/-! ## The closers -/

/-- A scan with an open bracket knows brackets, and reads what it finds in code. -/
theorem counts_closer (hs : Sound g s) (hm : s.mode.inCode = true) {f : Frame} {rest : List Frame}
    (hstack : s.stack = f :: rest) : s.counts g (closerOf f.opener) := by
  have hg : g.knowsBrackets = true := by
    cases hg : g.knowsBrackets with
    | true => rfl
    | false => rw [(hs.inert hg).1] at hstack; cases hstack
  exact ⟨hg, hs.atCode (Grammar.escapesCode_of_knowsBrackets hg) hm, isBracket_of_isCloser (isCloser_closerOf _)⟩

theorem read_closer (hs : Sound g s) (hf : s.fault = none) (hm : s.mode.inCode = true) {f : Frame}
    {rest : List Frame} (hstack : s.stack = f :: rest) :
    (s.read g (closerOf f.opener)).mode = .code ∧ (s.read g (closerOf f.opener)).stack = rest
      ∧ (s.read g (closerOf f.opener)).fault = none := by
  have hc := counts_closer hs hm hstack
  cases change_read (g := g) (c := closerOf f.opener) hf with
  | quiet hn _ => exact absurd hc hn
  | opens _ ho _ =>
    have := isCloser_of_isOpener ho
    rw [isCloser_closerOf] at this
    cases this
  | closes f' rest' _ _ hstack' _ e =>
    rw [hstack] at hstack'
    cases hstack'
    rw [e]
    exact ⟨rfl, rfl, rfl⟩
  | unmatched _ _ hstack' _ => rw [hstack] at hstack'; cases hstack'
  | mismatched f' rest' _ _ hstack' hn _ =>
    rw [hstack] at hstack'
    cases hstack'
    exact absurd rfl hn

/-- In code, the closers of the open brackets are all that is missing. -/
theorem verdict_closers (hs : Sound g s) (hf : s.fault = none) (hm : s.mode.inCode = true) :
    (s.feed g s.closers).verdict g = none := by
  generalize hstack : s.stack = k
  induction k generalizing s with
  | nil =>
    have hc : s.closers = [] := by simp [closers, hstack]
    rw [hc, feed_nil, verdict_of_inCode hf hm]
    exact innermost_eq_none_iff.mpr hstack
  | cons f rest ih =>
    obtain ⟨hm', hstack', hf'⟩ := read_closer hs hf hm hstack
    have hc : s.closers = closerOf f.opener :: (s.read g (closerOf f.opener)).closers := by
      simp [closers, hstack, hstack']
    rw [hc, feed_cons]
    exact ih (sound_read hs _) hf' (by rw [hm']; rfl) hstack'

/-! ## The least that is missing -/

theorem stack_length_read (hf : s.fault = none) : s.stack.length ≤ (s.read g c).stack.length + 1 := by
  cases change_read (g := g) (c := c) hf with
  | quiet _ hq => rw [hq.frame.1]; omega
  | opens _ _ e => simp [e]; omega
  | closes f rest _ _ hstack _ e => simp [e, hstack]
  | unmatched _ _ hstack e => simp [hstack]
  | mismatched f rest _ _ hstack _ e => simp [e, hstack]

theorem stack_length_feed (u : List Char) : s.stack.length ≤ (s.feed g u).stack.length + u.length := by
  induction u generalizing s with
  | nil => simp
  | cons c u ih =>
    have hu := ih (s := s.read g c)
    have hc : s.stack.length ≤ (s.read g c).stack.length + 1 := by
      cases hf : s.fault with
      | some v => rw [read_of_fault hf]; omega
      | none => exact stack_length_read hf
    rw [feed_cons, List.length_cons]
    omega

end Scanner

open Scanner

theorem scan_append (g : Grammar) (t u : List Char) :
    scan g (t ++ u) = ((start.feed g t).feed g u).verdict g := by rw [scan, feed_append]

/-- While a scan goes on, its text can be completed; once it halts, at a closer, nothing after that matters. -/
theorem viable (g : Grammar) (t : List Char) :
    ((start.feed g t).fault = none →
      scan g (t ++ ((start.feed g t).mode.ending ++ (start.feed g t).closers)) = none ∧
      (start.feed g (t ++ (start.feed g t).mode.ending)).mode.inCode = true ∧
      ((start.feed g t).mode.inCode = true → scan g (t ++ (start.feed g t).closers) = none) ∧
      ∀ u, scan g (t ++ u) = none → (start.feed g t).unclosed.length ≤ u.length) ∧
    (∀ v, (start.feed g t).fault = some v →
      (∀ u, scan g (t ++ u) = some v) ∧
      ∃ p c q, t = p ++ c :: q ∧ isCloser c = true ∧ v.closer? = some ⟨c, (start.feed g p).cursor.next⟩ ∧
        (∀ p', p' <+: p → (start.feed g p').fault = none) ∧ (start.feed g (p ++ [c])).fault = some v) := by
  constructor
  · intro hf
    obtain ⟨hm, hstack, hf'⟩ := inCode_ending (g := g) hf
    have hs := sound g t
    refine ⟨?_, by rw [feed_append]; exact hm, fun hc => ?_, fun u hu => ?_⟩
    · have hc : (start.feed g t).closers = ((start.feed g t).feed g (start.feed g t).mode.ending).closers := by
        simp [closers, hstack]
      rw [scan_append, feed_append, hc]
      exact verdict_closers (sound_feed hs _) hf' hm
    · rw [scan_append]
      exact verdict_closers hs hf hc
    · have hlen := stack_length_feed (g := g) (s := start.feed g t) u
      rw [scan_append] at hu
      rw [(of_verdict_eq_none hu).2] at hlen
      simpa [unclosed] using hlen
  · intro v hv
    refine ⟨fun u => by rw [scan_append, feed_of_fault hv, verdict_of_fault hv], ?_⟩
    obtain ⟨p, c, q, rfl, hp, hc, -⟩ := exists_halt rfl hv
    obtain ⟨hcl, -, -, hb, -⟩ := pile_halt (sound g p) hp hc
    exact ⟨p, c, q, rfl, hcl, hb.closer?_eq, fun p' h => fault_before h hp, by rw [feed_snoc]; exact hc⟩

end BracketBalance
