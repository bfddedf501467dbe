/-
  BracketBalance.Proofs.Invariant — what holds of every scan (`Sound`).

  The open brackets are openers, and they stand in the text in the order they are
  kept in, none of them after the cursor. A grammar without brackets keeps none and
  never halts. A backslash hides a character of code only in a grammar that says so,
  and the last significant character is never a blank.

  Proved: one character keeps it (`sound_read`), so every scan has it (`sound_feed`).
-/

import BracketBalance.Proofs.Position
import BracketBalance.Proofs.Step

namespace BracketBalance

namespace Mode

/-- Inside a literal or a comment, a character stays inside or leads back to code. -/
theorem inside_cases {m : Mode} (h : m.inCode = false) (c : Char) :
    m.inside c = .code ∨ (m.inside c).inCode = false := by
  cases m with
  | code => simp [inCode, unfinished] at h
  | hidden => simp [inCode, unfinished] at h
  | slash q => simp [inCode, unfinished] at h
  | literal d start escaped =>
    cases escaped <;> simp only [inside, inLiteral] <;> repeat' split
    all_goals simp [inCode, unfinished]
  | regexOpen start =>
    simp only [inside, inLiteral]
    repeat' split
    all_goals simp [inCode, unfinished]
  | lineComment start =>
    simp only [inside]
    split <;> simp [inCode, unfinished]
  | blockComment start star =>
    simp only [inside]
    split <;> simp [inCode, unfinished]

end Mode

namespace Scanner

variable {g : Grammar} {s : Scanner} {c : Char}

structure Sound (g : Grammar) (s : Scanner) : Prop where
  openers : ∀ f ∈ s.stack, isOpener f.opener = true
  ordered : s.stack.Pairwise fun f k => k.position < f.position
  behind : ∀ f ∈ s.stack, f.position ≤ s.cursor.position
  /-- Where brackets mean nothing, none is kept and nothing goes wrong with one. -/
  inert : g.knowsBrackets = false → s.stack = [] ∧ s.fault = none
  hides : s.mode = .hidden → g.escapesCode = true
  visible : ∀ b, s.before = some b → isBlank b = false

theorem sound_start (g : Grammar) : Sound g start where
  openers := by simp [start]
  ordered := by simp [start]
  behind := by simp [start]
  inert := by simp [start]
  hides := by simp [start]
  visible := by simp [start]

theorem Lexed.hides_of {slash : Option Position} {p : Position} {s' : Scanner} (h : Lexed g s slash p c s')
    (hm : s'.mode = .hidden) : g.escapesCode = true := by
  cases h with
  | hides hg _ _ => exact hg
  | lineComment _ _ _ _ e => simp [e] at hm
  | blockComment _ _ _ e => simp [e] at hm
  | regex _ _ _ _ e => simp [e] at hm
  | division _ _ _ _ e => simp [e] at hm
  | quote _ _ e => simp [e] at hm
  | other _ _ _ _ e => simp [e] at hm

theorem Lexed.before_cases {slash : Option Position} {p : Position} {s' : Scanner} (h : Lexed g s slash p c s') :
    s'.before = s.before ∨ (s'.before = some c ∧ isBlank c = false) := by
  cases h with
  | hides _ _ e => exact .inl (by simp [e])
  | lineComment _ _ _ _ e => exact .inl (by simp [e])
  | blockComment _ _ _ e => exact .inl (by simp [e])
  | regex _ _ _ _ e => exact .inl (by simp [e])
  | division _ hc _ _ e => exact .inr ⟨by simp [e, hc], by subst hc; rfl⟩
  | quote _ _ e => exact .inl (by simp [e])
  | other _ _ _ _ e =>
    cases hb : isBlank c with
    | true => exact .inl (by simp [e, hb])
    | false => exact .inr ⟨by simp [e, hb], rfl⟩

theorem Quiet.hides_of {s' : Scanner} (h : Quiet g s c s') (hs : Sound g s) (hm : s'.mode = .hidden) :
    g.escapesCode = true := by
  cases h with
  | mark _ _ e => exact hs.hides (by simpa [e] using hm)
  | inside hi e =>
    have hm' : s.mode.inside c = .hidden := by simpa [e] using hm
    rcases Mode.inside_cases hi c with h | h
    · rw [hm'] at h; cases h
    · rw [hm'] at h; simp [Mode.inCode, Mode.unfinished] at h
  | hidden _ e => simp [e] at hm
  | lexed _ hl => exact hl.hides_of hm

theorem Quiet.visible_of {s' : Scanner} (h : Quiet g s c s') (hs : Sound g s) {b : Char} (hb : s'.before = some b) :
    isBlank b = false := by
  cases h with
  | mark _ _ e => exact hs.visible b (by simpa [e] using hb)
  | inside _ e => exact hs.visible b (by simpa [e, moved] using hb)
  | hidden _ e => exact hs.visible b (by simpa [e, moved] using hb)
  | lexed _ hl =>
    rcases hl.before_cases with h | ⟨h, hc⟩
    · exact hs.visible b (by rw [← hb, h]; rfl)
    · rw [h] at hb
      cases hb
      exact hc

theorem Sound.behind_advance (h : Sound g s) (c : Char) : ∀ f ∈ s.stack, f.position ≤ (s.cursor.advance c).position :=
  fun f hf => Position.le_trans (h.behind f hf) (s.cursor.position_le_advance c)

/-- The next character stands after every open bracket. -/
theorem Sound.lt_next (h : Sound g s) : ∀ f ∈ s.stack, f.position < s.cursor.next :=
  fun f hf => Position.lt_of_le_of_lt (h.behind f hf) s.cursor.position_lt_next

theorem Sound.quiet {s' : Scanner} (h : Sound g s) (hq : Quiet g s c s') : Sound g s' := by
  obtain ⟨hstack, hfault, -⟩ := hq.frame
  refine ⟨by rw [hstack]; exact h.openers, by rw [hstack]; exact h.ordered, ?_,
    by rw [hstack, hfault]; exact h.inert, hq.hides_of h, fun b => hq.visible_of h⟩
  rw [hstack]
  rcases hq.cursor with ⟨-, -, hk⟩ | hk
  · rw [hk]; exact h.behind
  · rw [hk]; exact h.behind_advance c

/-- The scan after a closer that took the innermost open bracket with it, or found none. -/
theorem Sound.popped (h : Sound g s) (hg : g.knowsBrackets = true) {rest : List Frame} (hr : rest <:+ s.stack)
    {b : Option Char} (hb : ∀ x, b = some x → isBlank x = false) (v : Option Violation) :
    Sound g ⟨.code, b, rest, s.cursor.advance c, false, v⟩ := by
  have hmem : ∀ f ∈ rest, f ∈ s.stack := fun f hf => hr.subset hf
  refine ⟨fun f hf => h.openers f (hmem f hf), h.ordered.sublist hr.sublist,
    fun f hf => h.behind_advance c f (hmem f hf), fun hn => ?_, nofun, hb⟩
  rw [hg] at hn
  cases hn

theorem sound_read (h : Sound g s) (c : Char) : Sound g (s.read g c) := by
  cases hf : s.fault with
  | some v => rw [read_of_fault hf]; exact h
  | none =>
    cases change_read (g := g) (c := c) hf with
    | quiet _ hq => exact h.quiet hq
    | opens hc ho e =>
      rw [e]
      have hnext := s.cursor.next_le_position_advance c
      refine ⟨?_, ?_, ?_, ?_, nofun, ?_⟩
      · exact List.forall_mem_cons.mpr ⟨ho, h.openers⟩
      · exact List.pairwise_cons.mpr ⟨h.lt_next, h.ordered⟩
      · exact List.forall_mem_cons.mpr ⟨hnext, h.behind_advance c⟩
      · intro hn
        rw [hc.1] at hn
        cases hn
      · intro b hb
        cases hb
        exact (ne_of_isBracket hc.2.2).2.1
    | closes f rest hc _ hs _ e =>
      rw [e]
      refine h.popped hc.1 (hs ▸ List.suffix_cons f rest) ?_ none
      intro b hb
      cases hb
      exact (ne_of_isBracket hc.2.2).2.1
    | unmatched hc _ hs e =>
      rw [e]
      exact h.popped hc.1 (List.nil_suffix) h.visible _
    | mismatched f rest hc _ hs _ e =>
      rw [e]
      exact h.popped hc.1 (hs ▸ List.suffix_cons f rest) h.visible _

theorem sound_feed (h : Sound g s) (t : List Char) : Sound g (s.feed g t) := by
  induction t generalizing s with
  | nil => exact h
  | cons c t ih => exact ih (sound_read h c)

theorem sound (g : Grammar) (t : List Char) : Sound g (start.feed g t) := sound_feed (sound_start g) t

theorem sound_opened (g : Grammar) : Sound g opened := (sound_start g).quiet (.mark rfl rfl rfl)

/-- Outside the grammar that escapes code, every character between literals is read as code. -/
theorem Sound.atCode (h : Sound g s) (hg : g.escapesCode = false) (hm : s.mode.inCode = true) : s.atCode := by
  refine ⟨hm, fun hh => ?_⟩
  have := h.hides hh
  rw [hg] at this
  cases this

end Scanner

end BracketBalance
