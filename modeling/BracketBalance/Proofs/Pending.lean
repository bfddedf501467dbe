/-
  BracketBalance.Proofs.Pending — where that was read which a scan has yet to finish.

  The mode of a scan keeps at most one place: of a slash in code, or of the start of a
  literal or a comment. It comes after the open brackets and not after the cursor, and a
  slash of which it is not yet known what it is, is the last character read (`Rooted`).
  What halts a scan was read last, too (`Halted`).

  One character keeps that (`rooted_read`), so every text does (`rooted`).
-/

import BracketBalance.Proofs.Invariant
import Mathlib.Data.List.Induction

namespace BracketBalance

namespace Mode

/-- The place that the mode keeps: of a slash in code, or of the start of a literal or a comment. -/
def place? : Mode → Option Position
  | code | hidden => none
  | slash q => some q
  | literal _ start _ | regexOpen start | lineComment start | blockComment start _ => some start

/-- The place of a slash that the next character may make the start of a comment. -/
def pending? : Mode → Option Position
  | slash q | regexOpen q => some q
  | _ => none

variable {m : Mode} {q : Position}

theorem place?_of_pending? (h : m.pending? = some q) : m.place? = some q := by
  cases m with
  | slash q' => exact h
  | regexOpen start => exact h
  | _ => cases h

theorem pending?_of_slash? (h : m.slash? = some q) : m.pending? = some q := by
  rw [Scanner.mode_of_slash? h]
  rfl

/-- Inside a literal or a comment, a character leads back to code, or its start stays in mind and no slash does. -/
theorem inside_place? (h : m.inCode = false) (c : Char) :
    m.inside c = code ∨ (m.inside c).place? = m.place? ∧ (m.inside c).pending? = none := by
  cases m with
  | code => cases h
  | hidden => cases h
  | slash q => cases h
  | literal d start escaped =>
    cases escaped with
    | true => exact .inr ⟨rfl, rfl⟩
    | false =>
      simp only [inside, inLiteral]
      repeat' split
      · exact .inr ⟨rfl, rfl⟩
      · exact .inl rfl
      · exact .inr ⟨rfl, rfl⟩
  | regexOpen start =>
    simp only [inside, inLiteral]
    repeat' split
    · exact .inr ⟨rfl, rfl⟩
    · exact .inr ⟨rfl, rfl⟩
    · exact .inr ⟨rfl, rfl⟩
    · exact .inl rfl
    · exact .inr ⟨rfl, rfl⟩
  | lineComment start =>
    simp only [inside]
    split
    · exact .inl rfl
    · exact .inr ⟨rfl, rfl⟩
  | blockComment start star =>
    simp only [inside]
    split
    · exact .inl rfl
    · exact .inr ⟨rfl, rfl⟩

end Mode

/-- What is left of a scan that has halted at a violation: the closer stands `here`, where the last character read
    does, and the bracket that it was compared with is gone from the `stack`. -/
inductive Halted (stack : List Frame) (here : Position) : Violation → Prop
  | unmatched (c : Char) : isCloser c = true → stack = [] → Halted stack here (.unmatchedCloser c here)
  | mismatched (o : Char) (p : Position) (c : Char) : isOpener o = true → isCloser c = true → closerOf o ≠ c →
      (∀ f ∈ stack, f.position < p) → p < here → Halted stack here (.mismatched o p c here)

namespace Scanner

variable {g : Grammar} {s : Scanner} {c : Char}

/-! ## Where what is pending was read -/

structure Rooted (s : Scanner) : Prop where
  after : ∀ q, s.mode.place? = some q → (∀ f ∈ s.stack, f.position < q) ∧ q ≤ s.cursor.position
  last : ∀ q, s.mode.pending? = some q → q = s.cursor.position
  divides : ∀ q, s.mode.slash? = some q → s.before = some '/'
  unquoted : ∀ b, s.before = some b → Delimiter.ofChar? b = none
  halted : ∀ v, s.fault = some v → s.mode = .code ∧ Halted s.stack s.cursor.position v

theorem rooted_start : Rooted start := ⟨nofun, nofun, nofun, nofun, nofun⟩

/-- In code, with no slash pending, there is no place to keep. -/
theorem rooted_of_no_place (hm : s.mode.place? = none) (hb : ∀ b, s.before = some b → Delimiter.ofChar? b = none)
    (hf : ∀ v, s.fault = some v → s.mode = .code ∧ Halted s.stack s.cursor.position v) : s.Rooted := by
  have hnone : ∀ q, s.mode.place? ≠ some q := fun q h => by rw [hm] at h; cases h
  refine ⟨fun q h => absurd h (hnone q), fun q h => ?_, fun q h => ?_, hb, hf⟩
  · exact absurd (Mode.place?_of_pending? h) (hnone q)
  · exact absurd (Mode.place?_of_pending? (Mode.pending?_of_slash? h)) (hnone q)

/-- A place that comes after the open brackets and is not past the next character still does when that is read. -/
theorem Rooted.after_advance (h : s.Rooted) {q : Position} (hq : s.mode.place? = some q) (c : Char) :
    (∀ f ∈ s.stack, f.position < q) ∧ q ≤ (s.cursor.advance c).position :=
  ⟨(h.after q hq).1, Position.le_trans (h.after q hq).2 (s.cursor.position_le_advance c)⟩

theorem Sound.after_next (hs : Sound g s) (c : Char) :
    (∀ f ∈ s.stack, f.position < s.cursor.next) ∧ s.cursor.next ≤ (s.cursor.advance c).position :=
  ⟨hs.lt_next, s.cursor.next_le_position_advance c⟩

/-- A mode that keeps the place `q`, with no slash pending. -/
theorem Rooted.goTo (h : s.Rooted) (hf : s.fault = none) {m : Mode} {q : Position} (hm : m.pending? = none)
    (hp : m.place? = some q) (hq : (∀ f ∈ s.stack, f.position < q) ∧ q ≤ (s.cursor.advance c).position) :
    Rooted { s.moved c with mode := m } := by
  refine ⟨fun q' hq' => ?_, fun q' hq' => ?_, fun q' hq' => ?_, h.unquoted, fun v hv => ?_⟩
  · obtain rfl : q = q' := Option.some.inj (hp.symm.trans hq')
    exact hq
  · rw [show m.pending? = some q' from hq'] at hm
    cases hm
  · rw [Mode.pending?_of_slash? (show m.slash? = some q' from hq')] at hm
    cases hm
  · rw [show s.fault = some v from hv] at hf
    cases hf

theorem Rooted.lexed {s' : Scanner} (h : s.Rooted) (hs : Sound g s) (hf : s.fault = none)
    (hl : Lexed g (s.moved c) s.mode.slash? s.cursor.next c s') : s'.Rooted := by
  have hno : ∀ v, s.fault = some v → False := fun v hv => by rw [hf] at hv; cases hv
  cases hl with
  | hides _ _ e =>
    rw [e]
    exact rooted_of_no_place rfl h.unquoted fun v hv => (hno v hv).elim
  | lineComment q _ _ hq e =>
    rw [e]
    have hp := Mode.place?_of_pending? (Mode.pending?_of_slash? hq)
    exact h.goTo hf rfl rfl (h.after_advance hp c)
  | blockComment q _ hq e =>
    rw [e]
    have hp := Mode.place?_of_pending? (Mode.pending?_of_slash? hq)
    exact h.goTo hf rfl rfl (h.after_advance hp c)
  | regex _ hc _ _ e =>
    subst hc
    rw [e]
    refine ⟨fun q hq => ?_, fun q hq => ?_, nofun, h.unquoted, fun v hv => (hno v hv).elim⟩
    · cases hq
      exact hs.after_next '/'
    · cases hq
      exact (Cursor.position_advance (by decide) _).symm
  | division _ hc _ _ e =>
    subst hc
    rw [e]
    refine ⟨fun q hq => ?_, fun q hq => ?_, fun _ _ => rfl, fun b hb => ?_, fun v hv => (hno v hv).elim⟩
    · cases hq
      exact hs.after_next '/'
    · cases hq
      exact (Cursor.position_advance (by decide) _).symm
    · cases hb
      rfl
  | quote d _ e =>
    rw [e]
    exact h.goTo hf rfl rfl (hs.after_next c)
  | other hd _ _ _ e =>
    rw [e]
    refine rooted_of_no_place rfl (fun b hb => ?_) fun v hv => (hno v hv).elim
    cases hblank : isBlank c with
    | true => exact h.unquoted b (by simpa [hblank, moved] using hb)
    | false =>
      obtain rfl : c = b := by simpa [hblank] using hb
      exact hd

theorem Rooted.quiet {s' : Scanner} (h : s.Rooted) (hs : Sound g s) (hf : s.fault = none) (hq : Quiet g s c s') :
    s'.Rooted := by
  have hno : ∀ v, s.fault = some v → False := fun v hv => by rw [hf] at hv; cases hv
  cases hq with
  | mark _ _ e =>
    rw [e]
    exact ⟨h.after, h.last, h.divides, h.unquoted, fun v hv => (hno v hv).elim⟩
  | inside hi e =>
    rw [e]
    rcases Mode.inside_place? hi c with hc | ⟨hp, hn⟩
    · rw [hc]
      exact rooted_of_no_place rfl h.unquoted fun v hv => (hno v hv).elim
    · cases hplace : s.mode.place? with
      | none => exact rooted_of_no_place (hp.trans hplace) h.unquoted fun v hv => (hno v hv).elim
      | some q => exact h.goTo hf hn (hp.trans hplace) (h.after_advance hplace c)
  | hidden _ e =>
    rw [e]
    exact rooted_of_no_place rfl h.unquoted fun v hv => (hno v hv).elim
  | lexed _ hl => exact h.lexed hs hf hl

theorem rooted_read (h : s.Rooted) (hs : Sound g s) (c : Char) : (s.read g c).Rooted := by
  cases hf : s.fault with
  | some v =>
    rw [read_of_fault hf]
    exact h
  | none =>
    have hbracket : isBracket c = true → ∀ b, some c = some b → Delimiter.ofChar? b = none := by
      rintro hc b hb
      cases hb
      exact (ne_of_isBracket hc).1
    have hlast : isBracket c = true → s.cursor.next = (s.cursor.advance c).position := fun hc =>
      (Cursor.position_advance (ne_of_isBracket hc).2.2.2.2.2.1 _).symm
    cases change_read (g := g) (c := c) hf with
    | quiet _ hq => exact h.quiet hs hf hq
    | opens hc _ e =>
      rw [e]
      exact rooted_of_no_place rfl (hbracket hc.2.2) nofun
    | closes f rest hc _ _ _ e =>
      rw [e]
      exact rooted_of_no_place rfl (hbracket hc.2.2) nofun
    | unmatched hc hcl _ e =>
      rw [e, hlast hc.2.2]
      refine rooted_of_no_place rfl h.unquoted fun v hv => ?_
      cases hv
      exact ⟨rfl, .unmatched c hcl rfl⟩
    | mismatched f rest hc hcl hstack hm e =>
      have hmem : f ∈ s.stack := by rw [hstack]; exact List.mem_cons_self
      have hbelow : ∀ k ∈ rest, k.position < f.position := by
        have ho := hs.ordered
        rw [hstack] at ho
        exact (List.pairwise_cons.mp ho).1
      have hlt := hs.lt_next f hmem
      rw [hlast hc.2.2] at hlt e
      rw [e]
      refine rooted_of_no_place rfl h.unquoted fun v hv => ?_
      cases hv
      exact ⟨rfl, .mismatched f.opener f.position c (hs.openers f hmem) hcl hm hbelow hlt⟩

theorem rooted (g : Grammar) (t : List Char) : (start.feed g t).Rooted := by
  induction t using List.reverseRecOn with
  | nil => exact rooted_start
  | append_singleton t c ih =>
    rw [feed_snoc]
    exact rooted_read ih (sound g t) c

end Scanner

end BracketBalance
