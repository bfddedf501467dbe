/-
  BracketBalance.Proofs.Language — the scripts that balance.

  Proved (`scan_full_iff`): a text balances exactly when what follows its mark can be
  split into tokens whose brackets are well nested.

  The work is `verdict_feed_iff`, which says it of a scan in any state: its mode is
  the rest of a token, its stack the brackets that the rest of the text has to close.
-/

import BracketBalance.Proofs.Cancellation
import BracketBalance.Proofs.Invariant
import BracketBalance.Proofs.Tokens

namespace BracketBalance

namespace Scanner

variable {s s' : Scanner} {c : Char} {t w : List Char}

/-- The characters of the open brackets, innermost first. -/
def openers (s : Scanner) : List Char := s.stack.map Frame.opener

/-- The text `t` takes the scan to its end with nothing open. -/
def Completes (s : Scanner) (t : List Char) : Prop :=
  ∃ w, Rest s.before t w s.mode ∧ w.foldl (push id) s.openers = []

theorem opensRegex_eq (hs : Sound .full s) : s.opensRegex = slashOpens s.before := by
  cases hb : s.before with
  | none => simp [opensRegex, slashOpens, hb]
  | some b => simp [opensRegex, slashOpens, hb, hs.visible b hb]

theorem rest_atCode (ha : s.atCode) (h1 : c ≠ '/') (h2 : ¬ (s.mode.slash?.isSome = true ∧ c = '*')) :
    Rest s.before (c :: t) w s.mode ↔ Tokens s.before (c :: t) w := by
  rcases Mode.inCode_iff.mp ha.1 with h | h | ⟨q, h⟩
  · rw [h]; rfl
  · exact absurd h ha.2
  · have hst : c ≠ '*' := fun hc => h2 ⟨by rw [h]; rfl, hc⟩
    simp [h, Rest, AfterSlash, h1, hst]

/-- A slash in code begins a token, unless it comes just after another. -/
theorem rest_atCode_slash (ha : s.atCode) (h : s.mode.slash? = none) :
    Rest s.before ('/' :: t) w s.mode ↔ Tokens s.before ('/' :: t) w := by
  rcases Mode.inCode_iff.mp ha.1 with hm | hm | ⟨q, hm⟩
  · rw [hm]; rfl
  · exact absurd hm ha.2
  · rw [hm] at h; cases h

theorem rest_lexed (hs : Sound .full s) (ha : s.atCode) (hb : isBracket c = false)
    (h : Lexed .full (s.moved c) s.mode.slash? s.cursor.next c s') :
    Rest s.before (c :: t) w s.mode ↔ Rest s'.before t w s'.mode := by
  have hr : (s.moved c).opensRegex = slashOpens s.before := by
    show s.opensRegex = _
    exact opensRegex_eq hs
  cases h with
  | hides hg _ _ => cases hg
  | lineComment q _ hc hq e =>
    subst hc
    rw [mode_of_slash? hq, e]
    rfl
  | blockComment q hc hq e =>
    subst hc
    rw [mode_of_slash? hq, e]
    rfl
  | regex _ hc hq ho e =>
    subst hc
    rw [rest_atCode_slash ha hq, tokens_slash_opens (hr ▸ ho), e]
    rfl
  | division _ hc hq ho e =>
    subst hc
    rw [rest_atCode_slash ha hq, tokens_slash_divides (hr ▸ ho), e]
    rfl
  | quote d hd e =>
    have hq := (Delimiter.eq_of_ofChar? hd).2
    have hslash : c ≠ '/' := by
      intro hc
      subst hc
      exact absurd hq (by decide)
    have hstar : ¬ (s.mode.slash?.isSome ∧ c = '*') := by
      intro h
      obtain ⟨-, hc⟩ := h
      subst hc
      exact absurd hq (by decide)
    rw [rest_atCode ha hslash hstar, tokens_quote hd, e]
    rfl
  | other hd _ hsl hst e =>
    have h1 : c ≠ '/' := fun hc => hsl ⟨rfl, hc⟩
    rw [rest_atCode ha h1 hst, tokens_plain (not_mem_special_iff.mpr ⟨h1, hd, hb⟩), e]
    rfl

theorem completes_quiet (hs : Sound .full s) (hfr : s.fresh = false) (hc : ¬ s.counts .full c)
    (h : Quiet .full s c s') : s.Completes (c :: t) ↔ s'.Completes t := by
  have hrest : ∀ w, Rest s.before (c :: t) w s.mode ↔ Rest s'.before t w s'.mode := by
    intro w
    cases h with
    | mark hm _ _ => rw [hfr] at hm; cases hm
    | inside hi e =>
      rw [rest_inside hi, e]
      rfl
    | hidden hm _ => cases hs.hides hm
    | lexed ha hl =>
      have hb : isBracket c = false := by
        cases hb : isBracket c with
        | false => rfl
        | true => exact absurd ⟨rfl, ha, hb⟩ hc
      exact rest_lexed hs ha hb hl
  simp only [Completes, hrest, openers, h.frame.1]

theorem completes_bracket (hc : s.counts .full c) : s.Completes (c :: t) ↔
    ∃ w, Tokens (some c) t w ∧ w.foldl (push id) (push id s.openers c) = [] := by
  obtain ⟨-, -, h1, h2, -⟩ := ne_of_isBracket hc.2.2
  have hrest : ∀ w, Rest s.before (c :: t) w s.mode ↔ ∃ w', w = c :: w' ∧ Tokens (some c) t w' := fun w => by
    rw [rest_atCode hc.2.1 h1 (fun h => h2 h.2), tokens_bracket hc.2.2]
  constructor
  · intro h
    obtain ⟨w, hw, hn⟩ := h
    obtain ⟨w', rfl, hw'⟩ := (hrest w).mp hw
    exact ⟨w', hw', hn⟩
  · intro h
    obtain ⟨w', hw', hn⟩ := h
    exact ⟨c :: w', (hrest _).mpr ⟨w', rfl, hw'⟩, hn⟩

theorem not_completes_halt (hc : s.counts .full c) (hcl : isCloser c = true)
    (hp : push id s.openers c = c :: s.openers) : ¬ s.Completes (c :: t) := by
  rw [completes_bracket hc, hp]
  intro h
  obtain ⟨w, -, hn⟩ := h
  have : isOpener c = true := isOpener_of_foldl_push hn c List.mem_cons_self
  rw [isCloser_of_isOpener this] at hcl
  cases hcl

/-- One character: what completes a scan is what completes it after that character. -/
theorem completes_cons (hs : Sound .full s) (hf : s.fault = none) (hfr : s.fresh = false) :
    s.Completes (c :: t) ↔ (s.read .full c).fault = none ∧ (s.read .full c).Completes t := by
  cases change_read (g := .full) (c := c) hf with
  | quiet hc hq => simp [completes_quiet hs hfr hc hq, hq.frame.2.1, hf]
  | opens hc ho e =>
    rw [completes_bracket hc, push_opener (show isOpener (id c) = true from ho), e]
    simp [Completes, Rest, openers]
  | closes f rest hc _ hstack hm e =>
    have hp : Pair id f.opener c := ⟨hs.openers f (by simp [hstack]), hm⟩
    rw [completes_bracket hc, openers, hstack, List.map_cons, push_pair hp, e]
    simp [Completes, Rest, openers]
  | unmatched hc hcl hstack e =>
    have : ¬ s.Completes (c :: t) := not_completes_halt hc hcl (by simp [openers, hstack, push])
    simp [this, e]
  | mismatched f rest hc hcl hstack hm e =>
    have : ¬ s.Completes (c :: t) := by
      refine not_completes_halt hc hcl ?_
      rw [openers, hstack, List.map_cons]
      exact push_not_pair (fun h => hm h.2) _
    simp [this, e]

theorem verdict_iff_completes_nil (hf : s.fault = none) : s.verdict .full = none ↔ s.Completes [] := by
  have hc : s.Completes [] ↔ s.mode.inCode = true ∧ s.stack = [] := by simp [Completes, rest_nil, openers]
  rw [hc]
  constructor
  · exact fun h => ⟨inCode_of_verdict_eq_none (by decide) h, (of_verdict_eq_none h).2⟩
  · intro h
    obtain ⟨hm, hstack⟩ := h
    rw [verdict_of_inCode hf hm]
    exact innermost_eq_none_iff.mpr hstack

/-- The verdict on a text is what the rest of its tokens say, and the brackets among them. -/
theorem verdict_feed_iff (hs : Sound .full s) (hf : s.fault = none) (hfr : s.fresh = false) (t : List Char) :
    (s.feed .full t).verdict .full = none ↔ s.Completes t := by
  induction t generalizing s with
  | nil => exact verdict_iff_completes_nil hf
  | cons c t ih =>
    rw [completes_cons hs hf hfr, feed_cons]
    cases hv : (s.read .full c).fault with
    | some v => simp [feed_of_fault hv, verdict_of_fault hv]
    | none => rw [ih (sound_read hs c) hv (fresh_read hf)]; simp

end Scanner

open Scanner

/-- A text balances exactly when, after its mark, it splits into tokens with well nested brackets. -/
theorem scan_full_iff (t : List Char) :
    scan .full t = none ↔ ∃ w, Tokens none (dropMark t) w ∧ Nested id w := by
  have hs : Sound .full opened := (sound_start .full).quiet (.mark rfl rfl rfl)
  rw [scan_eq_dropMark, verdict_feed_iff hs rfl rfl]
  simp only [nested_iff]
  rfl

end BracketBalance
