/-
  BracketBalance.Proofs.Origin — where what is unfinished began.

  A scan remembers where the open literal or comment began. Proved
  (`openSince_of_unfinished`): the text has its delimiter there, the scan was in code
  just before it, and it has not been in code since.

  A slash is kept in mind for one character before it is known what it is, so the
  places of both kinds of slash are followed too (`Origin`).
-/

import BracketBalance.Proofs.Invariant
import Mathlib.Data.List.Infix

namespace BracketBalance

namespace Delimiter

theorem delimiter_kind (d : Delimiter) : d.kind.delimiter.toList = [d.char] := by cases d <;> decide

end Delimiter

/-- The text `p` ends in code, and `start` is where the next character stands. -/
def CodeUpTo (g : Grammar) (p : List Char) (start : Position) : Prop :=
  (Scanner.start.feed g p).mode.inCode = true ∧ start = (Scanner.start.feed g p).cursor.next

/-- The literal or comment `kind` began at `start` and is open at the end of `t`. -/
def OpenSince (g : Grammar) (t : List Char) (kind : LiteralKind) (start : Position) : Prop :=
  ∃ p q, t = p ++ kind.delimiter.toList ++ q ∧ CodeUpTo g p start ∧
    ∀ q', q' <+: q → (Scanner.start.feed g (p ++ kind.delimiter.toList ++ q')).mode.inCode = false

/-- What the text says about the places in a mode. -/
def Origin (g : Grammar) (t : List Char) : Mode → Prop
  | .code => True
  | .hidden => True
  | .slash q => ∃ p, t = p ++ ['/'] ∧ CodeUpTo g p q
  | .regexOpen start => ∃ p, t = p ++ ['/'] ∧ CodeUpTo g p start
  | .literal d start _ => OpenSince g t d.kind start
  | .lineComment start => OpenSince g t .lineComment start
  | .blockComment start _ => OpenSince g t .blockComment start

namespace Scanner

variable {g : Grammar} {t : List Char} {c : Char} {kind : LiteralKind} {p : List Char} {st : Position}

theorem openSince_of_delimiter (hp : CodeUpTo g p st)
    (hm : (start.feed g (p ++ kind.delimiter.toList)).mode.inCode = false) :
    OpenSince g (p ++ kind.delimiter.toList) kind st := by
  refine ⟨p, [], by simp, hp, fun q' hq => ?_⟩
  rw [List.prefix_nil.mp hq, List.append_nil]
  exact hm

theorem openSince_regex (hp : CodeUpTo g p st) (hm : (start.feed g (p ++ ['/'])).mode.inCode = false) :
    OpenSince g (p ++ ['/']) .regex st := @openSince_of_delimiter g .regex p st hp hm

theorem openSince_snoc (h : OpenSince g t kind st) (hm : (start.feed g (t ++ [c])).mode.inCode = false) :
    OpenSince g (t ++ [c]) kind st := by
  obtain ⟨p, q, rfl, hp, hq⟩ := h
  refine ⟨p, q ++ [c], by simp, hp, fun q' hq' => ?_⟩
  rcases List.prefix_concat_iff.mp hq' with rfl | hq'
  · rwa [← List.append_assoc]
  · exact hq q' hq'

/-- A comment began at the first of its two slashes, or at the slash before its star. -/
theorem openSince_comment (hp : CodeUpTo g p st) (hk : kind.delimiter.toList = ['/', c])
    (hm : (start.feed g (p ++ ['/'] ++ [c])).mode.inCode = false) : OpenSince g (p ++ ['/'] ++ [c]) kind st := by
  have ht : p ++ ['/'] ++ [c] = p ++ kind.delimiter.toList := by rw [hk]; simp
  rw [ht] at hm ⊢
  exact openSince_of_delimiter hp hm

theorem origin_inside (h : Origin g t (start.feed g t).mode) (hi : (start.feed g t).mode.inCode = false)
    (e : (start.feed g (t ++ [c])).mode = (start.feed g t).mode.inside c) :
    Origin g (t ++ [c]) (start.feed g (t ++ [c])).mode := by
  rw [e]
  rcases Mode.inside_cases hi c with hc | hc
  · rw [hc]; trivial
  have hm : (start.feed g (t ++ [c])).mode.inCode = false := by rw [e]; exact hc
  have ht := hi
  generalize (start.feed g t).mode = m at h hi ⊢
  cases m with
  | code => cases hi
  | hidden => cases hi
  | slash q => cases hi
  | literal d st escaped =>
    have hl : OpenSince g (t ++ [c]) d.kind st := openSince_snoc h hm
    cases escaped with
    | true => exact hl
    | false =>
      simp only [Mode.inside, Mode.inLiteral]
      repeat' split
      · exact hl
      · trivial
      · exact hl
  | regexOpen st =>
    obtain ⟨p, rfl, hp⟩ := h
    -- until the next character is known, the slash may be a regex or the start of a comment
    have hl : OpenSince g (p ++ ['/'] ++ [c]) .regex st := openSince_snoc (openSince_regex hp ht) hm
    simp only [Mode.inside, Mode.inLiteral]
    split
    · rename_i hc; subst hc; exact openSince_comment hp rfl hm
    split
    · rename_i hc; subst hc; exact openSince_comment hp rfl hm
    repeat' split
    · exact hl
    · trivial
    · exact hl
  | lineComment st =>
    simp only [Mode.inside]
    split
    · trivial
    · exact openSince_snoc h hm
  | blockComment st star =>
    simp only [Mode.inside]
    split
    · trivial
    · exact openSince_snoc h hm

theorem origin_lexed {s' : Scanner} (h : Origin g t (start.feed g t).mode) (ha : (start.feed g t).mode.inCode = true)
    (hl : Lexed g ((start.feed g t).moved c) (start.feed g t).mode.slash? (start.feed g t).cursor.next c s')
    (e : start.feed g (t ++ [c]) = s') : Origin g (t ++ [c]) s'.mode := by
  -- a division slash is the last character read
  have hslash : ∀ q, (start.feed g t).mode.slash? = some q → ∃ p, t = p ++ ['/'] ∧ CodeUpTo g p q := by
    intro q hq
    cases hm : (start.feed g t).mode with
    | slash q' =>
      rw [hm] at h hq
      cases hq
      exact h
    | _ => rw [hm] at hq; cases hq
  have hmode : ∀ {m : Mode}, s'.mode = m → m.inCode = false → (start.feed g (t ++ [c])).mode.inCode = false := by
    intro m hm hi
    rw [e, hm]
    exact hi
  cases hl with
  | hides _ _ e' => rw [e']; trivial
  | lineComment q _ hc hq e' =>
    obtain ⟨p, rfl, hp⟩ := hslash q hq
    subst hc
    rw [e'] at hmode ⊢
    exact openSince_comment hp rfl (hmode rfl rfl)
  | blockComment q hc hq e' =>
    obtain ⟨p, rfl, hp⟩ := hslash q hq
    subst hc
    rw [e'] at hmode ⊢
    exact openSince_comment hp rfl (hmode rfl rfl)
  | regex _ hc _ _ e' =>
    subst hc
    rw [e']
    exact ⟨t, rfl, ha, rfl⟩
  | division _ hc _ _ e' =>
    subst hc
    rw [e']
    exact ⟨t, rfl, ha, rfl⟩
  | quote d hd e' =>
    rw [e'] at hmode ⊢
    have hm := hmode rfl (m := .literal d (start.feed g t).cursor.next false) (by cases d <;> rfl)
    rw [(Delimiter.eq_of_ofChar? hd).1, ← Delimiter.delimiter_kind] at hm ⊢
    exact openSince_of_delimiter ⟨ha, rfl⟩ hm
  | other _ _ _ _ e' => rw [e']; trivial

theorem origin (g : Grammar) (t : List Char) (hf : (start.feed g t).fault = none) :
    Origin g t (start.feed g t).mode := by
  induction t using List.reverseRecOn with
  | nil => trivial
  | append_singleton t c ih =>
    have e := feed_snoc g start t c
    have hf0 : (start.feed g t).fault = none := fault_before (List.prefix_append t [c]) hf
    have h := ih hf0
    cases change_read (g := g) (c := c) hf0 with
    | quiet _ hq =>
      cases hq with
      | mark hs _ e' =>
        -- only the empty text leaves a scan where a mark may still stand
        have : (start.feed g t).mode = .code := by
          cases t using List.reverseRecOn with
          | nil => rfl
          | append_singleton t d =>
            rw [feed_snoc, fresh_read (fault_before (List.prefix_append t [d]) hf0)] at hs
            cases hs
        rw [e, e']
        show Origin g _ (start.feed g t).mode
        rw [this]
        trivial
      | inside hi e' => exact origin_inside h hi (by rw [e, e'])
      | hidden _ e' => rw [e, e']; trivial
      | lexed ha hl => rw [e]; exact origin_lexed h ha.1 hl e
    | opens _ _ e' => rw [e, e']; trivial
    | closes _ _ _ _ _ _ e' => rw [e, e']; trivial
    | unmatched _ _ _ e' => rw [e, e']; trivial
    | mismatched _ _ _ _ _ _ e' => rw [e, e']; trivial

/-- The literal or comment that is open was opened where the scan says, and it is open since. -/
theorem openSince_of_unfinished (hf : (start.feed g t).fault = none)
    (h : (start.feed g t).mode.unfinished = some (kind, st)) : OpenSince g t kind st := by
  have ho := origin g t hf
  have hi : (start.feed g t).mode.inCode = false := by rw [Mode.inCode, h]; rfl
  cases hm : (start.feed g t).mode with
  | code => rw [hm] at h; cases h
  | hidden => rw [hm] at h; cases h
  | slash q => rw [hm] at h; cases h
  | regexOpen q =>
    rw [hm] at h ho
    cases h
    obtain ⟨p, rfl, hp⟩ := ho
    exact openSince_regex hp hi
  | literal d q escaped => rw [hm] at h ho; cases h; exact ho
  | lineComment q => rw [hm] at h ho; cases h; exact ho
  | blockComment q star => rw [hm] at h ho; cases h; exact ho

end Scanner

end BracketBalance
