/-
  BracketBalance.Proofs.Likeness — scans that go alike.

  Two grammars may take two characters for the same thing (`Alike`), and two scans may
  be the same but for the places they remember, which are related by some `R`, and for
  a last significant character that makes no difference (`Agree`).

  Proved: scans that agree still do so after characters that are alike, if `R` relates
  the places of the two characters (`agree_read`); so they do after whole texts, one of
  which is the other with its characters replaced (`agree_feed`), and what they find at
  the end is the same but for its places (`Agree.verdict`).
-/

import BracketBalance.Proofs.Places

namespace BracketBalance

/-! ## Alike but for the places -/

section

variable (R : Position → Position → Prop)

inductive Violation.Like : Violation → Violation → Prop
  | unmatchedCloser (c : Char) {p p' : Position} : R p p' → Like (.unmatchedCloser c p) (.unmatchedCloser c p')
  | mismatched (o c : Char) {p p' q q' : Position} : R p p' → R q q' →
      Like (.mismatched o p c q) (.mismatched o p' c q')
  | unterminatedLiteral (kind : LiteralKind) {p p' : Position} : R p p' →
      Like (.unterminatedLiteral kind p) (.unterminatedLiteral kind p')
  | unterminatedBracket (o : Char) {p p' : Position} : R p p' →
      Like (.unterminatedBracket o p) (.unterminatedBracket o p')

structure Frame.Like (f f' : Frame) : Prop where
  opener : f.opener = f'.opener
  position : R f.position f'.position

inductive Mode.Like : Mode → Mode → Prop
  | code : Like .code .code
  | hidden : Like .hidden .hidden
  | slash {p p' : Position} : R p p' → Like (.slash p) (.slash p')
  | literal (d : Delimiter) (escaped : Bool) {p p' : Position} : R p p' →
      Like (.literal d p escaped) (.literal d p' escaped)
  | regexOpen {p p' : Position} : R p p' → Like (.regexOpen p) (.regexOpen p')
  | lineComment {p p' : Position} : R p p' → Like (.lineComment p) (.lineComment p')
  | blockComment (star : Bool) {p p' : Position} : R p p' → Like (.blockComment p star) (.blockComment p' star)

end

theorem Violation.Like.eq {v v' : Violation} (h : Violation.Like Eq v v') : v = v' := by
  cases h with
  | unmatchedCloser c h => rw [h]
  | mismatched o c h k => rw [h, k]
  | unterminatedLiteral kind h => rw [h]
  | unterminatedBracket o h => rw [h]

theorem Mode.Like.eq {m m' : Mode} (h : Mode.Like Eq m m') : m = m' := by
  cases h with
  | code => rfl
  | hidden => rfl
  | slash h => rw [h]
  | literal d escaped h => rw [h]
  | regexOpen h => rw [h]
  | lineComment h => rw [h]
  | blockComment star h => rw [h]

theorem eq_of_like {v v' : Option Violation} (h : Option.Rel (Violation.Like Eq) v v') : v = v' := by
  cases h with
  | some h => rw [h.eq]
  | none => rfl

/-- Whether the mode came of a slash, other than by its being a plain character. -/
def Mode.ofSlash : Mode → Bool
  | .code => false
  | .hidden => false
  | .slash _ => true
  | .literal d _ _ => d = .slash
  | .regexOpen _ => true
  | .lineComment _ => true
  | .blockComment _ _ => true

/-! ## Characters -/

/-- The grammar `g` takes `c` for what `g'` takes `c'` for. -/
structure Alike (g g' : Grammar) (c c' : Char) : Prop where
  feed : c = '\n' ↔ c' = '\n'
  star : c = '*' ↔ c' = '*'
  escape : c = '\\' ↔ c' = '\\'
  escapes : g.escapesCode = true ∧ c = '\\' ↔ g'.escapesCode = true ∧ c' = '\\'
  quote : Delimiter.ofChar? c = Delimiter.ofChar? c'
  slash : g.knowsSlashes = true ∧ c = '/' ↔ g'.knowsSlashes = true ∧ c' = '/'
  bracket : g.knowsBrackets = true ∧ isBracket c = true ∨ g'.knowsBrackets = true ∧ isBracket c' = true →
    c' = c ∧ g'.knowsBrackets = g.knowsBrackets
  /-- Where slashes mean something, the characters before them do too. -/
  significant : g.knowsSlashes = true → g'.knowsSlashes = true →
    isBlank c = isBlank c' ∧ beforeRegex.contains c = beforeRegex.contains c'

theorem Alike.refl (g : Grammar) (c : Char) : Alike g g c c where
  feed := Iff.rfl
  star := Iff.rfl
  escape := Iff.rfl
  escapes := Iff.rfl
  quote := rfl
  slash := Iff.rfl
  bracket _ := ⟨rfl, rfl⟩
  significant _ _ := ⟨rfl, rfl⟩

namespace Delimiter

theorem ofChar?_iff {d : Delimiter} (hd : d ≠ .slash) {c : Char} : c = d.char ↔ ofChar? c = some d := by
  constructor
  · intro h
    subst h
    cases d with
    | slash => exact absurd rfl hd
    | _ => rfl
  · exact fun h => (eq_of_ofChar? h).1

end Delimiter

variable {R : Position → Position → Prop} {g g' : Grammar} {c c' : Char}

theorem Alike.cursor (h : Alike g g' c c') (k : Cursor) : k.advance c = k.advance c' := by
  simp only [Cursor.advance, h.feed]

/-! ## Modes -/

namespace Mode

variable {m m' : Mode} {p p' : Position}

theorem ofSlash_inside (h : (m.inside c).ofSlash = true) : m.ofSlash = true := by
  cases m with
  | code => exact h
  | hidden => exact h
  | literal d q escaped =>
    cases escaped with
    | true => exact h
    | false =>
      simp only [inside, inLiteral] at h
      split at h
      · exact h
      split at h
      · cases h
      · exact h
  | _ => rfl

theorem Like.inCode (h : Like R m m') : m.inCode = m'.inCode := by cases h <;> rfl

theorem Like.unfinished (h : Like R m m') :
    Option.Rel (fun a b => a.1 = b.1 ∧ R a.2 b.2) m.unfinished m'.unfinished := by
  cases h with
  | code => exact .none
  | hidden => exact .none
  | slash _ => exact .none
  | literal d escaped h => exact .some ⟨rfl, h⟩
  | regexOpen h => exact .some ⟨rfl, h⟩
  | lineComment h => exact .some ⟨rfl, h⟩
  | blockComment star h => exact .some ⟨rfl, h⟩

theorem like_inLiteral {d : Delimiter} (he : c = '\\' ↔ c' = '\\') (hd : c = d.char ↔ c' = d.char) (hp : R p p') :
    Like R (inLiteral d p c) (inLiteral d p' c') := by
  simp only [inLiteral, he, hd]
  split
  · exact .literal d true hp
  split
  · exact .code
  · exact .literal d false hp

/-- Inside a literal or a comment, characters that are alike do the same. -/
theorem like_inside (h : Like R m m') (ha : Alike g g' c c')
    (hs : m.ofSlash = true → g.knowsSlashes = true ∧ g'.knowsSlashes = true) :
    Like R (m.inside c) (m'.inside c') := by
  have hslash : m.ofSlash = true → (c = '/' ↔ c' = '/') := fun hm => by
    simpa [(hs hm).1, (hs hm).2] using ha.slash
  cases h with
  | code => exact .code
  | hidden => exact .hidden
  | slash hp => exact .slash hp
  | literal d escaped hp =>
    cases escaped with
    | true => exact .literal d false hp
    | false =>
      refine like_inLiteral ha.escape ?_ hp
      by_cases hd : d = .slash
      · subst hd; exact hslash rfl
      · rw [Delimiter.ofChar?_iff hd, Delimiter.ofChar?_iff hd, ha.quote]
  | regexOpen hp =>
    simp only [inside, hslash rfl, ha.star]
    split
    · exact .lineComment hp
    split
    · exact .blockComment false hp
    · exact like_inLiteral ha.escape (hslash rfl) hp
  | lineComment hp =>
    simp only [inside, ha.feed]
    split
    · exact .code
    · exact .lineComment hp
  | blockComment star hp =>
    simp only [inside, hslash rfl, ha.star]
    split
    · exact .code
    · exact .blockComment _ hp

end Mode

namespace Scanner

/-! ## Scans -/

/-- Two scans that have begun and are the same but for the places they remember. -/
structure Agree (R : Position → Position → Prop) (g g' : Grammar) (s s' : Scanner) : Prop where
  mode : s.mode.Like R s'.mode
  /-- Only a grammar that knows slashes is ever about one. -/
  slashes : s.mode.ofSlash = true → g.knowsSlashes = true ∧ g'.knowsSlashes = true
  before : g.knowsSlashes = true → g'.knowsSlashes = true → s.opensRegex = s'.opensRegex
  stack : List.Forall₂ (Frame.Like R) s.stack s'.stack
  fault : Option.Rel (Violation.Like R) s.fault s'.fault
  fresh : s.fresh = false ∧ s'.fresh = false

variable {s s' : Scanner} {p p' : Position}

theorem Agree.goes (h : Agree R g g' s s') : s.fault = none ↔ s'.fault = none := by
  have hf := h.fault
  generalize s.fault = v, s'.fault = v' at hf
  cases hf <;> simp

theorem agree_in_code (hm : s.mode = .code) (hm' : s'.mode = .code)
    (hb : g.knowsSlashes = true → g'.knowsSlashes = true → s.opensRegex = s'.opensRegex)
    (hs : List.Forall₂ (Frame.Like R) s.stack s'.stack) (hf : Option.Rel (Violation.Like R) s.fault s'.fault)
    (hn : s.fresh = false ∧ s'.fresh = false) : Agree R g g' s s' := by
  refine ⟨?_, ?_, hb, hs, hf, hn⟩
  · rw [hm, hm']; exact .code
  · rw [hm]; nofun

theorem Agree.goTo (h : Agree R g g' s s') {m m' : Mode} (hm : m.Like R m')
    (hs : m.ofSlash = true → g.knowsSlashes = true ∧ g'.knowsSlashes = true) :
    Agree R g g' { s with mode := m } { s' with mode := m' } :=
  ⟨hm, hs, h.before, h.stack, h.fault, h.fresh⟩

theorem Agree.moved (h : Agree R g g' s s') (c c' : Char) : Agree R g g' (s.moved c) (s'.moved c') :=
  ⟨h.mode, h.slashes, h.before, h.stack, h.fault, rfl, rfl⟩

theorem agree_close (h : Agree R g g' s s') (hp : R p p') (c : Char) : Agree R g g' (s.close p c) (s'.close p' c) := by
  have hs := h.stack
  unfold close
  generalize s.stack = k, s'.stack = k' at hs
  cases hs with
  | nil => exact agree_in_code rfl rfl h.before .nil (.some (.unmatchedCloser c hp)) h.fresh
  | cons hf hr =>
    rename_i f f' rest rest'
    by_cases hm : closerOf f.opener = c
    · simp only [← hf.opener, hm, if_true]
      exact agree_in_code rfl rfl (fun _ _ => rfl) hr h.fault h.fresh
    · simp only [← hf.opener, hm, if_false]
      exact agree_in_code rfl rfl h.before hr (.some (.mismatched f.opener c hf.position hp)) h.fresh

theorem agree_plain (h : Agree R g g' s s') (ha : Alike g g' c c') (hp : R p p') :
    Agree R g g' (s.plain g p c) (s'.plain g' p' c') := by
  cases hd : Delimiter.ofChar? c with
  | some d =>
    rw [plain_quote hd, plain_quote (ha.quote ▸ hd)]
    refine h.goTo (.literal d false hp) (fun hs => ?_)
    obtain rfl : d = .slash := by simpa [Mode.ofSlash] using hs
    exact absurd (Delimiter.eq_of_ofChar? hd).2 ((Delimiter.eq_of_ofChar? hd).1 ▸ by decide)
  | none =>
    by_cases hb : g.knowsBrackets = true ∧ isBracket c = true ∨ g'.knowsBrackets = true ∧ isBracket c' = true
    · obtain ⟨rfl, hg⟩ := ha.bracket hb
      have hk : g.knowsBrackets = true ∧ isBracket c' = true := by simpa [hg] using hb
      have hk' : g'.knowsBrackets = true := hg.trans hk.1
      cases ho : isOpener c' with
      | true =>
        rw [plain_opener hk.1 ho, plain_opener hk' ho]
        exact agree_in_code rfl rfl (fun _ _ => rfl) (.cons ⟨rfl, hp⟩ h.stack) h.fault h.fresh
      | false =>
        have hc : isCloser c' = true := by simpa [isBracket, ho] using hk.2
        rw [plain_closer hk.1 hc, plain_closer hk' hc]
        exact agree_close h hp c'
    · rw [not_or] at hb
      rw [plain_other hd hb.1, plain_other (ha.quote ▸ hd) hb.2]
      refine agree_in_code rfl rfl (fun hk hk' => ?_) h.stack h.fault h.fresh
      obtain ⟨hblank, hbefore⟩ := ha.significant hk hk'
      have hold : s.opensRegex = s'.opensRegex := h.before hk hk'
      simp only [opensRegex] at hold ⊢
      cases hbl : isBlank c with
      | true => simpa [← hblank, hbl] using hold
      | false => simpa [← hblank, hbl] using hbefore

theorem agree_code (h : Agree R g g' s s') (ha : Alike g g' c c') (hp : R p p') {slash slash' : Option Position}
    (hs : Option.Rel R slash slash') (hknown : slash.isSome = true → g.knowsSlashes = true ∧ g'.knowsSlashes = true) :
    Agree R g g' (s.code g slash p c) (s'.code g' slash' p' c') := by
  by_cases he : g.escapesCode = true ∧ c = '\\'
  · rw [code_hides he, code_hides (ha.escapes.mp he)]
    exact h.goTo .hidden nofun
  by_cases hsl : g.knowsSlashes = true ∧ c = '/'
  · obtain ⟨hk', rfl⟩ := ha.slash.mp hsl
    obtain ⟨hk, rfl⟩ := hsl
    cases hs with
    | some hq =>
      rw [code_lineComment hk, code_lineComment hk']
      exact h.goTo (.lineComment hq) fun _ => ⟨hk, hk'⟩
    | none =>
      rw [code_slash hk, code_slash hk', ← h.before hk hk']
      split
      · exact h.goTo (.regexOpen hp) fun _ => ⟨hk, hk'⟩
      · exact ⟨.slash hp, fun _ => ⟨hk, hk'⟩, fun _ _ => rfl, h.stack, h.fault, h.fresh⟩
  by_cases hb : slash.isSome = true ∧ c = '*'
  · obtain ⟨hsome, rfl⟩ := hb
    obtain rfl := ha.star.mp rfl
    cases hs with
    | none => cases hsome
    | some hq =>
      rw [code_blockComment, code_blockComment]
      exact h.goTo (.blockComment false hq) fun _ => hknown rfl
  have hb' : ¬ (slash'.isSome = true ∧ c' = '*') := by
    rw [← ha.star]
    cases hs with
    | none => exact hb
    | some _ => exact hb
  rw [code_plain he hsl hb, code_plain (mt ha.escapes.mpr he) (mt ha.slash.mpr hsl) hb']
  exact agree_plain h ha hp

theorem agree_take (h : Agree R g g' s s') (ha : Alike g g' c c') (hn : R s.cursor.next s'.cursor.next) :
    Agree R g g' (s.take g c) (s'.take g' c') := by
  have hm := h.mode
  have hmoved := h.moved c c'
  cases hi : s.mode.inCode with
  | false =>
    rw [take_inside hi, take_inside (hm.inCode ▸ hi)]
    exact hmoved.goTo (Mode.like_inside hm ha h.slashes) fun hs => h.slashes (Mode.ofSlash_inside hs)
  | true =>
    generalize hms : s.mode = m, hms' : s'.mode = m' at hm
    have hslash := h.slashes
    rw [hms] at hslash hi
    cases hm with
    | code =>
      rw [take_code hms, take_code hms']
      exact agree_code hmoved ha hn .none nofun
    | hidden =>
      rw [take_hidden hms, take_hidden hms']
      exact hmoved.goTo .code nofun
    | slash hq =>
      rw [take_slash hms, take_slash hms']
      exact agree_code hmoved ha hn (.some hq) fun _ => hslash rfl
    | _ => cases hi

/-- Scans that agree do so after characters that are alike, at places that are related. -/
theorem agree_read (h : Agree R g g' s s') (ha : Alike g g' c c') (hn : R s.cursor.next s'.cursor.next) :
    Agree R g g' (s.read g c) (s'.read g' c') := by
  cases hf : s.fault with
  | none =>
    rw [read_eq_take hf (by simp [h.fresh.1]), read_eq_take (h.goes.mp hf) (by simp [h.fresh.2])]
    exact agree_take h ha hn
  | some v =>
    obtain ⟨v', hf'⟩ : ∃ v', s'.fault = some v' :=
      Option.ne_none_iff_exists'.mp fun hn => by rw [h.goes.mpr hn] at hf; cases hf
    rw [read_of_fault hf, read_of_fault hf']
    exact h

/-- Scans that agree do so after a text and the text with its characters replaced. -/
theorem agree_feed (h : Agree R g g' s s') (f : Char → Char) {t : List Char} (ha : ∀ c ∈ t, Alike g g' c (f c))
    (hn : ∀ a c b, t = a ++ c :: b →
      R (a.foldl Cursor.advance s.cursor).next (a.foldl Cursor.advance s'.cursor).next) :
    Agree R g g' (s.feed g t) (s'.feed g' (t.map f)) := by
  induction t generalizing s s' with
  | nil => exact h
  | cons c t ih =>
    obtain ⟨hc, ht⟩ := List.forall_mem_cons.mp ha
    have hr := agree_read h hc (hn [] c t rfl)
    rw [List.map_cons, feed_cons, feed_cons]
    cases hf : (s.read g c).fault with
    | none =>
      have hf0 : s.fault = none := fault_of_feed (t := [c]) hf
      refine ih hr ht fun a d b e => ?_
      rw [cursor_read hf0 h.fresh.1, cursor_read (h.goes.mp hf0) h.fresh.2, ← hc.cursor]
      exact hn (c :: a) d b (by rw [e]; rfl)
    | some v =>
      obtain ⟨v', hf'⟩ : ∃ v', (s'.read g' (f c)).fault = some v' :=
        Option.ne_none_iff_exists'.mp fun hn => by rw [hr.goes.mpr hn] at hf; cases hf
      rw [feed_of_fault hf, feed_of_fault hf']
      exact hr

/-! ## What is found -/

theorem Agree.innermost (h : Agree R g g' s s') : Option.Rel (Violation.Like R) s.innermost s'.innermost := by
  have hs := h.stack
  unfold Scanner.innermost
  generalize s.stack = k, s'.stack = k' at hs
  cases hs with
  | nil => exact .none
  | cons hf _ =>
    rw [List.head?_cons, List.head?_cons, Option.map_some, Option.map_some, ← hf.opener]
    exact .some (.unterminatedBracket _ hf.position)

/-- Scans that agree find the same at the end, if both or neither report an open string. -/
theorem Agree.verdict (h : Agree R g g' s s') (hg : g = .templates ↔ g' = .templates) :
    Option.Rel (Violation.Like R) (s.verdict g) (s'.verdict g') := by
  have hf := h.fault
  have hu := h.mode.unfinished
  have hi := h.innermost
  unfold Scanner.verdict
  generalize s.fault = v, s'.fault = v' at hf
  generalize s.mode.unfinished = u, s'.mode.unfinished = u' at hu
  cases hf with
  | some hv => exact .some hv
  | none =>
    cases hu with
    | none => exact hi
    | some hu =>
      rename_i a b
      obtain ⟨kind, st⟩ := a
      obtain ⟨kind', st'⟩ := b
      obtain ⟨rfl, hst⟩ : kind = kind' ∧ R st st' := hu
      cases kind with
      | string quote =>
        simp only [hg]
        split
        · exact hi
        · exact .some (.unterminatedLiteral _ hst)
      | _ => exact .some (.unterminatedLiteral _ hst)

theorem agree_opened (R : Position → Position → Prop) (g g' : Grammar) : Agree R g g' opened opened :=
  agree_in_code rfl rfl (fun _ _ => rfl) .nil .none ⟨rfl, rfl⟩

theorem ofSlash_feed {t : List Char} (h : (start.feed g t).mode.ofSlash = true) : g.knowsSlashes = true := by
  by_cases ht : t = []
  · subst ht; cases h
  · rw [feed_start g ht] at h
    exact ((agree_feed (agree_opened (fun _ _ => True) g g) id (fun c _ => Alike.refl g c)
      (fun _ _ _ _ => trivial)).slashes h).1

theorem ofSlash_eq_false (h : g.knowsSlashes = false) (t : List Char) : (start.feed g t).mode.ofSlash = false := by
  cases hs : (start.feed g t).mode.ofSlash with
  | false => rfl
  | true => rw [ofSlash_feed hs] at h; cases h

/-- A scan that has begun and holds only places that `R` relates to themselves agrees with itself. -/
theorem agree_self (hc : s.mode = .code) (hf : s.fault = none) (hs : s.fresh = false)
    (hR : ∀ f ∈ s.stack, R f.position f.position) (k k' : Cursor) :
    Agree R g g { s with cursor := k } { s with cursor := k' } := by
  refine agree_in_code hc hc (fun _ _ => rfl) ?_ ?_ ⟨hs, hs⟩
  · exact List.forall₂_same.mpr fun f h => ⟨rfl, hR f h⟩
  · rw [hf]; exact .none

end Scanner

open Scanner

section

variable {f : Char → Char} {t : List Char}

theorem dropMark_map (hm : ∀ c ∈ t, f c = byteOrderMark ↔ c = byteOrderMark) :
    dropMark (t.map f) = (dropMark t).map f := by
  cases t with
  | nil => rfl
  | cons c t =>
    simp only [List.map_cons, dropMark, hm c List.mem_cons_self]
    split <;> rfl

/-- Scans of texts that mean the same to them, character by character, agree. -/
theorem agree_map (hm : ∀ c ∈ t, f c = byteOrderMark ↔ c = byteOrderMark) (ha : ∀ c ∈ t, Alike g g' c (f c)) :
    Agree Eq g g' (opened.feed g (dropMark t)) (opened.feed g' (dropMark (t.map f))) := by
  rw [dropMark_map hm]
  exact agree_feed (agree_opened Eq g g') f (fun c hc => ha c ((dropMark_suffix t).subset hc)) (fun _ _ _ _ => rfl)

/-- Two grammars find the same in texts that mean the same to them, character by character. -/
theorem scan_map (hm : ∀ c ∈ t, f c = byteOrderMark ↔ c = byteOrderMark) (ha : ∀ c ∈ t, Alike g g' c (f c))
    (hg : g = .templates ↔ g' = .templates) : scan g t = scan g' (t.map f) := by
  rw [scan_eq_dropMark, scan_eq_dropMark]
  exact eq_of_like ((agree_map hm ha).verdict hg)

theorem mode_map (hm : ∀ c ∈ t, f c = byteOrderMark ↔ c = byteOrderMark) (ha : ∀ c ∈ t, Alike g g' c (f c)) :
    (start.feed g t).mode = (start.feed g' (t.map f)).mode := by
  by_cases ht : t = []
  · subst ht
    rfl
  · rw [feed_start g ht, feed_start g' (by simpa using ht)]
    exact (agree_map hm ha).mode.eq

end

end BracketBalance
