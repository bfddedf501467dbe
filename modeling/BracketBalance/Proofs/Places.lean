/-
  BracketBalance.Proofs.Places — what stands where a violation points.

  A violation is about a closer, an opener or the beginning of a literal or a comment:
  `Violation.mark` is the text it is about. A scan remembers the places of what it may
  still have to blame, and each of them is where that stands in the text, after the
  opening mark:
  - an open bracket (`standsAt_frame`), kept by every character;
  - what is unfinished (`standsAt_unfinished`), from where it was opened;
  - the closer that halts the scan, which is the next character (`standsAt_next`).

  Proved: the lines of the text have at the place of a violation what it is about, and
  at the place of the opener that a wrong closer met that opener (`legible_of_scan`).
-/

import BracketBalance.Proofs.Diagnosis
import BracketBalance.Proofs.Lines

namespace BracketBalance

/-! ## The text behind the mark -/

theorem dropMark_suffix (t : List Char) : dropMark t <:+ t := by
  cases t with
  | nil => exact List.suffix_rfl
  | cons c t =>
    rw [dropMark]
    split
    · exact List.suffix_cons c t
    · exact List.suffix_rfl

theorem dropMark_append {p : List Char} (hp : p ≠ []) (t : List Char) : dropMark (p ++ t) = dropMark p ++ t := by
  cases p with
  | nil => exact absurd rfl hp
  | cons c p =>
    rw [List.cons_append]
    by_cases h : c = byteOrderMark <;> simp [dropMark, h]

theorem dropMark_append_cons {c : Char} (hc : c ≠ byteOrderMark) (p t : List Char) :
    dropMark (p ++ c :: t) = dropMark p ++ c :: t := by
  cases p with
  | nil => simp [dropMark, hc]
  | cons d p => exact dropMark_append (List.cons_ne_nil d p) (c :: t)

theorem dropMark_eq_self {t : List Char} (h : t.head? ≠ some byteOrderMark) : dropMark t = t := by
  cases t with
  | nil => rfl
  | cons c t =>
    have hc : c ≠ byteOrderMark := by simpa using h
    exact if_neg hc

theorem count_dropMark (t : List Char) : (dropMark t).count '\n' = t.count '\n' := by
  cases t with
  | nil => rfl
  | cons c t =>
    by_cases hc : c = byteOrderMark
    · subst hc
      simp [dropMark, byteOrderMark]
    · simp [dropMark, hc]

namespace Scanner

variable {g : Grammar} {s : Scanner} {c : Char} {p t : List Char}

/-- A text that is not empty is read as what follows its mark. -/
theorem feed_start (g : Grammar) (ht : t ≠ []) : start.feed g t = opened.feed g (dropMark t) := by
  cases t with
  | nil => exact absurd rfl ht
  | cons c t =>
    by_cases h : c = byteOrderMark
    · subst h
      simp only [dropMark, if_true, feed_cons, read_mark (s := .start) rfl rfl, opened]
    · rw [read_opened h, dropMark, if_neg h]

/-- Every character but an opening mark moves the cursor, the one that halts the scan too. -/
theorem cursor_cases (hf : s.fault = none) :
    (s.fresh = true ∧ c = byteOrderMark ∧ (s.read g c).cursor = s.cursor) ∨
      (s.read g c).cursor = s.cursor.advance c := by
  cases change_read (g := g) (c := c) hf with
  | quiet _ hq => exact hq.cursor
  | opens _ _ e => exact .inr (by rw [e])
  | closes _ _ _ _ _ _ e => exact .inr (by rw [e])
  | unmatched _ _ _ e => exact .inr (by rw [e])
  | mismatched _ _ _ _ _ _ e => exact .inr (by rw [e])

theorem cursor_read (hf : s.fault = none) (hs : s.fresh = false) : (s.read g c).cursor = s.cursor.advance c := by
  rcases cursor_cases (g := g) (c := c) hf with ⟨h, -⟩ | h
  · rw [hs] at h; cases h
  · exact h

theorem cursor_feed (hs : s.fresh = false) (hf : (s.feed g t).fault = none) :
    (s.feed g t).cursor = t.foldl Cursor.advance s.cursor := by
  induction t generalizing s with
  | nil => rfl
  | cons c t ih =>
    have hc : (s.read g c).fault = none := fault_of_feed hf
    have hf0 : s.fault = none := fault_of_feed (t := [c]) hc
    rw [feed_cons, ih (fresh_read hf0) hf, cursor_read hf0 hs, List.foldl_cons]

/-- While a scan goes on, its cursor stands behind the text. -/
theorem cursor_start (hf : (start.feed g t).fault = none) : (start.feed g t).cursor = .after (dropMark t) := by
  by_cases ht : t = []
  · subst ht; rfl
  · rw [feed_start g ht] at hf ⊢
    exact cursor_feed rfl hf

/-! ## The places that a scan remembers -/

theorem standsAt_next (hf : (start.feed g p).fault = none) (hc : c ≠ byteOrderMark) (m b : List Char) :
    StandsAt (dropMark (p ++ c :: m ++ b)) (c :: m) (start.feed g p).cursor.next := by
  refine ⟨dropMark p, b, ?_, by rw [cursor_start hf]⟩
  rw [List.append_assoc, List.cons_append, dropMark_append_cons hc, List.append_assoc, List.cons_append]

theorem standsAt_frame (hf : (start.feed g t).fault = none) :
    ∀ f ∈ (start.feed g t).stack, StandsAt (dropMark t) [f.opener] f.position := by
  induction t using List.reverseRecOn with
  | nil => exact fun f h => nomatch h
  | append_singleton t c ih =>
    rw [feed_snoc] at hf ⊢
    have hf0 : (start.feed g t).fault = none := fault_of_feed (t := [c]) hf
    have hold : ∀ f ∈ (start.feed g t).stack, StandsAt (dropMark (t ++ [c])) [f.opener] f.position := by
      intro f h
      have ht : t ≠ [] := by rintro rfl; cases h
      rw [dropMark_append ht]
      exact (ih hf0 f h).append [c]
    cases change_read (g := g) (c := c) hf0 with
    | quiet _ hq => rw [hq.frame.1]; exact hold
    | opens hc _ e =>
      rw [e]
      have hnew := standsAt_next hf0 (ne_of_isBracket hc.2.2).2.2.2.2.2.2 [] []
      rw [List.append_nil] at hnew
      exact List.forall_mem_cons.mpr ⟨hnew, hold⟩
    | closes f rest _ _ hs _ e =>
      rw [e]
      exact fun k hk => hold k (by rw [hs]; exact List.mem_cons_of_mem f hk)
    | unmatched _ _ _ e => rw [e] at hf; cases hf
    | mismatched _ _ _ _ _ _ e => rw [e] at hf; cases hf

end Scanner

def LiteralKind.opening : LiteralKind → List Char
  | .string quote => [quote]
  | .template => ['\x60']
  | .regex => ['/']
  | .lineComment => ['/', '/']
  | .blockComment => ['/', '*']

/-- What a violation is about. -/
def Violation.mark : Violation → List Char
  | .unmatchedCloser c _ => [c]
  | .mismatched _ _ c _ => [c]
  | .unterminatedLiteral kind _ => kind.opening
  | .unterminatedBracket o _ => [o]

/-- The text `m` has no end of a line in it, and no mark. -/
def Printed (m : List Char) : Prop := m ≠ [] ∧ ∀ c ∈ m, c ≠ '\n' ∧ c ≠ '\r' ∧ c ≠ byteOrderMark

/-- By looking at the characters of `m`, not at all the characters there are. -/
instance (m : List Char) : Decidable (Printed m) :=
  decidable_of_iff (m ≠ [] ∧ m.all (fun c => c ≠ '\n' ∧ c ≠ '\r' ∧ c ≠ byteOrderMark) = true) (by simp [Printed])

theorem printed_bracket {c : Char} (h : isBracket c = true) : Printed [c] := by
  simp only [isBracket, Bool.or_eq_true, isOpener_iff, isCloser_iff] at h
  rcases h with (rfl | rfl | rfl) | (rfl | rfl | rfl) <;> decide

theorem Mode.opening_of_unfinished {m : Mode} {kind : LiteralKind} {st : Position}
    (h : m.unfinished = some (kind, st)) : kind.delimiter.toList = kind.opening ∧ Printed kind.opening := by
  have hd : ∀ d : Delimiter, d.kind.delimiter.toList = d.kind.opening ∧ Printed d.kind.opening := by
    intro d
    cases d <;> exact ⟨by decide, by decide⟩
  cases m with
  | code => cases h
  | hidden => cases h
  | slash q => cases h
  | literal d q escaped => cases h; exact hd d
  | regexOpen q => cases h; exact hd .slash
  | lineComment q => cases h; exact ⟨by decide, by decide⟩
  | blockComment q star => cases h; exact ⟨by decide, by decide⟩

namespace Scanner

variable {g : Grammar} {s : Scanner} {c : Char} {p t : List Char} {v : Violation}

theorem standsAt_unfinished {kind : LiteralKind} {st : Position} (hf : (start.feed g t).fault = none)
    (h : (start.feed g t).mode.unfinished = some (kind, st)) : StandsAt (dropMark t) kind.opening st := by
  obtain ⟨p, q, ht, ⟨-, rfl⟩, -⟩ := openSince_of_unfinished hf h
  obtain ⟨hd, hne, hm⟩ := Mode.opening_of_unfinished h
  obtain ⟨c, m, hk⟩ := List.exists_cons_of_ne_nil hne
  have hp : (start.feed g p).fault = none := fault_before ⟨_, by rw [ht, List.append_assoc]⟩ hf
  rw [ht, hd, hk]
  exact standsAt_next hp (hm c (by rw [hk]; exact List.mem_cons_self)).2.2 m q

/-- The violation at the end of a text that has not halted the scan. -/
theorem verdict_cases (hf : s.fault = none) (h : s.verdict g = some v) :
    (∃ kind st, s.mode.unfinished = some (kind, st) ∧ v = .unterminatedLiteral kind st)
      ∨ ∃ f ∈ s.stack, v = .unterminatedBracket f.opener f.position := by
  have hi : s.innermost = some v → ∃ f ∈ s.stack, v = .unterminatedBracket f.opener f.position := by
    intro hi
    obtain ⟨f, hs, rfl⟩ := Option.map_eq_some_iff.mp hi
    exact ⟨f, List.mem_of_head? hs, rfl⟩
  simp only [verdict, hf] at h
  split at h
  · rename_i quote st hm
    split at h
    · exact .inr (hi h)
    · cases h; exact .inl ⟨_, st, hm, rfl⟩
  · rename_i kind st _ hm
    cases h
    exact .inl ⟨kind, st, hm, rfl⟩
  · exact .inr (hi h)

end Scanner

/-- The line that `p` counts has the text `m` from the column that `p` counts. -/
def Legible (t : List Char) (p : Position) (m : List Char) : Prop :=
  1 ≤ p.line ∧ ∃ l, (lines t)[p.line - 1]? = some l ∧ HasAt l p.column m

theorem legible_of_standsAt {t m : List Char} {p : Position} (hm : Printed m) (h : StandsAt t m p) : Legible t p m :=
  line_of_standsAt h hm.1 fun c hc => ⟨(hm.2 c hc).1, (hm.2 c hc).2.1⟩

open Scanner

section

variable {g : Grammar} {p : List Char}

theorem legible_frame (hf : (start.feed g p).fault = none) {f : Frame} (hs : f ∈ (start.feed g p).stack)
    (u : List Char) : Legible (dropMark (p ++ u)) f.position [f.opener] := by
  have hp : p ≠ [] := by rintro rfl; cases hs
  have hb : isBracket f.opener = true := isBracket_of_isOpener ((sound g p).openers f hs)
  rw [dropMark_append hp]
  exact legible_of_standsAt (printed_bracket hb) ((standsAt_frame hf f hs).append u)

theorem legible_next (hf : (start.feed g p).fault = none) {c : Char} (hc : isBracket c = true) (u : List Char) :
    Legible (dropMark (p ++ c :: u)) (start.feed g p).cursor.next [c] := by
  have hn := standsAt_next hf (ne_of_isBracket hc).2.2.2.2.2.2 [] u
  rw [List.append_assoc] at hn
  exact legible_of_standsAt (printed_bracket hc) hn

end

/-- Where a violation points, the lines of the text have what it is about. -/
theorem legible_of_scan {g : Grammar} {t : List Char} {v : Violation} (h : scan g t = some v) :
    Legible (dropMark t) v.position v.mark ∧
      ∀ o p c q, v = .mismatched o p c q → Legible (dropMark t) p [o] := by
  cases hf : (start.feed g t).fault with
  | none =>
    rcases verdict_cases hf h with ⟨kind, st, hm, rfl⟩ | ⟨f, hs, rfl⟩
    · refine ⟨?_, by rintro _ _ _ _ ⟨⟩⟩
      exact legible_of_standsAt (Mode.opening_of_unfinished hm).2 (standsAt_unfinished hf hm)
    · have hl := legible_frame hf hs []
      rw [List.append_nil] at hl
      exact ⟨hl, by rintro _ _ _ _ ⟨⟩⟩
  | some w =>
    obtain rfl : w = v := by rw [scan, verdict_of_fault hf] at h; cases h; rfl
    obtain ⟨p, c, q, rfl, hp, hc, -⟩ := exists_halt rfl hf
    obtain ⟨hcl, -, -, hb, -⟩ := pile_halt (sound g p) hp hc
    have hcloser := legible_next hp (isBracket_of_isCloser hcl) q
    generalize hr : (start.feed g p).opens = r, ((start.feed g p).read g c).opens = r' at hb
    cases hb with
    | unmatched => exact ⟨hcloser, by rintro _ _ _ _ ⟨⟩⟩
    | mismatched r o b hne hlt =>
      refine ⟨hcloser, fun o' p' c' q' e => ?_⟩
      cases e
      have ho : o ∈ (start.feed g p).opens := by rw [hr]; exact List.mem_append_right _ List.mem_cons_self
      obtain ⟨f, hs, rfl⟩ := List.mem_map.mp ho
      exact legible_frame hp (List.mem_reverse.mp hs) _

end BracketBalance
