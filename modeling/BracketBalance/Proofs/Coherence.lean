/-
  BracketBalance.Proofs.Coherence — what the fields of a scan say of each other.

  A scan that keeps all it knows in fields of their own could have any value in any of
  them. `Coherent` says which values meet: what a grammar that does not know slashes or
  brackets never keeps, in which states a backslash, a slash or a regex without a body is
  pending and where it was read, and what is left of a scan that has halted.

  Some of it is in the fields alone (`Tied`). The rest is about places and brackets, and
  holds of the scanner that the fields describe (`Sound`, `Rooted`).

  Proved: the fields are coherent whatever chunks were fed, whether or not one of them
  halted the scan, and what they describe is the scanner of any session that was fed the
  same (`coherent_feedAll`).
-/

import BracketBalance.Proofs.Chunks
import BracketBalance.Proofs.Pending
import BracketBalance.Proofs.View

namespace BracketBalance

namespace Fields

variable {g : Grammar} {s : Fields}

structure Coherent (g : Grammar) (s : Fields) : Prop where
  /-- Where slashes mean nothing, neither a comment nor a regex is open, and no slash is pending. -/
  slashes : g ≠ .full →
    s.state ∉ [.lineComment, .blockComment, .regex] ∧ s.division = none ∧ s.regexBodyEmpty = false
  /-- Where brackets mean nothing, none is open and nothing halts the scan. -/
  inert : g = .templates → s.stack = [] ∧ s.fault = none
  /-- A backslash hides the next character of a string, a template or a regex, or of the code of `templates`. -/
  escaped : s.escape = true →
    (∃ quote, s.state = .string quote) ∨ s.state = .template ∨ s.state = .regex ∨ (s.state = .code ∧ g = .templates)
  /-- A slash that divides is the last character read, and the last that is significant. -/
  division : ∀ q, s.division = some q →
    g = .full ∧ s.state = .code ∧ s.before = some '/' ∧ q = s.cursor.position
  /-- A regex of which nothing was read began at the last character read. -/
  body : s.regexBodyEmpty = true → s.state = .regex ∧ s.escape = false ∧ s.literalStart = s.cursor.position
  quoted : ∀ quote, s.state = .string quote → quote = '"' ∨ quote = '\''
  visible : ∀ b, s.before = some b → isBlank b = false ∧ b ≠ '"' ∧ b ≠ '\'' ∧ b ≠ '\x60'
  /-- So a slash opens a regex at the start and after the characters listed for it, and never after a blank. -/
  opensRegex : s.opensRegex = s.before.all beforeRegex.contains
  openers : ∀ f ∈ s.stack, f.opener = '(' ∨ f.opener = '[' ∨ f.opener = '{'
  ordered : s.stack.Pairwise fun f k => f.position < k.position
  behind : ∀ f ∈ s.stack, f.position ≤ s.cursor.position
  /-- What is unfinished began after the open brackets. -/
  began : s.state ≠ .code → (∀ f ∈ s.stack, f.position < s.literalStart) ∧ s.literalStart ≤ s.cursor.position
  /-- A halted scan is in code, right behind the closer that halted it. -/
  halted : ∀ v, s.fault = some v → s.state = .code ∧ Halted s.stack s.cursor.position v

/-! ## What the scanner that the fields describe says of them -/

theorem place?_mode (hs : s.state ≠ .code) : s.mode.place? = some s.literalStart := by
  unfold mode
  split
  · rename_i hst
    exact absurd hst hs
  · rfl
  · rfl
  · split <;> rfl
  · rfl
  · rfl

theorem state_of_mode (hm : s.mode = .code) : s.state = .code := by
  by_contra hs
  have hp := place?_mode hs
  rw [hm] at hp
  cases hp

theorem Tied.mode_of_division (h : Tied g s) {q : Position} (hq : s.division = some q) : s.mode = .slash q := by
  obtain ⟨hg, hs⟩ := h.division q hq
  exact mode_slash hs (h.escape_eq_false (by rw [hs]; rfl) (by rw [hg]; nofun)) hq

theorem mem_of_delimiter? {state : ScanState} (h : state.delimiter?.isSome = true) :
    (∃ quote, state = .string quote) ∨ state = .template ∨ state = .regex := by
  cases state with
  | string quote => exact .inl ⟨quote, rfl⟩
  | template => exact .inr (.inl rfl)
  | regex => exact .inr (.inr rfl)
  | _ => cases h

theorem coherent_of_view (h : Tied g s) (hsound : Scanner.Sound g s.view) (hroot : s.view.Rooted) : Coherent g s where
  slashes hg := by
    refine ⟨fun hs => hg (h.slashes ?_), ?_, ?_⟩
    · simp only [List.mem_cons, List.not_mem_nil, or_false] at hs ⊢
      rcases hs with hs | hs | hs <;> simp [hs]
    · cases hd : s.division with
      | none => rfl
      | some q => exact absurd (h.division q hd).1 hg
    · cases hb : s.regexBodyEmpty with
      | false => rfl
      | true => exact absurd (h.slashes (by simp [(h.body hb).1])) hg
  inert hg := by
    obtain ⟨hstack, hf⟩ := hsound.inert (by rw [hg]; rfl)
    exact ⟨List.reverse_eq_nil_iff.mp hstack, hf⟩
  escaped he := by
    rcases h.escape he with hd | hcode
    · rcases mem_of_delimiter? hd with hs | hs | hs
      · exact .inl hs
      · exact .inr (.inl hs)
      · exact .inr (.inr (.inl hs))
    · exact .inr (.inr (.inr hcode))
  division q hq := by
    obtain ⟨hg, hs⟩ := h.division q hq
    have hm : s.view.mode = .slash q := h.mode_of_division hq
    exact ⟨hg, hs, hroot.divides q (by rw [hm]; rfl), hroot.last q (by rw [hm]; rfl)⟩
  body hb := by
    obtain ⟨hs, he⟩ := h.body hb
    have hm : s.view.mode = .regexOpen s.literalStart := mode_regexOpen hs hb
    exact ⟨hs, he, hroot.last s.literalStart (by rw [hm]; rfl)⟩
  quoted := h.quote
  visible b hb := by
    have hquote := hroot.unquoted b hb
    refine ⟨hsound.visible b hb, ?_, ?_, ?_⟩ <;> rintro rfl <;> cases hquote
  opensRegex := by
    unfold opensRegex
    split
    · rename_i hb
      rw [hb]
      rfl
    · rename_i b hb
      rw [hb, hsound.visible b hb, Bool.or_false]
      rfl
  openers f hf := isOpener_iff.mp (hsound.openers f (List.mem_reverse.mpr hf))
  ordered := List.pairwise_reverse.mp hsound.ordered
  behind f hf := hsound.behind f (List.mem_reverse.mpr hf)
  began hs := by
    obtain ⟨hlt, hle⟩ := hroot.after s.literalStart (place?_mode hs)
    exact ⟨fun f hf => hlt f (List.mem_reverse.mpr hf), hle⟩
  halted v hv := by
    obtain ⟨hm, hh⟩ := hroot.halted v hv
    refine ⟨state_of_mode hm, ?_⟩
    cases hh with
    | unmatched c hc hstack => exact .unmatched c hc (List.reverse_eq_nil_iff.mp hstack)
    | mismatched o p c ho hc hne hbelow hlt =>
      exact .mismatched o p c ho hc hne (fun f hf => hbelow f (List.mem_reverse.mpr hf)) hlt

/-! ## Every scan -/

theorem coherent_feedAll (g : Grammar) (chunks : List (List Char)) : Coherent g (start.feedAll g chunks) ∧
    ∀ reporter onward,
      ((Session.start reporter).receiveAll g onward chunks).2.scanner = (start.feedAll g chunks).view := by
  obtain ⟨htied, hview⟩ := view_feedAll g chunks
  refine ⟨coherent_of_view htied ?_ ?_, fun reporter onward => ?_⟩
  · rw [hview]
    exact Scanner.sound g chunks.flatten
  · rw [hview]
    exact Scanner.rooted g chunks.flatten
  · rw [Session.receiveAll_session, Session.scanner_feed, hview]
    rfl

end Fields

end BracketBalance
