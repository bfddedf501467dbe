/-
  BracketBalance.Proofs.Classes — what a scan sees of a character: its class.

  Some characters mean something in themselves (`signs`). Of the others a scan sees no
  more than whether they are blank, and whether a slash behind them divides anything:
  it divides nothing behind one of the `operators`. So the names and the numbers of a
  text may be spelled in any way, and an operator put for another.

  Proved (`scan_respects`): a map of characters that respects the classes changes
  nothing that a scan finds, and none of its decisions between a regex and a division.
  The two scans remember different characters for the last significant one; what
  matters of it is the same (`Respects.alike`).
-/

import BracketBalance.Proofs.Insertion

namespace BracketBalance

/-- The characters that mean something in themselves. -/
def signs : List Char := ['/', '*', '\\', '"', '\'', '\x60', '(', ')', '[', ']', '{', '}', '\n', byteOrderMark]

/-- The other characters behind which a slash divides nothing. -/
def operators : List Char := ['=', ':', ',', ';', '+', '-', '%', '&', '|', '^', '!', '~', '?']

/-- The map keeps every sign, and takes blanks to blanks, operators to operators and the rest to the rest. -/
structure Respects (f : Char → Char) : Prop where
  sign : ∀ c ∈ signs, f c = c
  blank : ∀ c, isBlank c = true → c ≠ '\n' → isBlank (f c) = true ∧ f c ≠ '\n'
  operator : ∀ c ∈ operators, f c ∈ operators
  rest : ∀ c, c ∉ signs → isBlank c = false → c ∉ operators →
    f c ∉ signs ∧ isBlank (f c) = false ∧ f c ∉ operators

/-! ## Characters of one class -/

section

variable {g : Grammar} {c c' : Char}

theorem ne_of_not_mem_signs (h : c ∉ signs) {d : Char} (hd : d ∈ signs) : c ≠ d := by
  rintro rfl
  exact h hd

theorem not_mem_signs_of_isBlank (hb : isBlank c = true) (hc : c ≠ '\n') : c ∉ signs := by
  have hs : ∀ d ∈ signs, isBlank d = true → d = '\n' := List.forall_iff_forall_mem.mp (by decide)
  intro h
  exact hc (hs c h hb)

theorem of_mem_operators (h : c ∈ operators) : c ∉ signs ∧ isBlank c = false := by
  have ho : ∀ d ∈ operators, d ∉ signs ∧ isBlank d = false := List.forall_iff_forall_mem.mp (by decide)
  exact ho c h

/-- Among the characters that are no signs, the operators are those before a regex. -/
theorem mem_beforeRegex_iff (h : c ∉ signs) : c ∈ beforeRegex ↔ c ∈ operators := by
  have hsub : ∀ d ∈ beforeRegex, d ∈ signs ∨ d ∈ operators := List.forall_iff_forall_mem.mp (by decide)
  have hsup : ∀ d ∈ operators, d ∈ beforeRegex := List.forall_iff_forall_mem.mp (by decide)
  constructor
  · intro hb
    exact (hsub c hb).resolve_left h
  · exact hsup c

theorem alike_of_class (hc : c ∉ signs) (hc' : c' ∉ signs) (hb : isBlank c = isBlank c')
    (ho : c ∈ operators ↔ c' ∈ operators) : Alike g g c c' := by
  have hsub : ∀ d ∈ special, d ∈ signs := List.forall_iff_forall_mem.mp (by decide)
  obtain ⟨hs, hq, hk⟩ := not_mem_special_iff.mp fun h => hc (hsub c h)
  obtain ⟨hs', hq', hk'⟩ := not_mem_special_iff.mp fun h => hc' (hsub c' h)
  have hne : ∀ d ∈ signs, c ≠ d ∧ c' ≠ d := fun d hd => ⟨ne_of_not_mem_signs hc hd, ne_of_not_mem_signs hc' hd⟩
  exact {
    feed := by simp [hne '\n' (by decide)]
    star := by simp [hne '*' (by decide)]
    escape := by simp [hne '\\' (by decide)]
    escapes := by simp [hne '\\' (by decide)]
    quote := by rw [hq, hq']
    slash := by simp [hs, hs']
    bracket := by simp [hk, hk']
    significant := fun _ _ => by
      refine ⟨hb, ?_⟩
      rw [Bool.eq_iff_iff, List.contains_iff_mem, List.contains_iff_mem, mem_beforeRegex_iff hc,
        mem_beforeRegex_iff hc', ho] }

end

namespace Respects

variable {f : Char → Char}

theorem class_eq (h : Respects f) {c : Char} (hs : c ∉ signs) :
    f c ∉ signs ∧ isBlank c = isBlank (f c) ∧ (c ∈ operators ↔ f c ∈ operators) := by
  by_cases ho : c ∈ operators
  · have ho' := h.operator c ho
    obtain ⟨-, hb⟩ := of_mem_operators ho
    obtain ⟨hs', hb'⟩ := of_mem_operators ho'
    exact ⟨hs', hb.trans hb'.symm, iff_of_true ho ho'⟩
  cases hb : isBlank c with
  | true =>
    obtain ⟨hb', hn'⟩ := h.blank c hb (ne_of_not_mem_signs hs (by decide))
    have ho' : f c ∉ operators := by
      intro hm
      rw [(of_mem_operators hm).2] at hb'
      cases hb'
    exact ⟨not_mem_signs_of_isBlank hb' hn', hb'.symm, iff_of_false ho ho'⟩
  | false =>
    obtain ⟨hs', hb', ho'⟩ := h.rest c hs hb ho
    exact ⟨hs', hb'.symm, iff_of_false ho ho'⟩

theorem alike (h : Respects f) (g : Grammar) (c : Char) : Alike g g c (f c) := by
  by_cases hs : c ∈ signs
  · rw [h.sign c hs]
    exact Alike.refl g c
  · obtain ⟨hs', hb, ho⟩ := h.class_eq hs
    exact alike_of_class hs hs' hb ho

theorem eq_mark_iff (h : Respects f) (c : Char) : f c = byteOrderMark ↔ c = byteOrderMark := by
  by_cases hs : c ∈ signs
  · rw [h.sign c hs]
  · obtain ⟨hs', -⟩ := h.class_eq hs
    exact iff_of_false (ne_of_not_mem_signs hs' (by decide)) (ne_of_not_mem_signs hs (by decide))

end Respects

/-- A scan finds the same, at the same places, in a text with other characters of the same classes, and it takes every
    slash for the same on the way. -/
theorem scan_respects {f : Char → Char} (h : Respects f) (g : Grammar) (t : List Char) :
    scan g (t.map f) = scan g t ∧
      ∀ p, p <+: t → (Scanner.start.feed g (p.map f)).mode = (Scanner.start.feed g p).mode := by
  refine ⟨?_, ?_⟩
  · exact (scan_map (fun c _ => h.eq_mark_iff c) (fun c _ => h.alike g c) Iff.rfl).symm
  · intro p _
    exact (mode_map (fun c _ => h.eq_mark_iff c) fun c _ => h.alike g c).symm

def respelled (c : Char) : Char :=
  if c = 'a' then 'ß' else if c = '1' then 'x' else if c = '=' then '!' else if c = ' ' then '\t' else c

theorem respects_respelled : Respects respelled := by
  have hkept : ∀ c, c ≠ 'a' → c ≠ '1' → c ≠ '=' → c ≠ ' ' → respelled c = c := by
    intro c ha h1 he hs
    simp [respelled, ha, h1, he, hs]
  refine ⟨List.forall_iff_forall_mem.mp (by decide), ?_, List.forall_iff_forall_mem.mp (by decide), ?_⟩
  · intro c hb hn
    have hne : ∀ d, isBlank d = false → c ≠ d := by
      rintro d hd rfl
      rw [hb] at hd
      cases hd
    by_cases hs : c = ' '
    · subst hs
      decide
    · rw [hkept c (hne _ (by decide)) (hne _ (by decide)) (hne _ (by decide)) hs]
      exact ⟨hb, hn⟩
  · intro c hc hb ho
    have he : c ≠ '=' := by
      rintro rfl
      exact ho (by decide)
    have hs : c ≠ ' ' := by
      rintro rfl
      exact absurd hb (by decide)
    by_cases ha : c = 'a'
    · subst ha
      decide
    by_cases h1 : c = '1'
    · subst h1
      decide
    · rw [hkept c ha h1 he hs]
      exact ⟨hc, hb, ho⟩

/-- A regex behind an operator, and a division behind a name, before a closer of the wrong kind. -/
theorem scan_respects_regex :
    Respects respelled ∧ scan .full ("(a = /1]/; a / 1]".toList.map respelled) = scan .full "(a = /1]/; a / 1]".toList ∧
      scan .full "(a = /1]/; a / 1]".toList = some (.mismatched '(' ⟨1, 1⟩ ']' ⟨1, 17⟩) :=
  ⟨respects_respelled, (scan_respects respects_respelled .full _).1, by decide⟩

end BracketBalance
