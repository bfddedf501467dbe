/-
  BracketBalance.Proofs.Literals — where a string, a template or a regex ends.

  A scan goes forward through a literal and keeps one flag: that the next character is
  escaped. Looking back from a delimiter, what counts is the run of backslashes just
  before it (`backslashes`): the flag is set when the run is odd (`literal_inside`).

  Proved (`literal_closes`): a literal is left at its first delimiter behind an even run
  of backslashes (`ClosesAt`), and not at all if there is none. Nothing else in it
  matters, and it changes none of the open brackets.
-/

import BracketBalance.Proofs.Enclosure

namespace BracketBalance

/-- How many backslashes end `u`, without a gap. -/
def backslashes (u : List Char) : Nat := (u.reverse.takeWhile (· = '\\')).length

/-- The delimiter `d` stands at `i` behind an even run of backslashes. -/
def ClosesAt (d : Char) (b : List Char) (i : Nat) : Prop := b[i]? = some d ∧ backslashes (b.take i) % 2 = 0

instance (d : Char) (b : List Char) (i : Nat) : Decidable (ClosesAt d b i) := inferInstanceAs (Decidable (_ ∧ _))

/-- The delimiters `d` and the backslashes of `b'` stand where those of `b` do. -/
def SameMarks (d : Char) (b b' : List Char) : Prop := ∀ i : Nat, ∀ c ∈ [d, '\\'], b'[i]? = some c ↔ b[i]? = some c

/-- Behind the delimiter `d` the text `b` is the body of a literal: a slash is a comment before a slash or a star. -/
def Delimiter.Admits (d : Delimiter) (b : List Char) : Prop :=
  d = .slash → b.head? ≠ some '/' ∧ b.head? ≠ some '*'

/-! ## Runs of backslashes -/

theorem backslashes_escape (u : List Char) : backslashes (u ++ ['\\']) = backslashes u + 1 := by simp [backslashes]

theorem backslashes_other {c : Char} (h : c ≠ '\\') (u : List Char) : backslashes (u ++ [c]) = 0 := by
  simp [backslashes, h]

theorem backslashes_take_congr {b b' : List Char} (h : ∀ i : Nat, b'[i]? = some '\\' ↔ b[i]? = some '\\') {i : Nat}
    (hi : i ≤ b.length) (hi' : i ≤ b'.length) : backslashes (b'.take i) = backslashes (b.take i) := by
  induction i with
  | zero => rfl
  | succ i ih =>
    obtain ⟨c, hc, htake⟩ := exists_take_succ (show i < b.length by omega)
    obtain ⟨c', hc', htake'⟩ := exists_take_succ (show i < b'.length by omega)
    have hcc : c' = '\\' ↔ c = '\\' := by simpa [hc, hc'] using h i
    rw [htake, htake']
    by_cases hb : c = '\\'
    · rw [hb, hcc.mpr hb, backslashes_escape, backslashes_escape, ih (by omega) (by omega)]
    · rw [backslashes_other hb, backslashes_other fun hb' => hb (hcc.mp hb')]

theorem closesAt_congr {d : Char} {b b' : List Char} (h : SameMarks d b b') (i : Nat) :
    ClosesAt d b' i ↔ ClosesAt d b i := by
  have hd : b'[i]? = some d ↔ b[i]? = some d := h i d (by simp)
  have hrun : b[i]? = some d → backslashes (b'.take i) = backslashes (b.take i) := by
    intro hb
    have hlt : i < b.length := (List.getElem?_eq_some_iff.mp hb).1
    have hlt' : i < b'.length := (List.getElem?_eq_some_iff.mp (hd.mpr hb)).1
    exact backslashes_take_congr (fun j => h j '\\' (by simp)) (by omega) (by omega)
  rw [ClosesAt, ClosesAt, hd]
  exact and_congr_right fun hb => by rw [hrun hb]

/-! ## The flag and the run -/

/-- The mode just after the delimiter that opens a literal. -/
def Delimiter.opened (d : Delimiter) (st : Position) : Mode :=
  if d = .slash then .regexOpen st else .literal d st false

/-- The mode after `u` in a literal that `u` does not close. -/
def Delimiter.reading (d : Delimiter) (st : Position) (u : List Char) : Mode :=
  if u = [] then d.opened st else .literal d st (backslashes u % 2 = 1)

theorem unfinished_opened (d : Delimiter) (st : Position) : (d.opened st).unfinished = some (d.kind, st) := by
  cases d <;> rfl

section

variable {d : Delimiter} {st : Position} {u b : List Char} {c : Char}

theorem literal_inside (d : Delimiter) (st : Position) (u : List Char) (c : Char) :
    (Mode.literal d st (backslashes u % 2 = 1)).inside c =
      if c = d.char ∧ backslashes u % 2 = 0 then .code else .literal d st (backslashes (u ++ [c]) % 2 = 1) := by
  have hd := d.char_ne_escape
  rcases Nat.mod_two_eq_zero_or_one (backslashes u) with hrun | hrun
  · have hflag : decide (backslashes u % 2 = 1) = false := by simp [hrun]
    rw [hflag]
    show Mode.inLiteral d st c = _
    by_cases hc : c = '\\'
    · have hnext : (backslashes u + 1) % 2 = 1 := by omega
      subst hc
      simp [Mode.inLiteral, hd.symm, backslashes_escape, hnext]
    · simp [Mode.inLiteral, hc, hrun, backslashes_other hc]
  · have hflag : decide (backslashes u % 2 = 1) = true := by simp [hrun]
    rw [hflag]
    show Mode.literal d st false = _
    by_cases hc : c = '\\'
    · have hnext : (backslashes u + 1) % 2 = 0 := by omega
      subst hc
      simp [hd.symm, backslashes_escape, hnext]
    · simp [hrun, backslashes_other hc]

/-- The first character of a regex is read as any other, unless it makes the slash a comment. -/
theorem opened_inside (hc : d = .slash → c ≠ '/' ∧ c ≠ '*') :
    (d.opened st).inside c = (Mode.literal d st false).inside c := by
  by_cases hd : d = .slash
  · obtain ⟨h1, h2⟩ := hc hd
    subst hd
    simp [Delimiter.opened, Mode.inside, h1, h2]
  · rw [Delimiter.opened, if_neg hd]

theorem reading_inside (hb : d.Admits b) (hu : u ++ [c] <+: b) :
    (d.reading st u).inside c =
      if c = d.char ∧ backslashes u % 2 = 0 then .code else d.reading st (u ++ [c]) := by
  have hnext : d.reading st (u ++ [c]) = .literal d st (backslashes (u ++ [c]) % 2 = 1) := if_neg (by simp)
  rw [hnext, ← literal_inside]
  by_cases hn : u = []
  · subst hn
    have hhead : b.head? = some c := by
      obtain ⟨r, rfl⟩ := hu
      rfl
    exact opened_inside (fun hs => by simpa [hhead] using hb hs)
  · rw [Delimiter.reading, if_neg hn]

theorem follows_literal (st : Position) (hb : d.Admits b) :
    (d.opened st).Follows b (d.reading st) fun u c => c = d.char ∧ backslashes u % 2 = 0 where
  first := if_pos rfl
  inside u := by
    cases d <;> simp only [Delimiter.reading, Delimiter.opened] <;> split <;> exact ⟨rfl, rfl⟩
  stays u c hu hn := by rw [reading_inside hb hu, if_neg hn]
  leaves u c hu he := by rw [reading_inside hb hu, if_pos he]

theorem pickedAt_closes (d : Char) (b : List Char) (i : Nat) :
    PickedAt (fun u c => c = d ∧ backslashes u % 2 = 0) b i ↔ ClosesAt d b i := by
  simp [PickedAt, ClosesAt]

end

/-! ## Where a literal begins and ends -/

namespace Scanner

variable {g : Grammar} {s : Scanner} {d : Delimiter}

/-- The delimiter `d` opens a literal here: a quote does in all code, a slash where it divides nothing and comes
    behind no other slash of code. -/
def OpensLiteral (g : Grammar) (s : Scanner) (d : Delimiter) : Prop :=
  s.atCode ∧ (d = .slash → g = .full ∧ s.mode.slash? = none ∧ s.opensRegex = true)

theorem read_opening (hf : s.fault = none) (h : s.OpensLiteral g d) :
    s.read g d.char = { s.moved d.char with mode := d.opened s.cursor.next } := by
  obtain ⟨ha, hs⟩ := h
  rw [read_eq_take hf (fun hm => d.char_ne_mark hm.2), take_atCode ha]
  by_cases hd : d = .slash
  · obtain ⟨rfl, hq, ho⟩ := hs hd
    subst hd
    have ho' : (s.moved '/').opensRegex = true := ho
    rw [hq]
    show (s.moved '/').code .full none _ '/' = _
    rw [code_slash rfl, if_pos ho']
    rfl
  · have hq : Delimiter.ofChar? d.char = some d := by
      cases d with
      | slash => exact absurd rfl hd
      | _ => rfl
    have hmem := (Delimiter.eq_of_ofChar? hq).2
    have hne : ∀ c : Char, c ∉ ['"', '\'', '\x60'] → d.char ≠ c := fun c hc e => hc (e ▸ hmem)
    rw [code_plain (fun hn => hne _ (by decide) hn.2) (fun hn => hne _ (by decide) hn.2)
      (fun hn => hne _ (by decide) hn.2), plain_quote hq, Delimiter.opened, if_neg hd]

variable {st : Position} {b : List Char}

theorem leavesAt_literal (h : s.Going) (hm : s.mode = d.opened st) (hb : d.Admits b) (i : Nat) :
    s.LeavesAt g b i ↔ IsLeast {i | ClosesAt d.char b i} i := by
  rw [leavesAt_iff h (hm ▸ follows_literal st hb)]
  simp only [pickedAt_closes]

theorem staysIn_literal (h : s.Going) (hm : s.mode = d.opened st) (hb : d.Admits b) :
    s.StaysIn g b ↔ ∀ i, ¬ ClosesAt d.char b i := by
  rw [staysIn_iff h (hm ▸ follows_literal st hb)]
  simp only [pickedAt_closes]

end Scanner

open Scanner

/-- A literal is left at its first delimiter behind an even run of backslashes. What else stands in it plays no part,
    and no bracket of it is opened or closed. -/
theorem literal_closes {g : Grammar} {p b : List Char} {d : Delimiter} (hf : (start.feed g p).fault = none)
    (ho : (start.feed g p).OpensLiteral g d) (hb : d.Admits b) :
    let s := start.feed g (p ++ [d.char])
    s.mode.unfinished = some (d.kind, (start.feed g p).cursor.next) ∧
    (∀ i, s.LeavesAt g b i ↔ IsLeast {i | ClosesAt d.char b i} i) ∧
    (s.StaysIn g b ↔ ∀ i, ¬ ClosesAt d.char b i) ∧
    (∀ b', SameMarks d.char b b' → d.Admits b' →
      (∀ i, s.LeavesAt g b' i ↔ s.LeavesAt g b i) ∧ (s.StaysIn g b' ↔ s.StaysIn g b)) ∧
    ∀ i, s.StaysIn g (b.take i) →
      (s.feed g (b.take (i + 1))).unclosed = (start.feed g p).unclosed ∧ (s.feed g (b.take (i + 1))).fault = none := by
  intro s
  have he : s = { (start.feed g p).moved d.char with mode := d.opened (start.feed g p).cursor.next } := by
    show start.feed g (p ++ [d.char]) = _
    rw [feed_snoc, read_opening hf ho]
  have hmode : s.mode = d.opened (start.feed g p).cursor.next := by rw [he]
  have hgo : s.Going := by rw [he]; exact ⟨hf, rfl⟩
  refine ⟨by rw [hmode, unfinished_opened], leavesAt_literal hgo hmode hb, staysIn_literal hgo hmode hb, ?_, ?_⟩
  · intro b' hsame hb'
    have hcl := closesAt_congr hsame
    refine ⟨fun i => ?_, ?_⟩
    · simp only [leavesAt_literal hgo hmode hb', leavesAt_literal hgo hmode hb, hcl]
    · simp only [staysIn_literal hgo hmode hb', staysIn_literal hgo hmode hb, hcl]
  · intro i hs
    have hi : s.mode.inCode = false := by rw [Mode.inCode, hmode, unfinished_opened]; rfl
    have hu : s.unclosed = (start.feed g p).unclosed := by rw [he]; rfl
    rw [← hu]
    exact hs.unclosed hgo hi

/-- A regex with an escaped slash, a bracket, a line feed and two backslashes before the slash that closes it. -/
theorem literal_closes_regex :
    (start.feed .full ['=']).OpensLiteral .full .slash ∧
      (start.feed .full ['=', '/']).LeavesAt .full "\\/)\n'\\\\/g".toList 7 := by
  have ho : (start.feed .full ['=']).OpensLiteral .full .slash :=
    ⟨⟨by decide, by decide⟩, fun _ => ⟨rfl, by decide, by decide⟩⟩
  have hleast : IsLeast {i | ClosesAt '/' "\\/)\n'\\\\/g".toList i} 7 := by
    have hat : ClosesAt '/' "\\/)\n'\\\\/g".toList 7 := by decide
    have hn : ∀ j < 7, ¬ ClosesAt '/' "\\/)\n'\\\\/g".toList j := by decide
    exact isLeast_of_lt hat hn
  exact ⟨ho, ((literal_closes (d := .slash) (by decide) ho (fun _ => by decide)).2.1 7).mpr hleast⟩

end BracketBalance
