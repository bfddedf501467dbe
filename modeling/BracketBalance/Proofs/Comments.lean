/-
  BracketBalance.Proofs.Comments — the two ways into a comment, and the way out.

  A comment begins where a slash would open a regex, or where it would divide. In the
  first case the slash is revoked, in the second it stays the last significant
  character; what follows is the same (`feed_opening`), and the next slash opens a
  regex.

  A scan in a block comment keeps one flag: that a star came last. The comment is left
  when the text read in it ends in a star and a slash (`follows_comment`), which is at
  the end of their first occurrence (`isLeast_picked_iff`).

  Proved (`comment_closes`): both comments end at the first occurrence of what ends
  them, by whichever way they began, with the brackets open that were; one that does not
  end is blamed at its first slash; behind one that does, a slash opens a regex.
-/

import BracketBalance.Proofs.Enclosure

namespace BracketBalance

inductive Comment where
  | line
  | block
  deriving DecidableEq, Repr

namespace Comment

def kind : Comment → LiteralKind
  | line => .lineComment
  | block => .blockComment

/-- The character that makes the slash before it a comment. -/
def sign : Comment → Char
  | line => '/'
  | block => '*'

def ending : Comment → List Char
  | line => ['\n']
  | block => ['*', '/']

/-- The mode after `u` in a comment that `u` does not end. -/
def reading (k : Comment) (st : Position) (u : List Char) : Mode :=
  match k with
  | line => .lineComment st
  | block => .blockComment st (u.getLast? = some '*')

theorem opening_kind (k : Comment) : k.kind.opening = ['/', k.sign] := by cases k <;> rfl

theorem ending_ne_nil (k : Comment) : k.ending ≠ [] := by cases k <;> exact List.cons_ne_nil _ _

/-- What the last two characters say of the end of a comment. -/
theorem ending_suffix_iff (k : Comment) (u : List Char) (c : Char) : k.ending <:+ u ++ [c] ↔
    match k with
    | line => c = '\n'
    | block => u.getLast? = some '*' ∧ c = '/' := by
  cases k with
  | line =>
    show ['\n'] <:+ u ++ [c] ↔ c = '\n'
    rw [List.singleton_suffix_iff_getLast?_eq_some, List.getLast?_concat, Option.some.injEq]
  | block =>
    show ['*'] ++ ['/'] <:+ u ++ [c] ↔ u.getLast? = some '*' ∧ c = '/'
    by_cases hc : c = '/'
    · rw [hc, List.suffix_append_self_iff, List.singleton_suffix_iff_getLast?_eq_some]
      exact (and_iff_left rfl).symm
    · refine iff_of_false (fun h => hc ?_) (fun h => hc h.2)
      have hlast : ['/'] <:+ u ++ [c] := (List.suffix_append ['*'] ['/']).trans h
      rw [List.singleton_suffix_iff_getLast?_eq_some, List.getLast?_concat] at hlast
      exact Option.some.inj hlast

theorem follows_comment (k : Comment) (st : Position) (t : List Char) :
    (k.reading st []).Follows t (k.reading st) fun u c => k.ending <:+ u ++ [c] where
  first := rfl
  inside u := by cases k <;> exact ⟨rfl, rfl⟩
  stays u c _ hn := by
    rw [ending_suffix_iff] at hn
    cases k with
    | line => exact if_neg hn
    | block => simp_all [reading, Mode.inside]
  leaves u c _ he := by
    rw [ending_suffix_iff] at he
    cases k with
    | line => exact if_pos he
    | block => simp [reading, Mode.inside, he]

end Comment

/-! ## The first occurrence -/

section

variable {w t : List Char} {i j : Nat}

/-- A word that ends with the character at `j` stands in the text from its length before that on. -/
theorem pickedAt_suffix_iff (hw : w ≠ []) : PickedAt (fun u c => w <:+ u ++ [c]) t j ↔
    ∃ i, j + 1 = i + w.length ∧ w <+: t.drop i := by
  constructor
  · intro h
    obtain ⟨c, hc, v, hv⟩ := h
    have hlt : j < t.length := (List.getElem?_eq_some_iff.mp hc).1
    rw [← take_succ_of_getElem? hc] at hv
    have hlen := congrArg List.length hv
    rw [List.length_append, List.length_take] at hlen
    refine ⟨v.length, by omega, t.drop (j + 1), ?_⟩
    have ht : t = v ++ (w ++ t.drop (j + 1)) := by
      rw [← List.append_assoc, hv, List.take_append_drop]
    rw [ht, List.drop_left, ← ht]
  · intro h
    obtain ⟨i, hj, r, hr⟩ := h
    have hpos : 0 < w.length := List.length_pos_iff.mpr hw
    have hi : i < t.length := by
      have hlen := congrArg List.length hr
      rw [List.length_append, List.length_drop] at hlen
      omega
    have ht : t = (t.take i ++ w) ++ r := by rw [List.append_assoc, hr, List.take_append_drop]
    have hlen : (t.take i ++ w).length = j + 1 := by
      rw [List.length_append, List.length_take]
      omega
    have hlt : j < t.length := by
      rw [ht, List.length_append, hlen]
      omega
    obtain ⟨c, hc, htake⟩ := exists_take_succ hlt
    refine ⟨c, hc, t.take i, ?_⟩
    rw [← htake, ht, ← hlen, List.take_left]
    congr 1
    rw [← ht]

theorem isLeast_picked_iff (hw : w ≠ []) : IsLeast {j | PickedAt (fun u c => w <:+ u ++ [c]) t j} j ↔
    ∃ i, j + 1 = i + w.length ∧ IsLeast {i | w <+: t.drop i} i := by
  have hpos : 0 < w.length := List.length_pos_iff.mpr hw
  constructor
  · intro h
    obtain ⟨hj, hleast⟩ := h
    obtain ⟨i, hi, hp⟩ := (pickedAt_suffix_iff hw).mp hj
    refine ⟨i, hi, hp, fun i' hp' => ?_⟩
    have hle : j ≤ i' + w.length - 1 := hleast ((pickedAt_suffix_iff hw).mpr ⟨i', by omega, hp'⟩)
    omega
  · intro h
    obtain ⟨i, hi, hp, hleast⟩ := h
    refine ⟨(pickedAt_suffix_iff hw).mpr ⟨i, hi, hp⟩, fun j' hj' => ?_⟩
    obtain ⟨i', hi', hp'⟩ := (pickedAt_suffix_iff hw).mp hj'
    have hle : i ≤ i' := hleast hp'
    omega

theorem picked_iff_infix (hw : w ≠ []) : (∃ j, PickedAt (fun u c => w <:+ u ++ [c]) t j) ↔ w <:+: t := by
  have hpos : 0 < w.length := List.length_pos_iff.mpr hw
  simp only [pickedAt_suffix_iff hw]
  constructor
  · intro h
    obtain ⟨-, i, -, hp⟩ := h
    exact hp.isInfix.trans (List.drop_suffix i t).isInfix
  · intro h
    obtain ⟨v, r, ht⟩ := h
    refine ⟨v.length + w.length - 1, v.length, by omega, r, ?_⟩
    rw [← ht, List.append_assoc, List.drop_left]

end

/-! ## The way in, and the way out -/

namespace Scanner

variable {g : Grammar} {s : Scanner} {k : Comment} {st : Position} {p x : List Char}

/-- A slash and the sign of a comment in code: the comment begins at the slash, whether or not a regex might have,
    and a slash behind it may open one. -/
theorem feed_opening (hf : (start.feed .full p).fault = none) (hc : (start.feed .full p).mode.inCode = true)
    (hs : (start.feed .full p).mode.slash? = none) (k : Comment) :
    (start.feed .full (p ++ k.kind.opening)).Going ∧
    (start.feed .full (p ++ k.kind.opening)).mode = k.reading (start.feed .full p).cursor.next [] ∧
    (start.feed .full (p ++ k.kind.opening)).unclosed = (start.feed .full p).unclosed ∧
    (start.feed .full (p ++ k.kind.opening)).opensRegex = true := by
  rw [feed_append, k.opening_kind]
  have ha : (start.feed .full p).atCode := (sound .full p).atCode rfl hc
  generalize start.feed .full p = s at *
  have hr : s.read .full '/' = (s.moved '/').code .full none s.cursor.next '/' := by
    rw [read_eq_take hf (fun h => absurd h.2 (by decide)), take_atCode ha, hs]
  rw [code_slash rfl] at hr
  cases ho : s.opensRegex with
  | true =>
    have ho' : (s.moved '/').opensRegex = true := ho
    rw [if_pos ho'] at hr
    have h2 : (s.read .full '/').feed .full [k.sign] = (s.read .full '/').past [k.sign] (k.reading s.cursor.next []) :=
      feed_inside (m := .regexOpen s.cursor.next) (by rw [hr]; exact ⟨hf, rfl⟩) (by rw [hr]) rfl (by cases k <;> rfl)
    rw [feed_cons, h2, hr]
    exact ⟨⟨hf, rfl⟩, rfl, rfl, ho⟩
  | false =>
    have ho' : (s.moved '/').opensRegex = false := ho
    rw [ho', if_neg Bool.false_ne_true] at hr
    have h2 : (s.read .full '/').read .full k.sign
        = { (s.read .full '/').moved k.sign with mode := k.reading s.cursor.next [] } := by
      rw [read_eq_take (by rw [hr]; exact hf) (by rw [hr]; nofun), take_slash (q := s.cursor.next) (by rw [hr])]
      cases k with
      | line => exact code_lineComment rfl _
      | block => exact code_blockComment _
    rw [feed_cons, feed_one, h2, hr]
    exact ⟨⟨hf, rfl⟩, rfl, rfl, rfl⟩

/-- Behind blanks in code where a slash divides nothing, it opens a regex or a comment. -/
theorem feed_blanks_slash (h : s.Going) (hm : s.mode = .code) (ho : s.opensRegex = true) {w : List Char}
    (hw : ∀ c ∈ w, isBlank c = true) :
    (s.feed .full (w ++ ['/'])).mode = .regexOpen (s.feed .full w).cursor.next := by
  rw [feed_append, feed_inert (.blanks hw) h hm, feed_slash (h.past _ _) rfl ho]
  rfl

theorem leavesAt_comment (h : s.Going) (hm : s.mode = k.reading st []) (j : Nat) : s.LeavesAt g x j ↔
    ∃ i, j + 1 = i + k.ending.length ∧ IsLeast {i | k.ending <+: x.drop i} i := by
  rw [leavesAt_iff h (hm ▸ k.follows_comment st x), isLeast_picked_iff k.ending_ne_nil]

theorem staysIn_comment (h : s.Going) (hm : s.mode = k.reading st []) : s.StaysIn g x ↔ ¬ k.ending <:+: x := by
  rw [staysIn_iff h (hm ▸ k.follows_comment st x), ← picked_iff_infix k.ending_ne_nil, not_exists]

end Scanner

open Scanner

/-- A comment ends at the first occurrence of what ends it. -/
theorem comment_closes {p : List Char} (hf : (start.feed .full p).fault = none)
    (hc : (start.feed .full p).mode.inCode = true) (hs : (start.feed .full p).mode.slash? = none) (k : Comment)
    (x : List Char) :
    let s := start.feed .full (p ++ k.kind.opening)
    s.mode.unfinished = some (k.kind, (start.feed .full p).cursor.next) ∧
    (s.StaysIn .full x ↔ ¬ k.ending <:+: x) ∧
    (∀ j, s.LeavesAt .full x j ↔ ∃ i, j + 1 = i + k.ending.length ∧ IsLeast {i | k.ending <+: x.drop i} i) ∧
    (¬ k.ending <:+: x → scan .full (p ++ k.kind.opening ++ x) =
      some (.unterminatedLiteral k.kind (start.feed .full p).cursor.next)) ∧
    (∀ i, s.StaysIn .full (x.take i) → (s.feed .full (x.take (i + 1))).unclosed = (start.feed .full p).unclosed ∧
      (s.feed .full (x.take (i + 1))).fault = none) ∧
    ∀ j w, s.LeavesAt .full x j → (∀ c ∈ w, isBlank c = true) →
      (s.feed .full (x.take (j + 1) ++ w ++ ['/'])).mode
        = .regexOpen (s.feed .full (x.take (j + 1) ++ w)).cursor.next := by
  intro s
  obtain ⟨hgo, hmode, hopen, hregex⟩ := feed_opening hf hc hs k
  have hunf : s.mode.unfinished = some (k.kind, (start.feed .full p).cursor.next) := by
    rw [hmode]
    cases k <;> rfl
  have hi : s.mode.inCode = false := by rw [Mode.inCode, hunf]; rfl
  refine ⟨hunf, staysIn_comment hgo hmode, leavesAt_comment hgo hmode, fun hn => ?_, fun i hst => ?_,
    fun j w hl hw => ?_⟩
  · have hst : s.StaysIn .full x := (staysIn_comment hgo hmode).mpr hn
    obtain ⟨m, he, -⟩ := hst.feed_eq hgo hi
    have hu : (s.feed .full x).mode.unfinished = _ := (hst x List.prefix_rfl).trans hunf
    have hfault : (s.feed .full x).fault = none := by rw [he]; exact hgo.1
    rw [scan, feed_append, Scanner.verdict, hfault, hu]
    cases k <;> rfl
  · rw [← hopen]
    exact hst.unclosed hgo hi
  · have he := hl.feed_eq hgo hi
    have hpast : ∀ u, s.feed .full (x.take (j + 1) ++ u) = (s.past (x.take (j + 1)) .code).feed .full u := fun u => by
      rw [feed_append, he]
    rw [List.append_assoc, hpast, hpast]
    exact feed_blanks_slash (hgo.past _ _) rfl hregex hw

/-- A block comment after a value, in which a star and a slash touch only at the end, and a slash behind it. -/
theorem comment_closes_block :
    ((start.feed .full "a".toList).mode.inCode = true ∧ (start.feed .full "a".toList).mode.slash? = none) ∧
      (start.feed .full "a/*".toList).StaysIn .full "/* (*".toList ∧
      (start.feed .full "a/*".toList).LeavesAt .full "/ ***/".toList 5 := by
  have hf : (start.feed .full "a".toList).fault = none := by decide
  have hc : (start.feed .full "a".toList).mode.inCode = true := by decide
  have hs : (start.feed .full "a".toList).mode.slash? = none := by decide
  have hfirst : IsLeast {i | Comment.block.ending <+: "/ ***/".toList.drop i} 4 := by
    have hat : Comment.block.ending <+: "/ ***/".toList.drop 4 := by decide
    have hn : ∀ i < 4, ¬ Comment.block.ending <+: "/ ***/".toList.drop i := by decide
    exact isLeast_of_lt hat hn
  exact ⟨⟨hc, hs⟩, (comment_closes hf hc hs .block _).2.1.mpr (by decide),
    ((comment_closes hf hc hs .block _).2.2.1 5).mpr ⟨4, rfl, hfirst⟩⟩

end BracketBalance
