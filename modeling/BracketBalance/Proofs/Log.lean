/-
  BracketBalance.Proofs.Log — all that a check says while it runs.

  A reporter sees the lines one after the other, from the second on: the first is never
  moved onto. So the last line it told of is always the last multiple of its interval
  (`Reporter.OnPace`), and the next line is told of when it is a multiple (`reach_next`).

  A session keeps to that (`Told`): what it has written is what it began with, the lines
  that were due, and its halt if it has halted. One character keeps it (`told_read`), so
  a text does (`told_feed`).

  Proved:
  - `log_check`: the records of a check, in order, for every text. The lines counted are
    those of the text that was read (`Reads`), whatever the line feeds stand in.
  - `overshoots_iff`: the line of a progress record may be one more than the total it is
    shown with, and when that is: a text that ends with a line feed has no line behind
    it, but the scan moves onto one (`one_line_too_far`).
-/

import BracketBalance.Proofs.Report

namespace BracketBalance

/-! ## The reporter -/

/-- The lines to tell of once a scan is on `line`. The first line is never moved onto. -/
def due (every line : Nat) : List Nat := (List.range' 2 (line - 1)).filter (every ∣ ·)

theorem due_succ (every : Nat) {line : Nat} (h : 1 ≤ line) :
    due every (line + 1) = due every line ++ if every ∣ line + 1 then [line + 1] else [] := by
  obtain ⟨n, rfl⟩ : ∃ n, line = n + 1 := ⟨line - 1, by omega⟩
  have hr : List.range' 2 (n + 1) = List.range' 2 n ++ [n + 1 + 1] := by
    rw [List.range'_1_concat, show 2 + n = n + 1 + 1 by omega]
  unfold due
  rw [Nat.add_sub_cancel, Nat.add_sub_cancel, hr, List.filter_append]
  by_cases hm : every ∣ n + 1 + 1
  · simp [hm]
  · simp [hm]

theorem mem_due {every line n : Nat} : n ∈ due every line ↔ 2 ≤ n ∧ n ≤ line ∧ every ∣ n := by
  unfold due
  rw [List.mem_filter, List.mem_range'_1, decide_eq_true_eq]
  omega

namespace Reporter

variable {r : Reporter} {line : Nat}

/-- The last line told of is the last that was due, on `line`. -/
structure OnPace (r : Reporter) (line : Nat) : Prop where
  begun : 1 ≤ line
  divides : r.every ∣ r.last
  le : r.last ≤ line
  near : r.every ≤ 1 ∨ line < r.last + r.every

theorem onPace_start (every : Nat) (total : Option Nat) : (start every total).OnPace 1 := by
  refine ⟨Nat.le_refl 1, Nat.dvd_zero every, Nat.zero_le 1, ?_⟩
  show every ≤ 1 ∨ 1 < 0 + every
  omega

theorem OnPace.dvd_iff (h : r.OnPace line) : r.every ∣ line + 1 ↔ r.every ≠ 0 ∧ r.every ≤ line + 1 - r.last := by
  obtain ⟨-, hd, hle, hn⟩ := h
  constructor
  · intro hm
    refine ⟨?_, Nat.le_of_dvd (by omega) (Nat.dvd_sub hm hd)⟩
    intro h0
    rw [h0] at hm
    exact Nat.succ_ne_zero line (Nat.eq_zero_of_zero_dvd hm)
  · rintro ⟨h0, hfar⟩
    by_cases h1 : r.every = 1
    · rw [h1]
      exact Nat.one_dvd _
    · -- no line between the two was a multiple, so this is the first one after the last
      have he : line + 1 = r.last + r.every := by omega
      rw [he]
      exact Nat.dvd_add hd (Nat.dvd_refl _)

theorem reach_next (h : r.OnPace line) : r.reach (line + 1) =
    if r.every ∣ line + 1 then ({ r with last := line + 1, emitted := r.emitted + 1 }, some ⟨line + 1, r.total⟩)
    else (r, none) := by
  have hdue := h.dvd_iff
  unfold reach
  by_cases hm : r.every ∣ line + 1
  · obtain ⟨h0, hfar⟩ := hdue.mp hm
    rw [if_pos hm, if_neg (by simp; omega)]
  · rw [if_neg hm, if_pos]
    rw [hdue] at hm
    simp only [Bool.or_eq_true, decide_eq_true_eq]
    omega

theorem onPace_next (h : r.OnPace line) : (r.reach (line + 1)).1.OnPace (line + 1) := by
  have hdue := h.dvd_iff
  obtain ⟨hb, hd, hle, hn⟩ := h
  rw [reach_next ⟨hb, hd, hle, hn⟩]
  by_cases hm : r.every ∣ line + 1
  · rw [if_pos hm]
    refine ⟨by omega, hm, Nat.le_refl _, ?_⟩
    show r.every ≤ 1 ∨ line + 1 < line + 1 + r.every
    omega
  · rw [if_neg hm]
    rw [hdue] at hm
    refine ⟨by omega, hd, ?_, ?_⟩
    · show r.last ≤ line + 1
      omega
    · show r.every ≤ 1 ∨ line + 1 < r.last + r.every
      omega

end Reporter

/-! ## A session -/

namespace Scanner

variable {g : Grammar} {s : Scanner} {c : Char}

/-- A scan moves onto a new line at a line feed. -/
theorem line_read (hf : s.fault = none) :
    (s.read g c).cursor.line = if c = '\n' then s.cursor.line + 1 else s.cursor.line := by
  have hadvance : (s.cursor.advance c).line = if c = '\n' then s.cursor.line + 1 else s.cursor.line := by
    unfold Cursor.advance
    split <;> rfl
  rcases cursor_cases (g := g) (c := c) hf with ⟨-, rfl, h⟩ | h
  · rw [h, if_neg (by decide)]
  · rw [h, hadvance]

end Scanner

namespace Session

/-- The session has written `before`, then told of the lines that were due, then of `halts`. -/
structure Told (every : Nat) (total : Option Nat) (before : List Log.Record) (s : Session) (halts : List Violation) :
    Prop where
  reporter : ∃ r, s.reporter = some r ∧ r.every = every ∧ r.total = total ∧ r.OnPace s.scanner.cursor.line
  records : s.records = before ++ (due every s.scanner.cursor.line).map (fun n => .progress ⟨n, total⟩)
    ++ halts.map .halted

variable {g : Grammar} {every : Nat} {total : Option Nat} {before : List Log.Record} {s : Session} {c : Char}

theorem records_write (s : Session) (r : Log.Record) : (s.write r).records = s.records ++ [r] := by
  simp [records, write]

theorem Told.write (h : Told every total before s []) (v : Violation) :
    Told every total before (s.write (.halted v)) [v] := by
  refine ⟨h.reporter, ?_⟩
  rw [records_write, h.records]
  simp

theorem report_next {r : Reporter} {line : Nat} (hr : s.reporter = some r) (hp : r.OnPace line)
    (hline : s.scanner.cursor.line = line + 1) : s.report =
      if r.every ∣ line + 1 then
        { s with reporter := some { r with last := line + 1, emitted := r.emitted + 1 } }.write
          (.progress ⟨line + 1, r.total⟩)
      else s := by
  unfold Session.report
  simp only [hr, hline, Reporter.reach_next hp]
  by_cases hm : r.every ∣ line + 1
  · simp only [if_pos hm]
  · simp only [if_neg hm]
    rw [← hr]

theorem Told.report {line : Nat} (hline : s.scanner.cursor.line = line + 1)
    (hrecords : s.records = before ++ (due every line).map fun n => .progress ⟨n, total⟩)
    (hreporter : ∃ r, s.reporter = some r ∧ r.every = every ∧ r.total = total ∧ r.OnPace line) :
    Told every total before s.report [] := by
  obtain ⟨r, hr, rfl, rfl, hp⟩ := hreporter
  have hpace := Reporter.onPace_next hp
  have hdue := due_succ r.every hp.begun
  rw [Reporter.reach_next hp] at hpace
  rw [report_next hr hp hline]
  by_cases hm : r.every ∣ line + 1
  · rw [if_pos hm] at hpace hdue ⊢
    refine ⟨⟨_, rfl, rfl, rfl, ?_⟩, ?_⟩
    · rw [scanner_write, hline]
      exact hpace
    · rw [scanner_write, hline, hdue, records_write]
      show s.records ++ _ = _
      rw [hrecords]
      simp
  · rw [if_neg hm] at hpace hdue ⊢
    refine ⟨⟨r, hr, rfl, rfl, ?_⟩, ?_⟩
    · rw [hline]
      exact hpace
    · rw [hline, hdue, hrecords, List.append_nil, List.map_nil, List.append_nil]

theorem Told.reached (h : Told every total before s []) (hf : s.scanner.fault = none) :
    Told every total before (s.reached g c) [] := by
  have hline := Scanner.line_read (g := g) (c := c) hf
  obtain ⟨⟨r, hr, hevery, htotal, hp⟩, hrecords⟩ := h
  rw [List.map_nil, List.append_nil] at hrecords
  unfold Session.reached
  by_cases hc : c = '\n'
  · rw [if_pos hc] at hline ⊢
    exact .report hline hrecords ⟨r, hr, hevery, htotal, hp⟩
  · rw [if_neg hc] at hline ⊢
    refine ⟨⟨r, hr, hevery, htotal, ?_⟩, ?_⟩
    · rw [hline]
      exact hp
    · rw [hline, List.map_nil, List.append_nil]
      exact hrecords

/-- One character: it may move onto a line that is due, and it may halt the scan. -/
theorem told_read (h : Told every total before s s.scanner.fault.toList) :
    Told every total before (s.read g c) (s.read g c).scanner.fault.toList := by
  cases hs : s.scanner.fault with
  | some v =>
    rw [read_of_fault hs]
    exact h
  | none =>
    rw [hs] at h
    have hreached := Told.reached (g := g) (c := c) h hs
    cases hv : (s.scanner.read g c).fault with
    | none =>
      rw [read_going hv, scanner_reached, hv]
      exact hreached
    | some v =>
      rw [read_halting hs hv, scanner_write, scanner_reached, hv]
      exact hreached.write v

theorem told_feed (h : Told every total before s s.scanner.fault.toList) (t : List Char) :
    Told every total before (s.feed g t) (s.feed g t).scanner.fault.toList := by
  induction t generalizing s with
  | nil => exact h
  | cons c t ih => exact ih (told_read h)

theorem told_start (every : Nat) (total : Option Nat) (r : Log.Record) :
    Told every total [r] ((start (some (.start every total))).write r) [] :=
  ⟨⟨_, rfl, rfl, rfl, Reporter.onPace_start every total⟩, rfl⟩

theorem records_finish (g : Grammar) (s : Session) : (s.finish g).records =
    s.records ++ if (s.verdict g).isNone then [.balanced s.scanner.cursor.line] else [] := by
  unfold finish
  split
  · rename_i hv
    rw [records_write, hv]
    rfl
  · rename_i v hv
    rw [hv]
    exact (List.append_nil _).symm

end Session

/-! ## What is read of a text -/

/-- A scan of `t` reads `p` of it: all, or as far as the character that halts it. -/
structure Reads (g : Grammar) (t p : List Char) : Prop where
  begins : p <+: t
  going : ∀ q, q <+: p → q ≠ p → (Scanner.start.feed g q).fault = none
  whole : (Scanner.start.feed g p).fault = none → p = t

section

open Scanner

variable {g : Grammar} {t p : List Char}

theorem exists_reads (g : Grammar) (t : List Char) : ∃ p, Reads g t p := by
  cases hf : (start.feed g t).fault with
  | none => exact ⟨t, List.prefix_rfl, fun q hq _ => fault_before hq hf, fun _ => rfl⟩
  | some v =>
    obtain ⟨p, c, q, rfl, hp, hc, -⟩ := exists_halt rfl hf
    refine ⟨p ++ [c], ⟨q, by simp⟩, ?_, ?_⟩
    · intro u hu hne
      rcases List.prefix_concat_iff.mp hu with rfl | hu
      · exact absurd rfl hne
      · exact fault_before hu hp
    · intro hn
      rw [feed_snoc, hc] at hn
      cases hn

theorem Reads.feed_eq (h : Reads g t p) : start.feed g t = start.feed g p := by
  cases hf : (start.feed g p).fault with
  | none => rw [h.whole hf]
  | some v =>
    obtain ⟨q, rfl⟩ := h.begins
    rw [feed_append, feed_of_fault hf]

theorem Reads.line (h : Reads g t p) : (start.feed g t).cursor.line = 1 + p.count '\n' := by
  rw [h.feed_eq]
  rcases List.eq_nil_or_concat' p with rfl | ⟨q, c, rfl⟩
  · rfl
  · have hq : (start.feed g q).fault = none := h.going q (List.prefix_append q [c]) (by simp)
    have hline : (start.feed g q).cursor.line = 1 + q.count '\n' := by
      rw [cursor_start hq, Cursor.line_after_eq, count_dropMark]
    rw [feed_snoc, line_read hq, hline, List.count_append, List.count_singleton]
    by_cases hc : c = '\n'
    · simp [hc, Nat.add_assoc]
    · simp [hc]

end

/-! ## A check -/

/-- Whether a violation halts a scan; the others are found at its end. -/
def Violation.isHalt : Violation → Bool
  | unmatchedCloser _ _ => true
  | mismatched _ _ _ _ => true
  | _ => false

/-- What is written once a scan is over that found `verdict` and came to the line `last`. -/
def closing (last : Nat) (verdict : Option Violation) : List Log.Record :=
  match verdict with
  | none => [.balanced last]
  | some v => if v.isHalt then [.halted v] else []

namespace Scanner

variable {g : Grammar} {s : Scanner} {c : Char} {v : Violation}

theorem isHalt_read (hf : s.fault = none) (hv : (s.read g c).fault = some v) : v.isHalt = true := by
  cases change_read (g := g) (c := c) hf with
  | quiet _ hq => rw [hq.frame.2.1, hf] at hv; cases hv
  | opens _ _ e => rw [e] at hv; cases hv
  | closes _ _ _ _ _ _ e => rw [e] at hv; cases hv
  | unmatched _ _ _ e => rw [e] at hv; cases hv; rfl
  | mismatched _ _ _ _ _ _ e => rw [e] at hv; cases hv; rfl

theorem isHalt_of_fault {t : List Char} (hf : s.fault = none) (hv : (s.feed g t).fault = some v) :
    v.isHalt = true := by
  obtain ⟨p, c, q, -, hp, hc, -⟩ := exists_halt hf hv
  exact isHalt_read hp hc

theorem isHalt_of_verdict (hf : s.fault = none) (hv : s.verdict g = some v) : v.isHalt = false := by
  rcases verdict_cases hf hv with ⟨kind, st, -, rfl⟩ | ⟨f, -, rfl⟩ <;> rfl

/-- A halt is written when it comes, and the rest at the end. -/
theorem closing_verdict (t : List Char) (last : Nat) : (start.feed g t).fault.toList.map Log.Record.halted ++
    (if ((start.feed g t).verdict g).isNone then [.balanced last] else []) = closing last (scan g t) := by
  cases hf : (start.feed g t).fault with
  | some v =>
    have hv : scan g t = some v := verdict_of_fault hf
    rw [verdict_of_fault hf, hv, closing, isHalt_of_fault rfl hf]
    rfl
  | none =>
    cases hv : (start.feed g t).verdict g with
    | none =>
      have hscan : scan g t = none := hv
      rw [hscan]
      rfl
    | some v =>
      have hscan : scan g t = some v := hv
      rw [hscan, closing, isHalt_of_verdict hf hv]
      rfl

end Scanner

theorem records_check (config : Config) {t p : List Char} (hp : Reads config.grammar t p) :
    (check config t).2 = .scanning (lines t).length config.grammar ::
      ((due config.progressEvery (1 + p.count '\n')).map fun n => .progress ⟨n, some (lines t).length⟩)
        ++ closing (1 + p.count '\n') (scan config.grammar t) := by
  let s : Session := ((Session.start (some (.start config.progressEvery (some (lines t).length)))).write
    (.scanning (lines t).length config.grammar)).feed config.grammar t
  have hscanner : s.scanner = Scanner.start.feed config.grammar t := Session.scanner_feed config.grammar _ t
  have htold : Session.Told config.progressEvery (some (lines t).length)
      [.scanning (lines t).length config.grammar] s s.scanner.fault.toList :=
    Session.told_feed (Session.told_start _ _ _) t
  have hfinish : (check config t).2 = (s.finish config.grammar).records := rfl
  rw [hfinish, Session.records_finish, htold.records, Session.verdict, hscanner, hp.line, List.append_assoc,
    Scanner.closing_verdict]
  rfl

/-- All that a check writes, in order: how many lines there are, the lines that were due, and how it came out. An
    unfinished literal or bracket is found at the end of the text and not written. -/
theorem log_check (config : Config) (t : List Char) : ∃ p, Reads config.grammar t p ∧
    let total := (lines t).length
    let last := 1 + p.count '\n'
    (check config t).2 = .scanning total config.grammar ::
      ((due config.progressEvery last).map fun n => .progress ⟨n, some total⟩)
        ++ closing last (check config t).1.verdict ∧
    ∀ elapsed, (check config t).2.map (fun r => (r.level, r.message elapsed)) =
      (.debug, "scanning " ++ toString total ++ " line(s) with the " ++ config.grammar.name ++ " grammar") ::
        ((due config.progressEvery last).map fun n => (.info, Progress.message ⟨n, some total⟩ elapsed))
          ++ match (check config t).1.verdict with
            | none => [(.debug, "balanced after " ++ toString last ++ " line(s)")]
            | some v =>
              if v.isHalt then [(.debug, "scan halted at " ++ v.position.text ++ ": " ++ v.message)] else [] := by
  obtain ⟨p, hp⟩ := exists_reads config.grammar t
  have hrecords := records_check config hp
  have hverdict : (check config t).1.verdict = scan config.grammar t := by rw [check_eq]
  refine ⟨p, hp, ?_, ?_⟩
  · rw [hverdict]
    exact hrecords
  · intro elapsed
    rw [hrecords, hverdict, List.map_append, List.map_cons, List.map_map]
    refine congrArg₂ (· ++ ·) rfl ?_
    cases scan config.grammar t with
    | none => rfl
    | some v =>
      show (if v.isHalt then [Log.Record.halted v] else []).map _ = if v.isHalt then _ else []
      split <;> rfl

/-! ## The lines told of and the lines there are -/

section

open Scanner

variable {g : Grammar} {t p : List Char}

theorem Reads.getLast?_of_fault (h : Reads g t p) (hf : (start.feed g t).fault ≠ none) :
    ∃ c, p.getLast? = some c ∧ c ≠ '\n' := by
  rw [h.feed_eq] at hf
  obtain ⟨v, hv⟩ := Option.ne_none_iff_exists'.mp hf
  obtain ⟨q, c, u, rfl, hq, hc, -⟩ := exists_halt rfl hv
  obtain rfl : u = [] := by
    by_cases hu : u = []
    · exact hu
    · have hn := h.going (q ++ [c]) ⟨u, by simp⟩ (by simpa using Ne.symm hu)
      rw [feed_snoc, hc] at hn
      cases hn
  have hcloser := (pile_halt (sound g q) hq hc).1
  exact ⟨c, by simp, (ne_of_isBracket (isBracket_of_isCloser hcloser)).2.2.2.2.2.1⟩

/-- A halted scan has not read a line feed at the end of the text. -/
theorem Reads.count_lt (h : Reads g t p) (hf : (start.feed g t).fault ≠ none) (hl : t.getLast? = some '\n') :
    p.count '\n' < t.count '\n' := by
  obtain ⟨c, hc, hne⟩ := h.getLast?_of_fault hf
  obtain ⟨q, rfl⟩ := h.begins
  have hq : q.getLast? = some '\n' := by
    cases hql : q.getLast? with
    | none =>
      rw [List.getLast?_eq_none_iff.mp hql, List.append_nil, hc] at hl
      exact absurd (Option.some.inj hl) hne
    | some d =>
      rw [List.getLast?_append, hql] at hl
      exact hl
  have hpos : 0 < q.count '\n' := List.count_pos_iff.mpr (List.mem_of_getLast? hq)
  rw [List.count_append]
  omega

/-- The scan comes to a line that the text does not have, if it moves past a line feed at the end. The first line is
    one it is on from the start. -/
theorem Reads.line_le (h : Reads g t p) :
    if t.getLast? = some '\n' ∧ (start.feed g t).fault = none then 1 + p.count '\n' = (lines t).length + 1
    else 1 + p.count '\n' ≤ max 1 (lines t).length := by
  rw [length_lines]
  by_cases hf : (start.feed g t).fault = none
  · obtain rfl : p = t := h.whole (h.feed_eq ▸ hf)
    by_cases hl : p.getLast? = some '\n'
    · simp [hf, hl, Nat.add_comm]
    · by_cases hp : p = []
      · simp [hp]
      · rw [if_neg fun hn => hl hn.1, if_neg (by simp [hp, hl])]
        omega
  · rw [if_neg fun hn => hf hn.2]
    by_cases hl : t.getLast? = some '\n'
    · have hlt := h.count_lt hf hl
      rw [if_pos (.inr hl)]
      omega
    · have hle := h.begins.sublist.count_le '\n'
      have ht : t ≠ [] := by
        rintro rfl
        exact hf rfl
      rw [if_neg (not_or.mpr ⟨ht, hl⟩)]
      omega

end

theorem progress_mem_check {config : Config} {t p : List Char} (hp : Reads config.grammar t p) (q : Progress) :
    .progress q ∈ (check config t).2 ↔
      q.total = some (lines t).length ∧ q.line ∈ due config.progressEvery (1 + p.count '\n') := by
  have hclosing : Log.Record.progress q ∉ closing (1 + p.count '\n') (scan config.grammar t) := by
    unfold closing
    split
    · simp
    · split <;> simp
  obtain ⟨line, total⟩ := q
  rw [records_check config hp]
  simp only [List.mem_append, List.mem_cons, List.mem_map, hclosing, reduceCtorEq, false_or, or_false,
    Log.Record.progress.injEq, Progress.mk.injEq]
  constructor
  · rintro ⟨n, hn, rfl, rfl⟩
    exact ⟨rfl, hn⟩
  · rintro ⟨rfl, hn⟩
    exact ⟨line, hn, rfl, rfl⟩

/-- A progress record shows the number of lines and is at most one line past it. It is past it if the text ends with a
    line feed, the scan reads that, and the line that begins behind it is due. -/
theorem overshoots_iff (config : Config) (t : List Char) :
    let total := (lines t).length
    (∀ q, .progress q ∈ (check config t).2 → q.total = some total ∧ q.line ≤ total + 1) ∧
    ((∃ q, .progress q ∈ (check config t).2 ∧ total < q.line) ↔
      t.getLast? = some '\n' ∧ (Scanner.start.feed config.grammar t).fault = none ∧
        config.progressEvery ∣ total + 1) := by
  obtain ⟨p, hp⟩ := exists_reads config.grammar t
  have hline := hp.line_le
  simp only [progress_mem_check hp, mem_due]
  by_cases hover : t.getLast? = some '\n' ∧ (Scanner.start.feed config.grammar t).fault = none
  · rw [if_pos hover] at hline
    refine ⟨?_, ?_⟩
    · rintro q ⟨hq, -, hle, -⟩
      exact ⟨hq, by omega⟩
    · constructor
      · rintro ⟨q, ⟨-, -, hle, hd⟩, hlt⟩
        have he : q.line = (lines t).length + 1 := by omega
        exact ⟨hover.1, hover.2, he ▸ hd⟩
      · rintro ⟨-, -, hd⟩
        have hpos : 0 < t.count '\n' := List.count_pos_iff.mpr (List.mem_of_getLast? hover.1)
        have h2 : 2 ≤ (lines t).length + 1 := by
          rw [length_lines]
          omega
        exact ⟨⟨_, _⟩, ⟨rfl, h2, Nat.le_of_eq hline.symm, hd⟩, Nat.lt_succ_self _⟩
  · rw [if_neg hover] at hline
    refine ⟨?_, ?_⟩
    · rintro q ⟨hq, h2, hle, -⟩
      exact ⟨hq, by omega⟩
    · constructor
      · rintro ⟨q, ⟨-, h2, hle, -⟩, hlt⟩
        omega
      · rintro ⟨hl, hf, -⟩
        exact absurd ⟨hl, hf⟩ hover

/-- A text of one line is told to have come to its second. -/
theorem one_line_too_far :
    .progress ⟨2, some 1⟩ ∈ (check ⟨.full, none, 1⟩ "a\n".toList).2 ∧ (lines "a\n".toList).length = 1 := by
  decide

end BracketBalance
