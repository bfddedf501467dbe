/-
  BracketBalance.Proofs.Observation — what a reporter changes for a caller: nothing.

  A caller feeds a session chunks and asks it now and then what would be wrong if the
  text ended there (`Call`). What it sees after each call (`Sight`) is the answer, what
  the scan is in, where it stands, the open brackets, and the records written so far,
  but for those of progress.

  Two sessions go side by side (`Beside`) when they have the same scanner and have
  written the same, progress apart; their reporters may be any two, or none. Proved: a
  character keeps them so (`beside_read`), hence a text (`beside_feed`) and a call
  (`beside_call`), and a caller sees the same of both. So a check comes to what a scan
  of its text comes to, however often it tells of its progress (`watch_reporter`).
-/

import BracketBalance.Proofs.Chunks
import BracketBalance.Proofs.Report

namespace BracketBalance

def Log.Record.isProgress : Log.Record → Bool
  | .progress _ => true
  | _ => false

namespace Session

/-- The records written so far, oldest first, but for those of progress. -/
def said (s : Session) : List Log.Record := s.records.filter (!·.isProgress)

inductive Call where
  | feed (chunk : List Char)
  /-- What would be wrong if the text ended here? The session goes on. -/
  | finish
  deriving DecidableEq, Repr

structure Sight where
  answer : Option Violation
  /-- The literal or comment that is open; none in code. -/
  within : Option LiteralKind
  position : Position
  unclosed : List Frame
  said : List Log.Record
  deriving DecidableEq, Repr

def call (g : Grammar) (s : Session) : Call → Option Violation × Session
  | .feed chunk => s.receive g chunk
  | .finish => (s.verdict g, s.finish g)

def sight (s : Session) (answer : Option Violation) : Sight :=
  ⟨answer, s.scanner.mode.unfinished.map Prod.fst, s.scanner.cursor.position, s.scanner.unclosed, s.said⟩

def watch (g : Grammar) : Session → List Call → List Sight
  | _, [] => []
  | s, c :: calls =>
    let (answer, s) := s.call g c
    s.sight answer :: watch g s calls

/-! ## Side by side -/

structure Beside (s s' : Session) : Prop where
  scanner : s.scanner = s'.scanner
  said : s.said = s'.said

variable {g : Grammar} {s s' : Session} {c : Char}

theorem said_write {r : Log.Record} (h : r.isProgress = false) (s : Session) : (s.write r).said = s.said ++ [r] := by
  simp [said, records, write, h]

theorem said_report (s : Session) : s.report.said = s.said := by
  unfold report
  split
  · rfl
  · split
    · rfl
    · simp [said, records, write, Log.Record.isProgress]

theorem said_reached (g : Grammar) (s : Session) (c : Char) : (s.reached g c).said = s.said := by
  unfold reached
  dsimp only
  split
  · rw [said_report]; rfl
  · rfl

theorem Beside.write (h : Beside s s') {r : Log.Record} (hr : r.isProgress = false) :
    Beside (s.write r) (s'.write r) := by
  refine ⟨h.scanner, ?_⟩
  rw [said_write hr, said_write hr, h.said]

theorem beside_reached (h : Beside s s') (g : Grammar) (c : Char) : Beside (s.reached g c) (s'.reached g c) := by
  constructor
  · rw [scanner_reached, scanner_reached, h.scanner]
  · rw [said_reached, said_reached, h.said]

/-- One character is read alike by both, and a halt is logged by both. -/
theorem beside_read (h : Beside s s') (g : Grammar) (c : Char) : Beside (s.read g c) (s'.read g c) := by
  have hscan := h.scanner
  cases hs : s.scanner.fault with
  | some v => rw [read_of_fault hs, read_of_fault (hscan ▸ hs)]; exact h
  | none =>
    have hreached := beside_reached h g c
    cases hv : (s.scanner.read g c).fault with
    | none =>
      rw [read_going hv, read_going (s := s') (hscan ▸ hv)]
      exact hreached
    | some v =>
      rw [read_halting hs hv, read_halting (s := s') (hscan ▸ hs) (hscan ▸ hv)]
      exact hreached.write rfl

theorem beside_feed (h : Beside s s') (g : Grammar) (t : List Char) : Beside (s.feed g t) (s'.feed g t) := by
  induction t generalizing s s' with
  | nil => exact h
  | cons c t ih => exact ih (beside_read h g c)

theorem beside_finish (h : Beside s s') (g : Grammar) : Beside (s.finish g) (s'.finish g) := by
  have hv : s.verdict g = s'.verdict g := by rw [Session.verdict, Session.verdict, h.scanner]
  unfold finish
  rw [hv, h.scanner]
  split
  · exact h.write rfl
  · exact h

/-- A call is answered alike by both, and leaves them side by side. -/
theorem beside_call (h : Beside s s') (g : Grammar) (c : Call) :
    (s.call g c).1 = (s'.call g c).1 ∧ Beside (s.call g c).2 (s'.call g c).2 := by
  cases c with
  | feed chunk =>
    have hf := beside_feed h g chunk
    simp only [call, receive_eq]
    exact ⟨by rw [hf.scanner], hf⟩
  | finish =>
    refine ⟨?_, beside_finish h g⟩
    show s.scanner.verdict g = s'.scanner.verdict g
    rw [h.scanner]

theorem Beside.sight (h : Beside s s') (answer : Option Violation) : s.sight answer = s'.sight answer := by
  simp only [Session.sight, h.scanner, h.said]

theorem beside_watch (h : Beside s s') (g : Grammar) (calls : List Call) : s.watch g calls = s'.watch g calls := by
  induction calls generalizing s s' with
  | nil => rfl
  | cons c calls ih =>
    obtain ⟨hanswer, hcall⟩ := beside_call h g c
    simp only [watch]
    rw [hanswer, hcall.sight, ih hcall]

/-- A caller sees the same of a session with a reporter as of the same session without one. -/
theorem watch_without_reporter (g : Grammar) (s : Session) (r : Reporter) (calls : List Call) :
    watch g { s with reporter := some r } calls = watch g { s with reporter := none } calls := by
  have h : Beside { s with reporter := some r } { s with reporter := none } := ⟨rfl, rfl⟩
  exact beside_watch h g calls

/-- A check finds what a scan finds and reports that, however often it tells of its progress. -/
theorem check_finds (config : Config) (t : List Char) : (check config t).1.verdict = scan config.grammar t ∧
    (check config t).1.report = Report.render config.style (scan config.grammar t) t ∧
    ∀ every, (check { config with progressEvery := every } t).1 = (check config t).1 := by
  refine ⟨by rw [check_eq], by rw [check_eq], ?_⟩
  intro every
  rw [check_eq, check_eq]
  rfl

theorem watch_reporter :
    (∀ g (s : Session) (r : Reporter) (calls : List Call),
      watch g { s with reporter := some r } calls = watch g { s with reporter := none } calls) ∧
    ∀ config t, (check config t).1.verdict = scan config.grammar t ∧
      (check config t).1.report = Report.render config.style (scan config.grammar t) t ∧
      ∀ every, (check { config with progressEvery := every } t).1 = (check config t).1 :=
  ⟨watch_without_reporter, check_finds⟩

end Session

end BracketBalance
