/-
  BracketBalance.Proofs.Session — what a session adds to a scan.

  A session scans as its scanner does (`scanner_feed`), and it only ever adds to its
  log (`log_suffix_feed`). Of the records it writes, the halts are told from the rest
  (`halts`): a session has logged one exactly when its scan has halted, and that one
  (`halts_feed`).
-/

import BracketBalance.Proofs.Step
import BracketBalance.Scanner.Session
import Mathlib.Data.List.Infix

namespace BracketBalance

namespace Session

variable {g : Grammar} {s : Session} {c : Char}

@[simp] theorem feed_nil (g : Grammar) (s : Session) : s.feed g [] = s := rfl

@[simp] theorem feed_cons (g : Grammar) (s : Session) (c : Char) (t : List Char) :
    s.feed g (c :: t) = (s.read g c).feed g t := rfl

theorem feed_append (g : Grammar) (s : Session) (t u : List Char) : s.feed g (t ++ u) = (s.feed g t).feed g u :=
  List.foldl_append

@[simp] theorem scanner_write (s : Session) (r : Log.Record) : (s.write r).scanner = s.scanner := rfl

@[simp] theorem scanner_report (s : Session) : s.report.scanner = s.scanner := by
  unfold report
  split
  · rfl
  · split <;> rfl

/-- The violations of the halts that are logged, oldest first. -/
def halts (s : Session) : List Violation :=
  s.records.filterMap fun r => match r with
    | .halted v => some v
    | _ => none

theorem halts_write_halted (s : Session) (v : Violation) : (s.write (.halted v)).halts = s.halts ++ [v] := by
  simp [halts, records, write]

theorem halts_report (s : Session) : s.report.halts = s.halts := by
  unfold report
  split
  · rfl
  · split
    · rfl
    · simp [halts, records, write]

theorem log_suffix_report (s : Session) : s.log <:+ s.report.log := by
  unfold report
  split
  · exact List.suffix_rfl
  · split
    · exact List.suffix_rfl
    · exact List.suffix_cons _ _

/-! ## One character -/

theorem read_of_fault {v : Violation} (h : s.scanner.fault = some v) : s.read g c = s := by simp [read, h]

/-- The session that has read `c` and told of a new line, but not yet of a halt. -/
def reached (g : Grammar) (s : Session) (c : Char) : Session :=
  let s := { s with scanner := s.scanner.read g c }
  if c = '\n' then s.report else s

theorem scanner_reached (g : Grammar) (s : Session) (c : Char) : (s.reached g c).scanner = s.scanner.read g c := by
  unfold reached
  dsimp only
  split
  · rw [scanner_report]
  · rfl

theorem halts_reached (g : Grammar) (s : Session) (c : Char) : (s.reached g c).halts = s.halts := by
  unfold reached
  dsimp only
  split
  · rw [halts_report]; rfl
  · rfl

theorem log_suffix_reached (g : Grammar) (s : Session) (c : Char) : s.log <:+ (s.reached g c).log := by
  unfold reached
  dsimp only
  split
  · exact log_suffix_report { s with scanner := s.scanner.read g c }
  · exact List.suffix_rfl

/-- A character that does not halt the scan is read and reported. -/
theorem read_going (hf : (s.scanner.read g c).fault = none) : s.read g c = s.reached g c := by
  have hs : s.scanner.fault = none := Scanner.fault_of_feed (t := [c]) hf
  have hr := scanner_reached g s c
  unfold read
  rw [if_neg (by simp [hs])]
  dsimp only
  split
  · rfl
  · rename_i v hv
    have h : (s.reached g c).scanner.fault = some v := hv
    rw [hr, hf] at h
    cases h

theorem read_halting {v : Violation} (hs : s.scanner.fault = none) (hv : (s.scanner.read g c).fault = some v) :
    s.read g c = (s.reached g c).write (.halted v) := by
  have hr := scanner_reached g s c
  unfold read
  rw [if_neg (by simp [hs])]
  dsimp only
  split
  · rename_i hn
    have h : (s.reached g c).scanner.fault = none := hn
    rw [hr, hv] at h
    cases h
  · rename_i w hw
    have h : (s.reached g c).scanner.fault = some w := hw
    rw [hr, hv] at h
    cases h
    rfl

theorem scanner_read (g : Grammar) (s : Session) (c : Char) : (s.read g c).scanner = s.scanner.read g c := by
  cases hs : s.scanner.fault with
  | some v => rw [read_of_fault hs, Scanner.read_of_fault hs]
  | none =>
    cases hv : (s.scanner.read g c).fault with
    | none => rw [read_going hv, scanner_reached]
    | some v => rw [read_halting hs hv, scanner_write, scanner_reached]

theorem log_suffix_read (g : Grammar) (s : Session) (c : Char) : s.log <:+ (s.read g c).log := by
  cases hs : s.scanner.fault with
  | some v => rw [read_of_fault hs]
  | none =>
    have hr := log_suffix_reached g s c
    cases hv : (s.scanner.read g c).fault with
    | none => rw [read_going hv]; exact hr
    | some v => rw [read_halting hs hv]; exact hr.trans (List.suffix_cons _ _)

/-! ## A text -/

theorem feed_of_fault {v : Violation} (h : s.scanner.fault = some v) (t : List Char) : s.feed g t = s := by
  induction t with
  | nil => rfl
  | cons c t ih => rw [feed_cons, read_of_fault h, ih]

theorem scanner_feed (g : Grammar) (s : Session) (t : List Char) : (s.feed g t).scanner = s.scanner.feed g t := by
  induction t generalizing s with
  | nil => rfl
  | cons c t ih => rw [feed_cons, ih, scanner_read, Scanner.feed_cons]

theorem log_suffix_feed (g : Grammar) (s : Session) (t : List Char) : s.log <:+ (s.feed g t).log := by
  induction t generalizing s with
  | nil => exact List.suffix_rfl
  | cons c t ih =>
    rw [feed_cons]
    exact (log_suffix_read g s c).trans (ih _)

/-- A session that has logged the halt of its scan, if it has halted, goes on so. -/
theorem halts_read (h : s.halts = s.scanner.fault.toList) : (s.read g c).halts = (s.read g c).scanner.fault.toList := by
  cases hs : s.scanner.fault with
  | some v => rw [read_of_fault hs, h]
  | none =>
    have hh : (s.reached g c).halts = [] := by rw [halts_reached, h, hs]; rfl
    rw [scanner_read]
    cases hv : (s.scanner.read g c).fault with
    | none => rw [read_going hv, hh]; rfl
    | some v => rw [read_halting hs hv, halts_write_halted, hh]; rfl

/-- A halt is logged, once. -/
theorem halts_feed (h : s.halts = s.scanner.fault.toList) (t : List Char) :
    (s.feed g t).halts = (s.feed g t).scanner.fault.toList := by
  induction t generalizing s with
  | nil => exact h
  | cons c t ih => exact ih (halts_read h)

theorem halts_start (g : Grammar) (reporter : Option Reporter) (t : List Char) :
    ((start reporter).feed g t).halts = ((start reporter).feed g t).scanner.fault.toList :=
  halts_feed rfl t

end Session

end BracketBalance
