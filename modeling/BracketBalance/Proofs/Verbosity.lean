/-
  BracketBalance.Proofs.Verbosity — what is said aside does not touch the reports.

  How much to say (`quiet`, `verbose`), the interval between progress records and the
  filter of the log decide what the log says. A report depends on the grammar and, in a
  grammar that shows any, on the context (`report_congr`), and so does all that a file
  adds to the standard output (`block_congr`).

  Proved (`run_aside`): on a host whose log keeps aside, two accepted command lines with
  the same files, grammar and context have the same exit status and the same standard
  output, whatever else they say, whatever the filters and however long the runs last.
  For the grammar that never shows context, the context may differ too.
-/

import BracketBalance.Proofs.Files

namespace BracketBalance.CommandLine

/-- A report depends on the grammar and on the context, if it has one. -/
theorem report_congr {config config' : Config} (hg : config.grammar = config'.grammar)
    (hc : config.context = config'.context ∨ config.grammar = .strings) (t : List Char) :
    (check config t).1.report = (check config' t).1.report := by
  rw [check_eq, check_eq]
  obtain ⟨g, context, every⟩ := config
  obtain ⟨g', context', every'⟩ := config'
  obtain rfl : g = g' := hg
  rcases hc with rfl | rfl
  · rfl
  · rfl

theorem block_congr {config config' : Config} (hg : config.grammar = config'.grammar)
    (hc : config.context = config'.context ∨ config.grammar = .strings) (headed : Bool) (name : String) (d : Document) :
    block headed config name d = block headed config' name d := by
  cases d with
  | error fault => rfl
  | ok t =>
    show _ ++ (check config t).1.report = _ ++ (check config' t).1.report
    rw [report_congr hg hc]

/-- Two accepted command lines on one host, each with its own filter and its own duration. -/
theorem run_aside {Argument Path State : Type} {w : Host Argument Path State} (hw : w.log.Aside)
    {arguments arguments' : List Argument} {o o' : Options Path} (h : w.parse arguments = .done o)
    (h' : w.parse arguments' = .done o') (hfiles : o.files = o'.files) (hg : o.grammar = o'.grammar)
    (hc : o.context = o'.context ∨ o.grammar = .strings) (elapsed elapsed' : Duration) (filter filter' : Option String) :
    (w.run elapsed filter arguments).1 = (w.run elapsed' filter' arguments').1 ∧
      (w.run elapsed filter arguments).2.stdout = (w.run elapsed' filter' arguments').2.stdout := by
  rw [run_of_parse h, run_of_parse h']
  constructor
  · rw [status_check elapsed filter o hw, status_check elapsed' filter' o' hw, hfiles, hg]
  · rw [stdout_check elapsed filter o hw, stdout_check elapsed' filter' o' hw, hfiles]
    exact congrArg String.join (List.map_congr_left fun f _ => block_congr hg hc _ _ _)

/-- A line that tells of everything, and one that says nothing and shows no context, of a file that does not balance
    and one that is not there. -/
theorem run_aside_strings :
    let w := host fun path => if path = "a" then .ok "f(\n]\n".toList else .error .notFound
    let loud := ["-gstrings", "a", "-v", "--progress-every=1", "b"]
    let quiet := ["--no-context", "-q", "--grammar", "strings", "a", "b"]
    let filter := some "balance_check=trace/lines"
    w.parse loud = .done ⟨["a", "b"], .strings, 2, 1, false, 1, false, true⟩ ∧
      w.parse quiet = .done ⟨["a", "b"], .strings, 2, 1, true, 1000, true, false⟩ ∧
      (w.run .zero none loud).1 = (w.run ⟨3, 0⟩ filter quiet).1 ∧
      (w.run .zero none loud).2.stdout = (w.run ⟨3, 0⟩ filter quiet).2.stdout := by
  intro w loud quiet filter
  have hw : w.log.Aside := Log.Printer.aside
  have h : w.parse loud = .done ⟨["a", "b"], .strings, 2, 1, false, 1, false, true⟩ := host_parse (by decide) _
  have h' : w.parse quiet = .done ⟨["a", "b"], .strings, 2, 1, true, 1000, true, false⟩ := host_parse (by decide) _
  have hr := run_aside hw h h' rfl rfl (.inr rfl) .zero ⟨3, 0⟩ none filter
  exact ⟨h, h', hr⟩

end BracketBalance.CommandLine
