/-
  BracketBalance.Proofs.Files — a run over several files, told by its runs over each.

  Between two files a run keeps two flags and the state of its log. What a file adds to
  the exit status, to the standard output and to the notices (`Document.status`, `block`,
  `Document.unreadable?`) depends on the file and the options only, whatever became of
  the files before it. `Passed` says what a run comes to over a list of files. It is so
  for a file (`passed_file`) and for one more (`Passed.cons`), so for all of them
  (`passed_files`), as long as the log keeps aside.

  Proved (`run_files`): a command line that is accepted is composed (`Composed`) of runs
  with the same options over each of its files alone. The worst exit status is its own,
  whatever the order of the files, and it prints what they print, with a heading for each
  file that can be read.
-/

import BracketBalance.CommandLine.Run
import BracketBalance.Proofs.Report
import Mathlib.Data.List.Perm.Basic

namespace BracketBalance

/-- The exit status of a run over one document. -/
def Document.status (g : Grammar) : Document → Nat
  | .ok t => if (scan g t).isNone then 0 else 1
  | .error _ => 2

namespace Document

def unreadable? (path : String) : Document → List Unreadable
  | .ok _ => []
  | .error fault => [⟨path, fault⟩]

variable {g : Grammar} {d : Document}

theorem status_le : d.status g ≤ 2 := by
  cases d with
  | error fault => exact Nat.le_refl 2
  | ok t =>
    unfold status
    dsimp only
    split <;> omega

theorem status_eq_two : d.status g = 2 ↔ ∃ fault, d = .error fault := by
  cases d with
  | error fault => exact ⟨fun _ => ⟨fault, rfl⟩, fun _ => rfl⟩
  | ok t => cases h : scan g t <;> simp [status, h]

theorem status_eq_one : d.status g = 1 ↔ ∃ t, d = .ok t ∧ scan g t ≠ none := by
  cases d with
  | error fault => simp [status]
  | ok t => cases h : scan g t <;> simp [status, h]

theorem status_eq_zero : d.status g = 0 ↔ ∃ t, d = .ok t ∧ scan g t = none := by
  cases d with
  | error fault => simp [status]
  | ok t => cases h : scan g t <;> simp [status, h]

end Document

namespace CommandLine

variable {Argument Path State : Type}

/-- The same options for one file. -/
def Options.only (o : Options Path) (path : Path) : Options Path := { o with files := [path] }

def Notice.unreadable? : Notice → Option Unreadable
  | .unreadable u => some u
  | .line _ => none

theorem unreadable?_relabel (out : Output String) : (out.relabel Notice.line).stderr.filterMap Notice.unreadable? = [] := by
  show (out.stderr.map Notice.line).filterMap _ = []
  rw [List.filterMap_map]
  exact List.filterMap_eq_nil_iff.mpr fun _ _ => rfl

/-- What a document adds to the standard output. -/
def block (headed : Bool) (config : Config) (name : String) : Document → String
  | .ok t => (if headed then name ++ ":\n" else "") ++ (check config t).1.report
  | .error _ => ""

/-! ## From file to file -/

theorem Run.exitStatus_le (r : Run State) : r.exitStatus ≤ 2 := by
  unfold exitStatus
  split
  · omega
  · split <;> omega

/-- What a run over some files prints, and how it goes on behind them. -/
structure Passed (w : Host Argument Path State) (r : Run State) (paths : List Path) (out : Output Notice)
    (r' : Run State) : Prop where
  config : r'.config = r.config
  headed : r'.headed = r.headed
  status : r'.exitStatus = (paths.map fun p => (w.read p).status r.config.grammar).foldl max r.exitStatus
  stdout : out.stdout = String.join (paths.map fun p => block r.headed r.config (w.name p) (w.read p))
  errors : out.stderr.filterMap Notice.unreadable? = paths.flatMap fun p => (w.read p).unreadable? (w.name p)

variable {w : Host Argument Path State} {r r' r'' : Run State} {out out' : Output Notice} {path : Path}
  {paths paths' : List Path}

/-- What is printed aside counts for nothing. -/
theorem passed_aside (w : Host Argument Path State) (r : Run State) {lines : Output String} (hl : lines.stdout = "") :
    Passed w r [] (lines.relabel .line) r :=
  ⟨rfl, rfl, rfl, hl, unreadable?_relabel lines⟩

theorem Passed.append (h : Passed w r paths out r') (h' : Passed w r' paths' out' r'') :
    Passed w r (paths ++ paths') (out.append out') r'' where
  config := h'.config.trans h.config
  headed := h'.headed.trans h.headed
  status := by rw [h'.status, h.status, h.config, List.map_append, List.foldl_append]
  stdout := by
    show out.stdout ++ out'.stdout = _
    rw [h.stdout, h'.stdout, h.config, h.headed, List.map_append, String.join_append]
  errors := by
    show (out.stderr ++ out'.stderr).filterMap _ = _
    rw [List.filterMap_append, h.errors, h'.errors, List.flatMap_append]

theorem passed_unreadable {fault : ReadFault} (hd : w.read path = .error fault) :
    Passed w r [path] ⟨"", [.unreadable ⟨w.name path, fault⟩]⟩ { r with failed := true } where
  config := rfl
  headed := rfl
  status := by
    have h2 := r.exitStatus_le
    simp only [List.map_cons, List.map_nil, List.foldl_cons, List.foldl_nil, hd]
    show 2 = max r.exitStatus 2
    omega
  stdout := by simp [block, hd, String.join]
  errors := by simp [hd, Document.unreadable?, Notice.unreadable?]

/-- A file that can, and the log of its check, which keeps aside. -/
theorem passed_text {t : List Char} (hd : w.read path = .ok t) {lines : Output String} (hl : lines.stdout = "")
    (log : State) : Passed w r [path]
      ((lines.relabel .line).append ⟨r.heading (w.name path) ++ (check r.config t).1.report, []⟩)
      { r with log := log, violated := r.violated || !(check r.config t).1.isBalanced } where
  config := rfl
  headed := rfl
  status := by
    have hv : (check r.config t).1.isBalanced = (scan r.config.grammar t).isNone := by rw [check_eq]; rfl
    simp only [List.map_cons, List.map_nil, List.foldl_cons, List.foldl_nil, hd, hv, Document.status]
    cases (scan r.config.grammar t).isNone <;> cases hf : r.failed <;> cases hw : r.violated <;>
      simp [Run.exitStatus, hf, hw]
  stdout := by
    show lines.stdout ++ _ = _
    rw [hl, String.empty_append, List.map_cons, List.map_nil, String.join_cons, hd]
    exact String.append_empty.symm
  errors := by
    show ((lines.relabel Notice.line).stderr ++ []).filterMap _ = _
    rw [List.append_nil, unreadable?_relabel, List.flatMap_singleton, hd]
    rfl

theorem passed_file (hw : w.log.Aside) (elapsed : Duration) (r : Run State) (path : Path) :
    ∃ r', (w.file elapsed r path).result = .ok r' ∧ Passed w r [path] (w.file elapsed r path).output r' := by
  cases hd : w.read path with
  | error fault =>
    have he : w.file elapsed r path = ⟨⟨"", [.unreadable ⟨w.name path, fault⟩]⟩, .ok { r with failed := true }⟩ := by
      rw [Host.file, hd]
      rfl
    rw [he]
    exact ⟨_, rfl, passed_unreadable hd⟩
  | ok t =>
    obtain ⟨hl, log, hlog⟩ := hw.printAll r.log ((check r.config t).2.map (·.event elapsed))
    have he : w.file elapsed r path = ((w.log.printAll r.log ((check r.config t).2.map (·.event elapsed))).relabel
        .line).andThen fun s => ⟨⟨r.heading (w.name path) ++ (check r.config t).1.report, []⟩,
          .ok { r with log := s, violated := r.violated || !(check r.config t).1.isBalanced }⟩ := by
      rw [Host.file, hd]
      rfl
    rw [he, Effect.relabel_andThen_of_ok hlog]
    exact ⟨_, rfl, passed_text hd hl log⟩

theorem passed_files (hw : w.log.Aside) (elapsed : Duration) (r : Run State) (paths : List Path) :
    ∃ r', (w.files elapsed r paths).result = .ok r' ∧ Passed w r paths (w.files elapsed r paths).output r' := by
  induction paths generalizing r with
  | nil =>
    have hp : Passed w r [] (Output.empty.relabel .line) r := passed_aside w r rfl
    exact ⟨r, rfl, hp⟩
  | cons path paths ih =>
    obtain ⟨r1, hr1, hp1⟩ := passed_file hw elapsed r path
    obtain ⟨r2, hr2, hp2⟩ := ih r1
    rw [Host.files, Effect.andThen_of_ok hr1]
    exact ⟨r2, hr2, hp1.append hp2⟩

/-! ## A run of the command -/

section

variable (elapsed : Duration) (filter : Option String) (o : Options Path)

theorem passed_checks (hw : w.log.Aside) : ∃ log r', (w.checks elapsed filter o).result = .ok r' ∧
    Passed w (.start o log) o.files (w.checks elapsed filter o).output r' := by
  obtain ⟨hl, log, hlog⟩ := hw.setUp filter o.level
  obtain ⟨r', hr', hp⟩ := passed_files hw elapsed (.start o log) o.files
  rw [Host.checks, Effect.relabel_andThen_of_ok hlog]
  exact ⟨log, r', hr', (passed_aside w _ hl).append hp⟩

theorem status_check (hw : w.log.Aside) : (w.check elapsed filter o).1 =
    (o.files.map fun p => (w.read p).status o.grammar).foldl max 0 := by
  obtain ⟨log, r', hr, hp⟩ := passed_checks elapsed filter o hw
  rw [Host.check, Host.ended, hr]
  exact hp.status

theorem stdout_check (hw : w.log.Aside) : (w.check elapsed filter o).2.stdout =
    String.join (o.files.map fun p => block (o.files.length > 1) o.config (w.name p) (w.read p)) := by
  obtain ⟨log, r', hr, hp⟩ := passed_checks elapsed filter o hw
  rw [Host.check, Host.ended, hr]
  exact hp.stdout

theorem errors_check (hw : w.log.Aside) : (w.check elapsed filter o).2.stderr.filterMap Notice.unreadable? =
    o.files.flatMap fun p => (w.read p).unreadable? (w.name p) := by
  obtain ⟨log, r', hr, hp⟩ := passed_checks elapsed filter o hw
  rw [Host.check, Host.ended, hr]
  exact hp.errors

/-- What is worst decides. -/
theorem max?_status (hw : w.log.Aside) (h : o.files ≠ []) :
    (o.files.map fun p => (w.read p).status o.grammar).max? = some (w.check elapsed filter o).1 := by
  rw [status_check elapsed filter o hw]
  cases hf : o.files with
  | nil => exact absurd hf h
  | cons path paths => rw [List.map_cons, List.max?_cons', List.foldl_cons, Nat.zero_max]

variable (path : Path)

theorem status_only (hw : w.log.Aside) : (w.check elapsed filter (o.only path)).1 = (w.read path).status o.grammar := by
  rw [status_check elapsed filter _ hw]
  exact Nat.zero_max _

theorem stdout_only (hw : w.log.Aside) :
    (w.check elapsed filter (o.only path)).2.stdout = block false o.config (w.name path) (w.read path) := by
  rw [stdout_check elapsed filter _ hw]
  show String.join [block false o.config (w.name path) (w.read path)] = _
  rw [String.join_cons]
  exact String.append_empty

theorem errors_only (hw : w.log.Aside) : (w.check elapsed filter (o.only path)).2.stderr.filterMap Notice.unreadable? =
    (w.read path).unreadable? (w.name path) := by
  rw [errors_check elapsed filter _ hw]
  exact List.append_nil _

end

/-- A run over files, told by the runs over each of them `alone`. -/
structure Composed (w : Host Argument Path State) (o : Options Path) (all : Nat × Output Notice)
    (alone : Path → Nat × Output Notice) : Prop where
  status : (o.files.map fun f => (alone f).1).max? = some all.1
  unreadable : all.1 = 2 ↔ ∃ f ∈ o.files, ∃ fault, w.read f = .error fault
  violated : all.1 = 1 ↔ (∀ f ∈ o.files, ∃ t, w.read f = .ok t) ∧
    ∃ f ∈ o.files, ∃ t, w.read f = .ok t ∧ scan o.grammar t ≠ none
  balanced : all.1 = 0 ↔ ∀ f ∈ o.files, ∃ t, w.read f = .ok t ∧ scan o.grammar t = none
  /-- Alone, a file leaves its report, or is named as one that cannot be read. -/
  processed : ∀ f ∈ o.files, match w.read f with
    | .ok t => (alone f).2.stdout = (check o.config t).1.report
    | .error fault => (alone f).2.stdout = "" ∧ (alone f).2.stderr.filterMap Notice.unreadable? = [⟨w.name f, fault⟩]
  stdout : 2 ≤ o.files.length → all.2.stdout = String.join (o.files.map fun f => match w.read f with
    | .ok _ => w.name f ++ ":\n" ++ (alone f).2.stdout
    | .error _ => "")
  errors : all.2.stderr.filterMap Notice.unreadable? =
    o.files.flatMap fun f => (alone f).2.stderr.filterMap Notice.unreadable?

section

variable (hw : w.log.Aside) (elapsed : Duration) (filter : Option String) {o : Options Path}

include hw

/-- The exit status is that of some file, and of no file is it less. -/
theorem status_spec (h : o.files ≠ []) :
    (∃ f ∈ o.files, (w.read f).status o.grammar = (w.check elapsed filter o).1) ∧
      ∀ f ∈ o.files, (w.read f).status o.grammar ≤ (w.check elapsed filter o).1 := by
  obtain ⟨hm, hle⟩ := List.max?_eq_some_iff.mp (max?_status elapsed filter o hw h)
  exact ⟨List.mem_map.mp hm, fun f hf => hle _ (List.mem_map_of_mem hf)⟩

theorem check_eq_two (h : o.files ≠ []) :
    (w.check elapsed filter o).1 = 2 ↔ ∃ f ∈ o.files, ∃ fault, w.read f = .error fault := by
  obtain ⟨⟨f, hf, hs⟩, hle⟩ := status_spec hw elapsed filter h
  constructor
  · intro h2
    exact ⟨f, hf, Document.status_eq_two.mp (hs.trans h2)⟩
  · rintro ⟨f', hf', hb⟩
    have h2 := hle f' hf'
    have hb2 : (w.read f').status o.grammar = 2 := Document.status_eq_two.mpr hb
    have hu : (w.read f).status o.grammar ≤ 2 := Document.status_le
    omega

theorem check_eq_zero (h : o.files ≠ []) : (w.check elapsed filter o).1 = 0 ↔
    ∀ f ∈ o.files, ∃ t, w.read f = .ok t ∧ scan o.grammar t = none := by
  obtain ⟨⟨f, hf, hs⟩, hle⟩ := status_spec hw elapsed filter h
  constructor
  · intro h0 f' hf'
    exact Document.status_eq_zero.mp (Nat.le_zero.mp (h0 ▸ hle f' hf'))
  · intro hb
    rw [← hs]
    exact Document.status_eq_zero.mpr (hb f hf)

theorem check_eq_one (h : o.files ≠ []) : (w.check elapsed filter o).1 = 1 ↔
    (∀ f ∈ o.files, ∃ t, w.read f = .ok t) ∧ ∃ f ∈ o.files, ∃ t, w.read f = .ok t ∧ scan o.grammar t ≠ none := by
  obtain ⟨⟨f, hf, hs⟩, hle⟩ := status_spec hw elapsed filter h
  constructor
  · intro h1
    refine ⟨fun f' hf' => ?_, f, hf, Document.status_eq_one.mp (hs.trans h1)⟩
    cases hr : w.read f' with
    | ok t => exact ⟨t, rfl⟩
    | error fault =>
      have h2 := (check_eq_two hw elapsed filter h).mpr ⟨f', hf', fault, hr⟩
      exact absurd (h1.symm.trans h2) (by decide)
  · rintro ⟨hr, f', hf', hv⟩
    have h1 := hle f' hf'
    have hv1 : (w.read f').status o.grammar = 1 := Document.status_eq_one.mpr hv
    have h2 : (w.check elapsed filter o).1 ≠ 2 := by
      intro h2
      obtain ⟨g, hg, fault, hb⟩ := (check_eq_two hw elapsed filter h).mp h2
      obtain ⟨t, ht⟩ := hr g hg
      exact absurd (hb.symm.trans ht) (by simp)
    have hu : (w.read f).status o.grammar ≤ 2 := Document.status_le
    omega

/-- The order of the files does not matter to the exit status, nor does how long the run lasts. -/
theorem status_perm {files : List Path} (h : files.Perm o.files) (elapsed' : Duration) :
    (w.check elapsed' filter { o with files := files }).1 = (w.check elapsed filter o).1 := by
  rw [status_check elapsed' filter _ hw, status_check elapsed filter _ hw]
  exact (h.map _).foldl_eq 0

theorem composed (h : o.files ≠ []) {alone : Path → Nat × Output Notice} {lasting : Path → Duration}
    (ha : ∀ f ∈ o.files, alone f = w.check (lasting f) filter (o.only f)) :
    Composed w o (w.check elapsed filter o) alone where
  status := by
    have hs : (o.files.map fun f => (alone f).1) = o.files.map fun f => (w.read f).status o.grammar :=
      List.map_congr_left fun f hf => by rw [ha f hf, status_only _ filter o f hw]
    rw [hs, max?_status elapsed filter o hw h]
  unreadable := check_eq_two hw elapsed filter h
  violated := check_eq_one hw elapsed filter h
  balanced := check_eq_zero hw elapsed filter h
  processed := by
    intro f hf
    rw [ha f hf, stdout_only _ filter o f hw, errors_only _ filter o f hw]
    cases w.read f with
    | ok t => exact String.empty_append
    | error fault => exact ⟨rfl, rfl⟩
  stdout := by
    intro hn
    have hb : decide (o.files.length > 1) = true := decide_eq_true hn
    rw [stdout_check elapsed filter o hw, hb]
    refine congrArg String.join (List.map_congr_left fun f hf => ?_)
    rw [ha f hf, stdout_only _ filter o f hw]
    cases w.read f with
    | ok t => simp [block]
    | error fault => rfl
  errors := by
    rw [errors_check elapsed filter o hw]
    exact List.flatMap_congr fun f hf => by rw [ha f hf, errors_only _ filter o f hw]

end

theorem run_of_parse {arguments : List Argument} {o : Options Path} (h : w.parse arguments = .done o)
    (elapsed : Duration) (filter : Option String) : w.run elapsed filter arguments = w.check elapsed filter o := by
  simp [Host.run, Host.check, h]

/-- An accepted command line, on a host whose log keeps aside. It comes to what runs with the same options over its
    files alone come to together, however long each of those lasts, and so do command lines that ask for these runs.
    The order of the files does not matter to the exit status. -/
theorem run_files {w : Host Argument Path State} (hw : w.log.Aside) {arguments : List Argument} {o : Options Path}
    (h : w.parse arguments = .done o) (hne : o.files ≠ []) (elapsed : Duration) (filter : Option String) :
    (∀ lasting : Path → Duration,
      Composed w o (w.run elapsed filter arguments) fun f => w.check (lasting f) filter (o.only f)) ∧
    (∀ (line : Path → List Argument) (lasting : Path → Duration),
      (∀ f ∈ o.files, w.parse (line f) = .done (o.only f)) →
        Composed w o (w.run elapsed filter arguments) fun f => w.run (lasting f) filter (line f)) ∧
    (∀ (line : List Argument) (files : List Path) (lasting : Duration), files.Perm o.files →
      w.parse line = .done { o with files := files } →
        (w.run lasting filter line).1 = (w.run elapsed filter arguments).1) := by
  rw [run_of_parse h]
  refine ⟨?_, ?_, ?_⟩
  · intro lasting
    exact composed hw elapsed filter hne fun f _ => rfl
  · intro line lasting hl
    exact composed hw elapsed filter hne fun f hf => run_of_parse (hl f hf) _ _
  · intro line files lasting hp hl
    rw [run_of_parse hl, status_perm hw elapsed filter hp]

theorem host_parse {arguments : List String} {o : Options String} (h : Request.ofArguments arguments = .check o)
    (read : String → Document) : (host read).parse arguments = .done o := by
  show parse arguments = _
  rw [parse, h]

/-- Options between files, a file named twice, one that is not there, and one whose name looks like an option. -/
theorem run_files_mixed :
    let read := fun path => if path = "a" then .ok "()".toList else if path = "-c" then .ok "(]".toList
      else .error .notFound
    let line := fun path => ["-gstrings", "--no-context", "--progress-every=0", "--", path]
    let arguments := ["a", "-gstrings", "b", "--no-context", "--progress-every", "0", "a", "--", "-c"]
    let o : Options String := ⟨["a", "b", "a", "-c"], .strings, 2, 1, true, 0, false, false⟩
    (host read).parse arguments = .done o ∧ (∀ f ∈ o.files, (host read).parse (line f) = .done (o.only f)) ∧
      ((host read).run .zero none arguments).1 = 2 ∧
      ((host read).run .zero none arguments).2.stdout =
        "a:\nOK: Brackets and strings balanced\na:\nOK: Brackets and strings balanced\n" ++
          "-c:\nMismatched ( opened at 1:1 closed by ] at 1:2\n" := by
  intro read line arguments o
  have hw : (host read).log.Aside := Log.Printer.aside
  have h : (host read).parse arguments = .done o := host_parse (by decide) read
  have hlines : ∀ f ∈ o.files, Request.ofArguments (line f) = .check (o.only f) := by decide
  have hl : ∀ f ∈ o.files, (host read).parse (line f) = .done (o.only f) := fun f hf => host_parse (hlines f hf) read
  have hc := (run_files hw h (by decide) .zero none).2.1 line (fun _ => .zero) hl
  exact ⟨h, hl, hc.unreadable.mpr ⟨"b", by decide, .notFound, rfl⟩, (hc.stdout (by decide)).trans (by decide)⟩

end CommandLine

end BracketBalance
