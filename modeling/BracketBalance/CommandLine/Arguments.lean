/-
  BracketBalance.CommandLine.Arguments — a command line from its arguments.

  An argument is one of three things. Two dashes and a name, or one dash and
  letters, are options: flags, and settings that take a value. The value of a
  setting is attached after an equals sign, or right after its letter, or is the
  next argument, which then must not begin with a dash (a dash alone is a value).
  Letters may be joined as long as only the last takes a value. Everything else is
  a file, and so is all that follows two dashes alone.

  `items` splits the arguments up without looking at values, from left to right.
  `Request.ofArguments` goes through the items in that order, and the first that is
  wrong, or asks for help or the version, decides. No option may be given twice.
  What only the whole line shows is looked at last: `--quiet` with `--verbose`, and
  a line with no file.
-/

import BracketBalance.CommandLine.Options
import BracketBalance.Effect

namespace BracketBalance.CommandLine

/-- An option without a value. -/
inductive Flag where
  | noContext
  | quiet
  | verbose
  | help
  | version
  deriving DecidableEq, Repr

/-- An option with a value. -/
inductive Setting where
  | grammar
  | contextBefore
  | contextAfter
  | progressEvery
  deriving DecidableEq, Repr

namespace Flag

def all : List Flag := [noContext, quiet, verbose, help, version]

def name : Flag → String
  | noContext => "no-context"
  | quiet => "quiet"
  | verbose => "verbose"
  | help => "help"
  | version => "version"

def letter? : Flag → Option Char
  | noContext => none
  | quiet => some 'q'
  | verbose => some 'v'
  | help => some 'h'
  | version => some 'V'

def ofName? (name : String) : Option Flag := all.find? (·.name = name)

def ofLetter? (c : Char) : Option Flag := all.find? (·.letter? = some c)

end Flag

namespace Setting

def all : List Setting := [grammar, contextBefore, contextAfter, progressEvery]

def name : Setting → String
  | grammar => "grammar"
  | contextBefore => "context-before"
  | contextAfter => "context-after"
  | progressEvery => "progress-every"

def letter? : Setting → Option Char
  | grammar => some 'g'
  | _ => none

def ofName? (name : String) : Option Setting := all.find? (·.name = name)

def ofLetter? (c : Char) : Option Setting := all.find? (·.letter? = some c)

end Setting

inductive UsageError where
  | unknownOption (text : String)
  | missingValue (setting : Setting)
  | unwantedValue (flag : Flag)
  | badValue (setting : Setting) (value : String)
  | repeated (name : String)
  | quietAndVerbose
  | emptyFileName
  | noFile
  deriving DecidableEq, Repr

namespace UsageError

def message : UsageError → String
  | unknownOption text => "error: unexpected argument '" ++ text ++ "' found"
  | missingValue setting => "error: a value is required for '--" ++ setting.name ++ "' but none was supplied"
  | unwantedValue flag => "error: the option '--" ++ flag.name ++ "' takes no value"
  | badValue setting value => "error: invalid value '" ++ value ++ "' for '--" ++ setting.name ++ "'"
  | repeated name => "error: the argument '--" ++ name ++ "' cannot be used multiple times"
  | quietAndVerbose => "error: the argument '--quiet' cannot be used with '--verbose'"
  | emptyFileName => "error: a value is required for '<FILE>...' but none was supplied"
  | noFile => "error: the required argument '<FILE>...' was not provided"

end UsageError

inductive Item where
  | flag (flag : Flag)
  | setting (setting : Setting) (value : String)
  | file (path : String)
  | refused (error : UsageError)
  deriving DecidableEq, Repr

/-- What the letters after one dash say, and the setting whose value is still to come. -/
def letters : List Char → List Item × Option Setting
  | [] => ([], none)
  | c :: rest =>
    match Flag.ofLetter? c, Setting.ofLetter? c with
    | some flag, _ => let (items, pending) := letters rest; (.flag flag :: items, pending)
    | none, some setting =>
      match rest with
      | [] => ([], some setting)
      | '=' :: value => ([.setting setting (String.ofList value)], none)
      | value => ([.setting setting (String.ofList value)], none)
    | none, none => ([.refused (.unknownOption ("-" ++ c.toString))], none)

/-- What the text after two dashes says, and the setting whose value is still to come. -/
def long (text : List Char) : List Item × Option Setting :=
  let name := String.ofList (text.takeWhile (· ≠ '='))
  let value := (text.dropWhile (· ≠ '=')).tail?.map String.ofList
  match Flag.ofName? name, Setting.ofName? name, value with
  | some flag, _, none => ([.flag flag], none)
  | some flag, _, some _ => ([.refused (.unwantedValue flag)], none)
  | none, some setting, none => ([], some setting)
  | none, some setting, some value => ([.setting setting value], none)
  | none, none, _ => ([.refused (.unknownOption ("--" ++ name))], none)

/-- The items of a command line; `pending` is the setting that waits for its value. -/
def items (pending : Option Setting) : List String → List Item
  | [] => (pending.map fun setting => Item.refused (.missingValue setting)).toList
  | argument :: rest =>
    match pending, argument.toList with
    | some setting, '-' :: _ :: _ => [.refused (.missingValue setting)]
    | some setting, _ => .setting setting argument :: items none rest
    | none, ['-', '-'] => rest.map .file
    | none, '-' :: '-' :: text => let (here, pending) := long text; here ++ items pending rest
    | none, '-' :: c :: text => let (here, pending) := letters (c :: text); here ++ items pending rest
    | none, _ => .file argument :: items none rest

inductive Request where
  | check (options : Options String)
  | help
  | version
  | refused (error : UsageError)
  deriving DecidableEq, Repr

structure Draft where
  files : List String
  flags : List Flag
  grammar : Option Grammar
  contextBefore : Option Nat
  contextAfter : Option Nat
  progressEvery : Option Nat
  deriving DecidableEq, Repr

/-- Reads a count: digits, perhaps after a plus sign, up to the largest count. -/
def readCount? (text : List Char) : Option Nat :=
  let digits := match text with
    | '+' :: digits => digits
    | digits => digits
  if digits.isEmpty || !digits.all Char.isDigit then none
  else
    let n := digits.foldl (fun n c => 10 * n + (c.toNat - '0'.toNat)) 0
    if n ≤ countLimit then some n else none

def grammar? (text : String) : Option Grammar :=
  if text = "full" then some .full
  else if text = "strings" then some .strings
  else if text = "templates" then some .templates
  else none

namespace Draft

def empty : Draft := ⟨[], [], none, none, none, none⟩

/-- A value for a setting, that was `known` so far and has been read as `value`. -/
def once {α : Type} (setting : Setting) (text : String) (known value : Option α)
    (set : α → Draft) : Except Request Draft :=
  match value, known with
  | none, _ => .error (.refused (.badValue setting text))
  | some _, some _ => .error (.refused (.repeated setting.name))
  | some v, none => .ok (set v)

/-- One more item. An item that ends the reading gives the request instead. -/
def add (d : Draft) : Item → Except Request Draft
  | .refused error => .error (.refused error)
  | .flag .help => .error .help
  | .flag .version => .error .version
  | .flag flag =>
    if d.flags.contains flag then .error (.refused (.repeated flag.name))
    else .ok { d with flags := flag :: d.flags }
  | .file path =>
    if path = "" then .error (.refused .emptyFileName) else .ok { d with files := d.files ++ [path] }
  | .setting .grammar text =>
    once .grammar text d.grammar (grammar? text) fun g => { d with grammar := some g }
  | .setting .contextBefore text =>
    once .contextBefore text d.contextBefore (readCount? text.toList) fun n => { d with contextBefore := some n }
  | .setting .contextAfter text =>
    once .contextAfter text d.contextAfter (readCount? text.toList) fun n => { d with contextAfter := some n }
  | .setting .progressEvery text =>
    once .progressEvery text d.progressEvery (readCount? text.toList) fun n => { d with progressEvery := some n }

def options (d : Draft) : Options String where
  files := d.files
  grammar := d.grammar.getD .full
  contextBefore := d.contextBefore.getD Window.standard.before
  contextAfter := d.contextAfter.getD Window.standard.after
  noContext := d.flags.contains .noContext
  progressEvery := d.progressEvery.getD Config.standard.progressEvery
  quiet := d.flags.contains .quiet
  verbose := d.flags.contains .verbose

def request (d : Draft) : Request :=
  if d.flags.contains .quiet && d.flags.contains .verbose then .refused .quietAndVerbose
  else if d.files.isEmpty then .refused .noFile
  else .check d.options

end Draft

def Request.ofArguments (arguments : List String) : Request :=
  match (items none arguments).foldlM Draft.add Draft.empty with
  | .error request => request
  | .ok d => d.request

def versionText : String := "balance-check 0.1.0\n"

def helpText : String :=
  String.join ([
    "Check that brackets balance outside strings, regexes and comments",
    "",
    "Usage: balance-check [OPTIONS] <FILE>...",
    "",
    "Arguments:",
    "  <FILE>...  Documents to check",
    "",
    "Options:",
    "  -g, --grammar <GRAMMAR>   full, strings or templates [default: full]",
    "      --context-before <N>  Source lines to show before a failure [default: 2]",
    "      --context-after <N>   Source lines to show after a failure [default: 1]",
    "      --no-context          Do not print source context around a failure",
    "      --progress-every <N>  Report progress every N lines (0 disables) [default: 1000]",
    "  -q, --quiet               Only print warnings and reports",
    "  -v, --verbose             Print debug logging",
    "  -h, --help                Print help",
    "  -V, --version             Print version"].map (· ++ "\n"))

/-- Help and the version end the process well, and a line that is refused ends it with 2. -/
def parse (arguments : List String) : Effect String (Options String) :=
  match Request.ofArguments arguments with
  | .check o => .done o
  | .help => .exit 0 ⟨helpText, []⟩
  | .version => .exit 0 ⟨versionText, []⟩
  | .refused error => .exit 2 ⟨"", [error.message]⟩

end BracketBalance.CommandLine
