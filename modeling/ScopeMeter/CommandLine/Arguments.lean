import ScopeMeter.CommandLine.SocketAddress
import ScopeMeter.Text.Numbers

/-!
# Arguments of the command line

An option with a value is written `--option value` or `--option=value`; a value of its own that
starts with a minus sign can only be given in the second way, but for a lone minus sign. Each
option may be given once. The arguments are taken from left to right, and the first fault or the
first request for help ends the reading.
-/

namespace ScopeMeter.CommandLine

structure Arguments where
  /-- The file with the configuration. -/
  config : Option String := none
  /-- The name of the collector. -/
  name : String := "perf"
  rounds : Nat := 10
  /-- The time between rounds in milliseconds. -/
  intervalMs : Nat := 100
  /-- The number of threads with a workload. -/
  workers : Nat := 2
  /-- The file for the result document. -/
  output : Option String := none
  /-- The directory for the tables. -/
  csvDir : Option String := none
  /-- After how many rounds the series are summed up; zero is never. -/
  summarizeEvery : Option Nat := none
  /-- Where the gauges are served. -/
  listen : Option SocketAddress := none
  perApi : Bool := false
  verbose : Bool := false
  deriving DecidableEq, Repr

/-- The options with a value. -/
inductive Setting
  | config | name | rounds | intervalMs | workers | output | csvDir | summarizeEvery | listen
  deriving DecidableEq, Repr

/-- The options without a value. -/
inductive Switch
  | perApi | verbose | help
  deriving DecidableEq, Repr

namespace Setting

def all : List Setting :=
  [config, name, rounds, intervalMs, workers, output, csvDir, summarizeEvery, listen]

def long : Setting → String
  | config => "config"
  | name => "name"
  | rounds => "rounds"
  | intervalMs => "interval-ms"
  | workers => "workers"
  | output => "output"
  | csvDir => "csv-dir"
  | summarizeEvery => "summarize-every"
  | listen => "listen"

end Setting

namespace Switch

def all : List Switch := [perApi, verbose, help]

def long : Switch → String
  | perApi => "perapi"
  | verbose => "verbose"
  | help => "help"

def short? : Switch → Option Char
  | perApi => none
  | verbose => some 'v'
  | help => some 'h'

end Switch

/-- What is wrong with the arguments. -/
inductive UsageFault
  | unexpected (argument : String)
  | missingValue (option : Setting)
  | invalidValue (option : Setting) (value : String)
  | strayValue (option : Switch) (value : String)
  | repeated (option : String)
  deriving DecidableEq, Repr

def UsageFault.message : UsageFault → String
  | .unexpected argument => "error: unexpected argument '" ++ argument ++ "' found"
  | .missingValue option => "error: a value is required for '--" ++ option.long ++ "'"
  | .invalidValue option value =>
    "error: invalid value '" ++ value ++ "' for '--" ++ option.long ++ "'"
  | .strayValue option value =>
    "error: unexpected value '" ++ value ++ "' for '--" ++ option.long ++ "'"
  | .repeated option => "error: the argument '--" ++ option ++ "' cannot be used multiple times"

/-- Why no arguments are left to work with. -/
inductive Refusal
  | help
  | usage (fault : UsageFault)
  deriving DecidableEq, Repr

/-- The arguments read so far. -/
structure Reading where
  arguments : Arguments := {}
  /-- The options given so far. -/
  given : List String := []

/-- Reads a number below `2 ^ 32`. -/
def readCount (value : String) : Option Nat :=
  match Decimal.readInt 0x7FFFFFFFFFFFFFFF value.toList with
  | .ok n => if 0 ≤ n ∧ n < UInt32.size then some n.toNat else none
  | .error _ => none

/-- Reads a number below `2 ^ 64`. -/
def readLong (value : String) : Option Nat :=
  match Decimal.readNat (UInt64.size - 1) value.toList with
  | .ok n => some n
  | .error _ => none

/-- Reads a path, which is not empty. -/
def readPath (value : String) : Option String := if value.isEmpty then none else some value

/-- Sets an option with a value; `none` when the value does not fit it. -/
def Arguments.set (a : Arguments) (value : String) : Setting → Option Arguments
  | .config => (readPath value).map fun v => { a with config := some v }
  | .name => some { a with name := value }
  | .rounds => (readCount value).map fun v => { a with rounds := v }
  | .intervalMs => (readLong value).map fun v => { a with intervalMs := v }
  | .workers => (readLong value).map fun v => { a with workers := v }
  | .output => (readPath value).map fun v => { a with output := some v }
  | .csvDir => (readPath value).map fun v => { a with csvDir := some v }
  | .summarizeEvery => (readCount value).map fun v => { a with summarizeEvery := some v }
  | .listen => (SocketAddress.ofString? value).map fun v => { a with listen := some v }

namespace Reading

/-- Takes note that an option is given. -/
def mark (r : Reading) (option : String) : Except Refusal Reading :=
  if option ∈ r.given then .error (.usage (.repeated option))
  else .ok { r with given := option :: r.given }

/-- Takes an option with its value. -/
def setting (r : Reading) (option : Setting) (value : String) : Except Refusal Reading := do
  let r ← r.mark option.long
  match r.arguments.set value option with
  | some arguments => return { r with arguments }
  | none => .error (.usage (.invalidValue option value))

/-- Takes an option without a value. -/
def switch (r : Reading) (option : Switch) : Except Refusal Reading :=
  match option with
  | .help => .error .help
  | .perApi => do
    let r ← r.mark option.long
    return { r with arguments := { r.arguments with perApi := true } }
  | .verbose => do
    let r ← r.mark option.long
    return { r with arguments := { r.arguments with verbose := true } }

/-- Takes the letters of an argument of short options. -/
def letters (r : Reading) : List Char → Except Refusal Reading
  | [] => .ok r
  | c :: cs =>
    match Switch.all.find? fun s => s.short? = some c with
    | some s =>
      match r.switch s with
      | .ok r => letters r cs
      | .error refusal => .error refusal
    | none => .error (.usage (.unexpected (String.ofList ['-', c])))

end Reading

/-- An argument by its form. -/
inductive Token
  /-- Ends the options. -/
  | endOfOptions
  | long (name : List Char) (value : Option (List Char))
  | short (letters : List Char)
  | plain
  deriving DecidableEq, Repr

def Token.ofChars : List Char → Token
  | ['-', '-'] => .endOfOptions
  | '-' :: '-' :: cs =>
    .long (cs.takeWhile (· ≠ '=')) (if cs.contains '=' then
      some ((cs.dropWhile (· ≠ '=')).drop 1) else none)
  | ['-'] => .plain
  | '-' :: cs => .short cs
  | _ => .plain

/-- Takes the arguments one after the other. -/
def readFrom (r : Reading) : List String → Except Refusal Reading
  | [] => .ok r
  | argument :: rest =>
    match Token.ofChars argument.toList with
    | .plain => .error (.usage (.unexpected argument))
    | .endOfOptions =>
      match rest with
      | [] => .ok r
      | next :: _ => .error (.usage (.unexpected next))
    | .short letters =>
      match r.letters letters with
      | .ok r => readFrom r rest
      | .error refusal => .error refusal
    | .long name value =>
      let name := String.ofList name
      match Switch.all.find? fun s => s.long = name, Setting.all.find? fun s => s.long = name with
      | some s, _ =>
        match value with
        | some value => .error (.usage (.strayValue s (String.ofList value)))
        | none =>
          match r.switch s with
          | .ok r => readFrom r rest
          | .error refusal => .error refusal
      | none, some s =>
        match value with
        | some value =>
          match r.setting s (String.ofList value) with
          | .ok r => readFrom r rest
          | .error refusal => .error refusal
        | none =>
          match rest with
          | [] => .error (.usage (.missingValue s))
          | next :: rest =>
            if Token.ofChars next.toList = .plain then
              match r.setting s next with
              | .ok r => readFrom r rest
              | .error refusal => .error refusal
            else .error (.usage (.missingValue s))
      | none, none => .error (.usage (.unexpected argument))

/-- The arguments that a list of texts spells. -/
def Arguments.ofList (texts : List String) : Except Refusal Arguments :=
  match readFrom {} texts with
  | .ok r => .ok r.arguments
  | .error refusal => .error refusal

/-- The text that explains the arguments. -/
def helpText : String :=
  "Per-thread and per-scope hardware counter collection\n\n" ++
  "Usage: perfscope [OPTIONS]\n\n" ++
  "Options:\n" ++
  "      --config <CONFIG>\n" ++
  "          JSON counter configuration (defaults to reserved set 0)\n" ++
  "      --name <NAME>\n" ++
  "          Collector name [default: perf]\n" ++
  "      --rounds <ROUNDS>\n" ++
  "          Number of collection rounds [default: 10]\n" ++
  "      --interval-ms <INTERVAL_MS>\n" ++
  "          Milliseconds between collections [default: 100]\n" ++
  "      --workers <WORKERS>\n" ++
  "          Synthetic patrace-<i> workload threads [default: 2]\n" ++
  "      --output <OUTPUT>\n" ++
  "          Write the result document to this JSON file\n" ++
  "      --csv-dir <CSV_DIR>\n" ++
  "          Write one CSV per thread binding into this directory\n" ++
  "      --summarize-every <SUMMARIZE_EVERY>\n" ++
  "          Summarize the series every N rounds\n" ++
  "      --listen <LISTEN>\n" ++
  "          Serve Prometheus metrics on this address, e.g. 0.0.0.0:8080\n" ++
  "      --perapi\n" ++
  "          Per-API mode: direct cycle register reads around scopes\n" ++
  "  -v, --verbose\n" ++
  "          Enable verbose logging\n" ++
  "  -h, --help\n" ++
  "          Print help\n"

end ScopeMeter.CommandLine
