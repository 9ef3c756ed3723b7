/-
SharedQueue.Bench.Program — the measuring programs as commands.

* `Request.ofArguments` — what the arguments ask for: a run with some
  settings file, the help text, or nothing sensible.
* `ProcessState.step` — a program from its start to its exit; `Outcome` is
  what is left of it.
* `runAll` — several programs, started one after the other, on one host.
-/
import SharedQueue.Bench.Reader
import SharedQueue.Bench.Writer

namespace SharedQueue.Bench

/-! ## Arguments -/

/-- What the arguments ask for. -/
inductive Request
  | help
  | misuse
  | run (settingsPath : String)
deriving DecidableEq, Repr

/-- The arguments that were understood so far: the path that was given, and
whether something is wrong that only a request for help makes good. -/
structure Reading where
  path : Option String := none
  broken : Bool := false

/-- The path given as the value of an option; a second one is wrong. -/
def Reading.withPath (r : Reading) (path : String) : Reading :=
  { path := some path, broken := r.broken || r.path.isSome }

/-- An argument that begins an option. A lone dash does not. -/
def isOption (arg : List Char) : Bool :=
  match arg with
  | '-' :: _ :: _ => true
  | _ => false

/-- What an argument is by itself. -/
inductive Argument
  /-- The settings option together with its value. -/
  | path (value : String)
  /-- The settings option; the value follows. -/
  | pathFollows
  | help
  /-- The end of the options. -/
  | stop
  | unknown
deriving DecidableEq, Repr

/-- What an argument is by itself. -/
def Argument.of (arg : List Char) : Argument :=
  match arg with
  | ['-', '-'] => .stop
  | '-' :: '-' :: long =>
    if long = "help".toList then .help
    else if long = "config".toList then .pathFollows
    else if "config=".toList.isPrefixOf long then .path (String.ofList (long.drop 7))
    else .unknown
  | '-' :: 'h' :: _ => .help
  | ['-', 'c'] => .pathFollows
  | '-' :: 'c' :: '=' :: value => .path (String.ofList value)
  | '-' :: 'c' :: value => .path (String.ofList value)
  | _ => .unknown

/-- Reads the arguments from left to right. The first one that is not known
ends it, and so does a request for help. -/
def Reading.finish (fallback : String) (r : Reading) : List String → Request
  | [] => if r.broken then .misuse else .run (r.path.getD fallback)
  | arg :: rest =>
    match Argument.of arg.toList, rest with
    | .help, _ => .help
    | .unknown, _ => .misuse
    | .stop, [] => if r.broken then .misuse else .run (r.path.getD fallback)
    | .stop, _ :: _ => .misuse
    | .path value, rest => (r.withPath value).finish fallback rest
    | .pathFollows, [] => .misuse
    | .pathFollows, value :: more =>
      if isOption value.toList then { r with broken := true }.finish fallback (value :: more)
      else (r.withPath value).finish fallback more

/-- What the arguments ask for; without a path the fallback is used. -/
def Request.ofArguments (fallback : String) (args : List String) : Request :=
  Reading.finish fallback {} args

/-! ## Programs -/

/-- The two programs. -/
inductive Tool
  | writer
  | reader
deriving DecidableEq, Repr

/-- The settings file of a program that is told none. -/
def Tool.settingsPath : Tool → String
  | writer => "fmq-writer.toml"
  | reader => "fmq-reader.toml"

/-- What is left of a program: its exit code, the line that it ended with,
and why it failed. -/
structure Outcome where
  code : Nat
  summary : Option String := none
  failure : Option Failure := none
deriving Repr

/-- Where a program stands. -/
inductive ProcessState
  | boot (tool : Tool) (args : List String)
  | writing (config : WriterConfig) (state : WriterState)
  | reading (config : ReaderConfig) (state : ReaderState)

namespace ProcessState

/-- What a step of a program leads to. -/
abbrev Next := Host × Move ProcessState Outcome

/-- The program ends with a failure. -/
def fail (host : Host) (failure : Failure) : Next :=
  (host, .finish { code := 1, failure := some failure })

/-- The writing program, from its settings on. The batch has to fit the
ring. -/
def bootWriter (host : Host) (path : String) : Next :=
  let (files, settings) := writerSettings.load host.files path
  let host := { host with files }
  match settings with
  | .error fault => fail host (.settings fault)
  | .ok c =>
    if c.batch = 0 ∨ c.queue.quantumCount < c.batch then
      fail host (.batchOutside c.queue.quantumCount)
    else (host, .go (.writing c .launch))

/-- The reading program, from its settings on. -/
def bootReader (now : Instant) (host : Host) (path : String) : Next :=
  let (files, settings) := readerSettings.load host.files path
  let host := { host with files }
  match settings with
  | .error fault => fail host (.settings fault)
  | .ok c =>
    if c.batch = 0 then fail host .batchEmpty
    else (host, .go (.reading c (.seek now)))

/-- The writing program is done, and takes the descriptor back. -/
def writerDone (c : WriterConfig) (host : Host) (r : WriterResult) : Next :=
  let host := { host with files := host.files.remove c.descriptorPath }
  match r with
  | .ok pending => (host, .finish { code := 0, summary := some s!"writer done pending={pending}" })
  | .error failure => fail host failure

/-- What is wrong with what was received, if anything. -/
def complaint? (c : ReaderConfig) (t : Tally) : Option Failure :=
  if 0 < t.mismatches then some (.outOfSequence t.mismatches)
  else if c.flavor = .synchronized ∧ t.received ≠ c.messages then
    some (.incomplete t.received c.messages)
  else none

/-- The reading program is done. -/
def readerDone (c : ReaderConfig) (host : Host) (r : ReaderResult) : Next :=
  match r with
  | .error failure => fail host failure
  | .ok t =>
    let summary := s!"reader done received={t.received} overflows={t.overflows} "
      ++ s!"mismatches={t.mismatches}"
    let failure := complaint? c t
    (host, .finish {
      code := if failure.isSome then 1 else 0
      summary := some summary
      failure })

/-- One step of a program. -/
def step (now : Instant) (host : Host) (state : ProcessState) : Next :=
  match state with
  | boot tool args =>
    match Request.ofArguments tool.settingsPath args with
    | .help => (host, .finish { code := 0 })
    | .misuse => (host, .finish { code := 2 })
    | .run path =>
      match tool with
      | .writer => bootWriter host path
      | .reader => bootReader now host path
  | writing c state =>
    let (host, move) := state.step c false now host
    move.within host (.writing c) (writerDone c host)
  | reading c state =>
    let (host, move) := state.step c now host
    move.within host (.reading c) (readerDone c host)

end ProcessState

/-- Runs programs on a host until all have ended. A program that never ends
has no outcome. -/
def runAll (host : Host) (programs : List (Tool × List String)) :
    Host × List (Option Outcome) :=
  let parties := programs.map fun (tool, args) => Party.ready (ProcessState.boot tool args)
  let turn (now : Instant) (host : Host) (state : ProcessState) :
      Host × Turn ProcessState Outcome :=
    let (host, move) := state.step now host
    (host, .move move)
  let last := (Scene.start host parties).run turn Scene.budget
  (last.world, last.parties.map Party.result?)

end SharedQueue.Bench
