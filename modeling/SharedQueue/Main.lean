/-
SharedQueue.Main — the measuring programs on the command line.

    writer [-c FILE] , reader [-c FILE]

runs the programs side by side in the current directory; a comma of its own
stands between two commands. They share a memory and a clock of their own,
so a run takes no longer than its steps, and the same arguments and files
always give the same outcome.

* `commands?` — what the arguments ask for.
* `Outcome.lines` — what is printed for a program.
* `main` — reads the files of the directory, runs the programs, and writes
  back the files that they changed.
-/
import SharedQueue.Bench.Program

namespace SharedQueue.Bench

/-! ## Arguments and output -/

/-- One command: the program and its arguments. -/
def command? : List String → Option (Tool × List String)
  | "writer" :: args => some (.writer, args)
  | "reader" :: args => some (.reader, args)
  | _ => none

/-- The commands between commas. -/
def commands? (args : List String) : Option (List (Tool × List String)) :=
  (args.splitOn ",").mapM command?

/-- How the programs are called. -/
def usage : String := "usage: (writer | reader) [-c FILE] [, (writer | reader) [-c FILE]]..."

/-- A failure in words. -/
def SettingsFault.message : SettingsFault → String
  | malformed => "the file does not hold these settings"
  | unopened => "the file cannot be opened"
  | unreadable => "the file cannot be read"
  | noFolder => "the path has no folder"
  | folderRefused => "the folder cannot be made"
  | fileRefused => "the file cannot be made"

/-- A failure in words. -/
def Failure.describe (f : Failure) : String :=
  match f, f.message? with
  | _, some message => message
  | .settings fault, none => "settings: " ++ fault.message
  | .queue cause, none => cause.message
  | _, none => ""

/-- What is printed for a program. -/
def Outcome.lines : Option Outcome → List String
  | none => ["still running"]
  | some o =>
    o.summary.toList ++ (o.failure.map fun f => "Error: " ++ f.describe).toList
      ++ if o.summary.isNone ∧ o.failure.isNone then [usage] else []

/-- The worst of the exit codes. -/
def exitCode (outcomes : List (Option Outcome)) : Nat :=
  outcomes.foldl (fun worst o => max worst ((o.map (·.code)).getD 1)) 0

/-! ## The outer layer -/

/-- The way that an absolute path without detours names. -/
def wayOf (path : String) : Way := (path.splitOn "/").filter fun name => !name.isEmpty

/-- The absolute path of a way. -/
def pathOf (way : Way) : String := "/" ++ "/".intercalate way

/-- The files and folders of the current directory. -/
def readCurrentDirectory : IO Directory := do
  let here ← IO.currentDir
  let home := wayOf here.toString
  let mut dir := Directory.empty home
  for entry in ← here.readDir do
    let way := home ++ [entry.fileName]
    if ← entry.path.isDir then
      dir := { dir with folders := way :: dir.folders }
    else
      dir := dir.put way (← IO.FS.readBinFile entry.path)
  return dir

/-- Makes the files and folders what they have become. -/
def writeChanges (now before : Directory) : IO Unit := do
  for way in now.newFolders before do
    IO.FS.createDirAll (pathOf way)
  for (way, bytes) in now.changes before do
    IO.FS.writeBinFile (pathOf way) bytes
  for way in now.gone before do
    IO.FS.removeFile (pathOf way)

/-- Runs the programs that the arguments name, and gives the exit code. -/
def runArguments (args : List String) : IO UInt32 := do
  match commands? args with
  | none =>
    IO.eprintln usage
    return 2
  | some programs =>
    let before ← readCurrentDirectory
    let (host, outcomes) := runAll ⟨.empty, before⟩ programs
    writeChanges host.files before
    for outcome in outcomes do
      for line in Outcome.lines outcome do
        IO.println line
    return UInt32.ofNat (exitCode outcomes)

end SharedQueue.Bench

def main (args : List String) : IO UInt32 := SharedQueue.Bench.runArguments args
