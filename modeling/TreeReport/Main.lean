import Std.Time.DateTime.Timestamp
import TreeReport.CommandLine.Run

/-! The program. It gathers the files a run may look at, the standard input and
the time, and then carries out what the run answers. -/
namespace TreeReport.Program

def nameOf (path : Text) : String := (path.toString?).getD ""

def passedPaths (start : Path) : List Text → List Path
  | [] => [start]
  | name :: rest => start :: passedPaths (Storage.normalize start [name]) rest

def sourcePaths (working : Path) (source : Text) : List Path :=
  passedPaths (if Storage.isAbsolute source then [] else working) (Storage.splitNames source)

def logPaths (working : Path) (logFile : Text) : List Path :=
  let path := Storage.absolute working logFile
  passedPaths [] path ++ [Logging.RotatingFile.backup path 1, Logging.RotatingFile.backup path 2]

def neededPaths (working : Path) (arguments : CommandLine.Arguments) : List Path :=
  passedPaths [] working ++ arguments.files.flatMap (sourcePaths working) ++
    match arguments.logTarget with
    | .file path => logPaths working path
    | _ => []

def entryAt (path : Path) : IO (Option Entry) := do
  try
    let found ← IO.FS.realPath (nameOf (Storage.pathText path))
    if ← found.isDir then return some .directory
    return some (.file (← IO.FS.readBinFile found).toList)
  catch _ => return none

def gather (paths : List Path) : IO Storage :=
  paths.foldlM (fun storage path => do
    match ← entryAt path with
    | some entry => return storage.put path entry
    | none => return storage) []

partial def readAll (stream : IO.FS.Stream) (content : ByteArray) : IO ByteArray := do
  let more ← stream.read 65536
  if more.isEmpty then return content
  readAll stream (content ++ more)

def readsInput (arguments : CommandLine.Arguments) : Bool :=
  arguments.files.isEmpty || arguments.files.contains CommandLine.stdinMarker

def bytesOf (text : Text) : ByteArray := ⟨(Utf8.encode text).toArray⟩

def store (before after : Storage) : IO Unit :=
  after.forM fun (path, entry) => do
    if before.get? path != some entry then
      let name := nameOf (Storage.pathText path)
      match entry with
      | .directory => IO.FS.createDirAll name
      | .file content => IO.FS.writeBinFile name ⟨content.toArray⟩

def finish (outcome : CommandLine.Outcome) : IO UInt32 := do
  (← IO.getStdout).write (bytesOf outcome.stdout)
  (← IO.getStderr).write (bytesOf (outcome.console ++ outcome.stderr))
  match outcome.ending with
  | .ok code => return UInt32.ofNat code
  | .error crash =>
      (← IO.getStderr).write (bytesOf (crash.message ++ [Text.newline]))
      return 1

/-- The command line's own formats show nothing of an origin but its time. -/
def originAt (time : Logging.Timestamp) : Logging.Origin :=
  { created := time, started := time, path := [], line := 0, function := "main",
    process := 0, thread := 0, trace := fun _ _ => [] }

def surroundingsOf (arguments : CommandLine.Arguments) : IO CommandLine.Surroundings := do
  let current ← IO.currentDir
  let working := Storage.normalize [] (Storage.splitNames (Text.ofString current.toString))
  let storage ← gather (neededPaths working arguments)
  let input ← if readsInput arguments then readAll (← IO.getStdin) ByteArray.empty
    else pure ByteArray.empty
  let elapsed := (← Std.Time.Timestamp.now).toMillisecondsSinceUnixEpoch
  return ⟨storage, working, .bytes input.toList, originAt ⟨elapsed.val.toNat⟩⟩

def execute (argv : List Text) : IO UInt32 := do
  match CommandLine.parse argv with
  | .error stop => finish (.stopped stop [])
  | .ok arguments =>
      let surroundings ← surroundingsOf arguments
      let outcome := CommandLine.runWith arguments surroundings
      store surroundings.storage outcome.storage
      finish outcome

end TreeReport.Program

def main (arguments : List String) : IO UInt32 :=
  TreeReport.Program.execute (arguments.map TreeReport.Text.ofString)
