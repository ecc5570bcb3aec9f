import Clickpath.Command.Execution

/-! # The program

A command line is carried out on the files and directories that its words name, with the environment
and the clock of the machine. No browser, no web and no language model can be reached from here, so
commands that need one fail.
-/

namespace Clickpath.Machine

/-- The variables that settings are made of. -/
def settingNames : List String :=
  ["STEPFLOW_SCREENSHOTS_DIR", "STEPFLOW_BROWSER", "STEPFLOW_HEADLESS", "STEPFLOW_STEP_TIMEOUT_MS",
   "STEPFLOW_MAX_CONCURRENT_RUNS", "STEPFLOW_LOG_LEVEL", "OPENAI_API_KEY", "OPENAI_API_BASE_URL",
   "OPENAI_BASE_URL", "OPENAI_MODEL"]

def readEnvironment : IO Settings.Environment := do
  let found ← settingNames.mapM fun name => return (name, ← IO.getEnv name)
  return found.filterMap fun (name, value) => value.map fun value => (name, value)

def changeTime (path : String) : IO Int := do
  let time := (← ((← IO.currentDir) / path).metadata).modified
  return time.sec * 1000000 + time.nsec.toNat / 1000

/-- The present time in millionths of a second since 1970: that of a file written now. -/
def presentTime : IO Int := do
  let (_, path) ← IO.FS.createTempFile
  let time ← changeTime path.toString
  IO.FS.removeFile path
  return time

/-- The names that a word of a command line can mean: itself, and what stands behind an equals
sign. -/
def namesIn (word : String) : List String :=
  match Arguments.splitAssignment? word.toList with
  | some (_, value) => [word, value]
  | none => [word]

def loadFile (disk : Disk) (path : String) : IO Disk := do
  let bytes ← IO.FS.readBinFile path
  return disk.withFile path ⟨.ofBytes (bytes.toList.map (·.toNat)), ← changeTime path⟩

/-- Puts what a path of the machine names on a disk: a file, or a directory with its files. -/
def load (disk : Disk) (path : String) : IO Disk := do
  let there := (← IO.currentDir) / path
  if ← there.isDir then
    (← there.readDir).toList.foldlM (fun disk entry => do
      let inside := Path.join path entry.fileName
      if ← entry.path.isDir then return (disk.ensureDirectory inside).2
      else loadFile disk inside) (disk.ensureDirectory path).2
  else if ← there.pathExists then loadFile disk path
  else return disk

/-- Writes to the machine what a disk has and another had not. -/
def store (before after : Disk) : IO Unit := do
  for (place, entry) in after.entries do
    let path := "/" ++ "/".intercalate place
    match entry, before.entryAt? place with
    | .directory, none => IO.FS.createDirAll path
    | .file ⟨.text text, changed⟩, some (.file old) =>
      if old.changed != changed then IO.FS.writeFile path text
    | .file ⟨.text text, _⟩, none => IO.FS.writeFile path text
    | _, _ => pure ()

/-- The identifier with a number, in a sequence that starts anywhere. -/
def identifier (start number : Nat) : String :=
  let digits := Chars.hexDigits 32 ((start + number) % Nat.pow 2 128)
  let part (first size : Nat) : List Char := (digits.drop first).take size
  String.ofList (['-'].intercalate
    [part 0 8, part 8 4, '4' :: part 13 3, '8' :: part 17 3, part 20 12])

def supplyAt (micros : Int) : IO Supply := do
  let start := (← IO.getRandomBytes 16).toList.foldl (fun n byte => n * 256 + byte.toNat) 0
  match Moment.ofEpochMicros? micros with
  | none => throw (IO.userError "the clock is out of range")
  | some now => return ⟨identifier start, fun _ => micros / 1000, now, 0, 0⟩

def noDriver : Driver Unit where
  answer _ s := (.error ⟨.browser, "No browser can be reached.", none⟩, s)

def services (settings : Settings) : Command.Services (Driver.Client Unit) Unit where
  settings := settings
  sessions headless := noDriver.sessions (.ofSettings settings none headless none)
  driver := noDriver
  shows _ := none

def world (disk : Disk) (supply : Supply) : Command.World (Driver.Client Unit) Unit where
  runs := ⟨⟨(), []⟩, ⟨disk, supply, .empty⟩, [], []⟩
  page := ⟨(), []⟩
  web := ⟨fun _ => .unreachable "no web can be reached", []⟩
  chat := ⟨fun _ => none, []⟩
  output := ""

def report (result : Command.Result) : IO UInt32 := do
  match result.complaint with
  | some complaint => IO.eprintln complaint.message
  | none => pure ()
  match result.exit with
  | .status code | .usage code => return code.toUInt32
  | .failure failure =>
    IO.eprintln failure.message
    return 1

def run (args : List String) : IO UInt32 := do
  match Settings.ofEnvironment (← readEnvironment) with
  | .error fault =>
    IO.eprintln fault.message
    return 1
  | .ok settings =>
    let present ← presentTime
    let current := Path.parts (← IO.currentDir).toString |>.filter (!·.isEmpty)
    let nothing : Disk := ⟨[], current, present⟩
    let named := settings.screenshotsDirectory :: args.flatMap namesIn |>.filter (!·.isEmpty)
    let disk ← named.foldlM load (nothing.ensureDirectory ("/" ++ "/".intercalate current)).2
    let (result, after) :=
      Command.execute (services settings) args (world disk (← supplyAt present))
    store disk after.disk
    IO.print after.output
    report result

end Clickpath.Machine

def main (args : List String) : IO UInt32 := Clickpath.Machine.run args
