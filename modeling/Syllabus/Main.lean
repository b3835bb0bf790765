import Syllabus.CommandLine
import Syllabus.Run

/-! The program. It reads the configuration and the vault, builds, and writes the artifact. All that
is decided is decided in the modules it imports. -/
namespace Syllabus.Program

def readText? (path : String) : IO (Option String) := do
  try
    return some (← IO.FS.readFile path)
  catch _ => return none

def personalConfig? : IO (Option String) := do
  let home := (← IO.getEnv "HOME").map (· ++ "/.config")
  match (← IO.getEnv "XDG_CONFIG_HOME").or home with
  | some dir => readText? (dir ++ "/coursevault/config.toml")
  | none => return none

def configSource (named : Option String) : IO ConfigSource := do
  match named.or (← IO.getEnv "COURSEVAULT_CONFIG") with
  | some path => return .named path (← readText? path)
  | none => return .personal (← personalConfig?)

partial def filesBelow (dir : IO.FS.DirEntry) (path : String) : IO (List (String × ByteArray)) := do
  let entries ← try dir.path.readDir catch _ => pure #[]
  let mut files := []
  for entry in entries do
    let below := VaultPath.join path entry.fileName
    if ← entry.path.isDir then
      if !VaultPlace.hidden below then files := files ++ (← filesBelow entry below)
    else if VaultPlace.holds below then
      files := files ++ [(below, ← IO.FS.readBinFile entry.path)]
  return files

def vaultPlace (root : String) : IO VaultPlace := do
  let dir : IO.FS.DirEntry := ⟨".", root⟩
  if ← dir.path.isDir then return .directory (.ofList (← filesBelow dir ""))
  if ← dir.path.pathExists then return .plainFile
  return .missing

def failureStatus : UInt32 := 1

def usageStatus : UInt32 := 2

def build (i : CommandLine.Invocation) : IO UInt32 := do
  let source ← configSource i.config
  match RunResult.build source i.vault (← vaultPlace i.vault) i.pretty i.strict with
  | .error e =>
    IO.eprintln ("Error: " ++ e.message)
    return failureStatus
  | .ok result =>
    match i.output with
    | some path => IO.FS.writeFile path result.text
    | none => IO.println result.text
    IO.eprintln result.artifact.summary
    return UInt32.ofNat result.status

def run (words : List String) : IO UInt32 := do
  match CommandLine.parse words with
  | .ok invocation => build invocation
  | .error .help =>
    IO.println CommandLine.Stop.help.message
    return 0
  | .error .version =>
    IO.println CommandLine.Stop.version.message
    return 0
  | .error stop =>
    IO.eprintln ("error: " ++ stop.message)
    return usageStatus

end Syllabus.Program

def main (args : List String) : IO UInt32 := Syllabus.Program.run args
