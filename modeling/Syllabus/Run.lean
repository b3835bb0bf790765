import Syllabus.Artifact.Encoding
import Syllabus.Build
import Syllabus.ConfigFile

/-! A run of the build command as a function of the files it finds. The configuration is read
before the vault. Hidden files and directories of the vault do not count, nor do files that are
neither documents nor word times; those that do must be UTF-8 text. -/
namespace Syllabus

inductive ConfigSource where
  | named (path : String) (text : Option String)
  | personal (text : Option String)
  deriving DecidableEq, Repr

def ConfigSource.config : ConfigSource → Except Failure Config
  | .named path none => .error (.io (some path) "no such file")
  | .named _ (some text) => ConfigFile.read text
  | .personal none => .ok .standard
  | .personal (some text) => ConfigFile.read text

inductive VaultPlace where
  | missing
  | plainFile
  | directory (files : FileMap ByteArray)

namespace VaultPlace

def hidden (path : String) : Bool := (Text.splitOn '/' path).any fun part => Text.startsWith "." part

def holds (path : String) : Bool :=
  !hidden path && (VaultPath.isMarkdown path || VaultPath.isSidecar path)

def read (root : String) : VaultPlace → Except Failure (FileMap String)
  | .missing => .error (.io (some root) "no such directory")
  | .plainFile => .error (.notFound "Vault directory" root)
  | .directory files => do
    let texts ← (files.entries.filter fun file => holds file.1).mapM fun (path, bytes) =>
      match String.fromUTF8? bytes with
      | some text => Except.ok (path, text)
      | none => .error (.io (some (VaultPath.join root path)) "not UTF-8 text")
    .ok (.ofList texts)

end VaultPlace

structure RunResult where
  artifact : Artifact
  text : String
  status : Nat

namespace RunResult

def strictFailure : Nat := 2

def of (artifact : Artifact) (pretty strict : Bool) : RunResult :=
  ⟨artifact, artifact.render pretty, if strict && artifact.blocking then strictFailure else 0⟩

def build [Library] (source : ConfigSource) (root : String) (place : VaultPlace) (pretty strict : Bool) :
    Except Failure RunResult := do
  let config ← source.config
  let files ← place.read root
  .ok (.of (Build.run files config) pretty strict)

end RunResult
end Syllabus
