import Syllabus.Diagnostic
import Syllabus.Document.Basic
import Syllabus.EditDistance
import Syllabus.FileMap
import Syllabus.VaultPath
import Syllabus.WikiLink

/-! The documents of a vault by path, and what links mean there. A target is looked up beside the
file that the link stands in, then from the root of the vault, then by file name alone, which must
then be that of exactly one file. Anchors play no part. -/
namespace Syllabus

structure IndexedFile where
  kind : Kind
  tier : Tier
  document : Option Document
  deriving DecidableEq, Repr

structure Index where
  files : FileMap IndexedFile
  sidecars : FileMap String

namespace Index

def empty : Index := ⟨.empty, .empty⟩

def insert (index : Index) (path : String) (file : IndexedFile) : Index :=
  { index with files := index.files.insert path file }

def insertSidecar (index : Index) (path text : String) : Index :=
  { index with sidecars := index.sidecars.insert path text }

def get? (index : Index) (path : String) : Option IndexedFile := index.files.get? path

def contains (index : Index) (path : String) : Bool := index.files.contains path

def sidecar? (index : Index) (path : String) : Option String := index.sidecars.get? path

def paths (index : Index) : List String := index.files.paths

def documents (index : Index) : List (String × Document) :=
  index.files.entries.filterMap fun (path, file) => file.document.map fun d => (path, d)

end Index

inductive LinkFailure where
  | notFound (target : String) (nearest : Option String)
  | ambiguous (target : String) (found : List String)
  deriving DecidableEq, Repr

namespace LinkFailure

def message : LinkFailure → String
  | .notFound target _ => "Referenced file not found: '" ++ target ++ "'"
  | .ambiguous target found =>
    "Ambiguous reference '" ++ target ++ "': matches " ++ Text.joinWith ", " found

def suggestion : LinkFailure → Option String
  | .notFound _ (some nearest) => some ("Did you mean '[[" ++ nearest ++ "]]'?")
  | .notFound _ none => none
  | .ambiguous .. => some "Use the full path from the vault root"

def inFile (file : String) (line : Nat) (e : LinkFailure) : Diagnostic :=
  ⟨file, some line, e.message, e.suggestion, .error⟩

end LinkFailure

namespace Index

def trimSlashes (dir : String) : String := .ofList (dir.toList.reverse.dropWhile (· == '/')).reverse

def directoriesOf (origin target : String) : List String :=
  let dir := VaultPath.parent target
  [dir, VaultPath.join (VaultPath.parent origin) dir].map trimSlashes

def nearest? (index : Index) (origin target : String) (most : Nat) : Option String :=
  let dirs := directoriesOf origin target
  let stems := (index.paths.filter fun path => dirs.contains (VaultPath.parent path)).map VaultPath.stem
  (Suggestion.closest? (VaultPath.stem target) stems most).map (VaultPath.join (VaultPath.parent target))

def named (index : Index) (target : String) : List String :=
  index.paths.filter fun path => VaultPath.fileName path == VaultPath.fileName target

def resolve (index : Index) (origin : String) (link : WikiLink) (most : Nat) : Except LinkFailure String :=
  let target := VaultPath.withExtension (Text.trim link.target)
  let beside := VaultPath.join (VaultPath.parent origin) target
  if index.contains beside then .ok beside
  else if index.contains target then .ok target
  else match index.named target with
    | [] => .error (.notFound link.target (index.nearest? origin link.target most))
    | [one] => .ok one
    | many => .error (.ambiguous link.target many)

end Index
end Syllabus
