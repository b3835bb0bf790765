import Syllabus.Text.Basic

/-! Paths of a vault: relative to its root, parts joined by slashes, plain text. -/
namespace Syllabus.VaultPath

def splitLast : List Char → Option (List Char) × List Char
  | [] => (none, [])
  | c :: rest =>
    match splitLast rest with
    | (some dir, name) => (some (c :: dir), name)
    | (none, name) => if c = '/' then (some [], name) else (none, c :: name)

def parent (path : String) : String := .ofList ((splitLast path.toList).1.getD [])

def fileName (path : String) : String := .ofList (splitLast path.toList).2

def extension : String := ".md"

def sidecarExtension : String := ".timestamps.json"

def stem (path : String) : String := Text.dropSuffix extension (fileName path)

def join (dir rest : String) : String := if dir.isEmpty then rest else dir ++ "/" ++ rest

def isMarkdown (path : String) : Bool := Text.endsWith extension path

def withExtension (path : String) : String := if isMarkdown path then path else path ++ extension

def sidecar (path : String) : String := Text.dropSuffix extension path ++ sidecarExtension

def isSidecar (path : String) : Bool := Text.endsWith sidecarExtension path

end Syllabus.VaultPath
