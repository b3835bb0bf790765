import Syllabus.Document.Parse
import Syllabus.Expansion
import Syllabus.Layout
import Syllabus.Uniqueness

/-! Building a vault. Every document is read, names are checked for uniqueness, and the modules and
courses are expanded, each in the order of their paths. Ignored documents take no part, and nothing
is said about them. Findings come in the order of these three stages, each once. -/
namespace Syllabus

structure ReadFile where
  kind : Kind
  tier : Tier
  outcome : Outcome Document
  deriving Repr

namespace Build

variable [Library]

def tierOfText (text : String) : Tier :=
  match Frontmatter.extract text with
  | .ok x => x.frontmatter.tier
  | .error _ => .production

def readFile (config : Config) (path text : String) : Option ReadFile :=
  (config.layout.kindOf? path).map fun kind =>
    let outcome := Document.parse kind config.reach.fields path text
    ⟨kind, (outcome.value.map Document.tier).getD (tierOfText text), outcome⟩

def readFiles (files : FileMap String) (config : Config) : FileMap ReadFile := files.filterMap (readFile config)

def sidecars (files : FileMap String) : FileMap String :=
  files.filterMap fun path text => if VaultPath.isSidecar path then some text else none

def indexOf (read : FileMap ReadFile) (sidecars : FileMap String) : Index where
  files := read.filterMap fun _ file => some ⟨file.kind, file.tier, file.outcome.value⟩
  sidecars := sidecars

def readFindings (read : FileMap ReadFile) : List Diagnostic :=
  read.entries.flatMap fun (_, file) => if file.tier.isIgnored then [] else file.outcome.found

def active (index : Index) : List (String × Document) :=
  index.documents.filter fun (_, document) => !document.tier.isIgnored

def kept (documents : List (String × Document)) : List (String × Document) :=
  let repeated := Uniqueness.dropped documents
  documents.filter fun (path, _) => !repeated.contains path

inductive Product where
  | module (m : Artifact.Module)
  | course (c : Artifact.Course)
  deriving DecidableEq, Repr

def Product.module? : Product → Option Artifact.Module
  | .module m => some m
  | .course _ => none

def Product.course? : Product → Option Artifact.Course
  | .course c => some c
  | .module _ => none

def product? (x : Expansion) : String × Document → Option (Product × List Diagnostic)
  | (path, .module m) =>
    let (made, found) := x.expandModule path m
    some (.module made, found)
  | (path, .course c) =>
    let (made, found) := x.expandCourse path c
    some (.course made, found)
  | _ => none

def run (files : FileMap String) (config : Config) : Artifact :=
  let read := readFiles files config
  let index := indexOf read (sidecars files)
  let documents := active index
  let products := (kept documents).filterMap (product? ⟨index, config.reach.files⟩)
  { modules := products.filterMap fun product => product.1.module?
    courses := products.filterMap fun product => product.1.course?
    found := (readFindings read ++ (Uniqueness.identities documents ++ Uniqueness.slugs documents)
      ++ products.flatMap Prod.snd).eraseDups }

end Build
end Syllabus
