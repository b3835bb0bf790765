import Syllabus.Diagnostic
import Syllabus.Field
import Syllabus.Tier
import Syllabus.Yaml.Reader

/-! The frontmatter of a document: key and value pairs in YAML between a first line of three
hyphens and the next such line. The rest is the body. The YAML reader is a parameter of the cut;
`extract` uses the library's own. -/
namespace Syllabus

inductive FrontmatterError where
  | missing
  | unclosed
  | invalidYaml {reason : String}
  | notMapping
  deriving DecidableEq, Repr

def FrontmatterError.message : FrontmatterError → String
  | .missing => "Missing frontmatter: file must start with a '---' line"
  | .unclosed => "Unclosed frontmatter: no closing '---' delimiter found"
  | @invalidYaml reason => "Invalid frontmatter YAML: " ++ reason
  | .notMapping => "Invalid frontmatter: expected key/value pairs"

structure Frontmatter where
  entries : List (Yaml × Yaml)
  keyLines : List (String × Nat)
  deriving Repr

namespace Frontmatter

def nameOf? : Yaml → Option String
  | .text name => some name
  | _ => none

def get? (f : Frontmatter) (key : String) : Option Yaml :=
  (f.entries.find? fun entry => nameOf? entry.1 == some key).map Prod.snd

def contains (f : Frontmatter) (key : String) : Bool := (f.get? key).isSome

def scalarText? : Yaml → Option String
  | .text s => some s
  | .integer n => some (toString n)
  | .real x => some (Yaml.realText x)
  | .bool b => some (if b then "true" else "false")
  | .tagged _ value => scalarText? value
  | _ => none

def text? (f : Frontmatter) (key : String) : Option String := (f.get? key).bind scalarText?

def isText (f : Frontmatter) (key : String) : Bool :=
  match f.get? key with
  | some (.text _) => true
  | _ => false

def list (f : Frontmatter) (key : String) : List String :=
  match f.get? key with
  | some (.list items) => items.filterMap scalarText?
  | some (.text s) => ((Text.splitOn ',' s).map Text.trim).filter fun item => !item.isEmpty
  | _ => []

def lineOf? (f : Frontmatter) (key : String) : Option Nat :=
  (f.keyLines.find? fun entry => entry.1 == key).map Prod.snd

def tier (f : Frontmatter) : Tier := .ofTags (f.list "tags")

def fieldText : Yaml → String
  | .list [] => ""
  | .list _ => "[...]"
  | .mapping _ => "[...]"
  | value => (scalarText? value).getD ""

/-- The text of a key, under whatever tags. A tagged key is listed and yet not found by its name. -/
def listedName? : Yaml → Option String
  | .text name => some name
  | .tagged _ key => listedName? key
  | _ => none

def fields (f : Frontmatter) : List Field :=
  f.entries.filterMap fun (key, value) =>
    (listedName? key).map fun name => ⟨name, fieldText value, (f.lineOf? name).getD 1⟩

def isDelimiter (line : List Char) : Bool := Chars.trimEnd line == ['-', '-', '-']

def isOpening (line : List Char) : Bool := isDelimiter (line.dropWhile (· == '\uFEFF'))

def closeAt? : List (List Char) → Option (List (List Char) × List (List Char))
  | [] => none
  | line :: more =>
    if isDelimiter line then some ([], more)
    else (closeAt? more).map fun (inside, rest) => (line :: inside, rest)

def isQuote (c : Char) : Bool := c = '"' || c = '\''

def unquoteKey (s : List Char) : List Char :=
  ((s.dropWhile isQuote).reverse.dropWhile isQuote).reverse

def keyOf? (line : List Char) : Option String :=
  match line with
  | [] => none
  | c :: _ =>
    if Text.isBlank c || c = '-' || c = '#' then none
    else (Chars.cut? [':'] line).map fun (key, _) => .ofList (unquoteKey (Chars.trim key))

def keyLinesOf (lines : List (List Char)) : List (String × Nat) :=
  (lines.zipIdx 2).filterMap fun (line, number) => (keyOf? line).map fun key => (key, number)

structure Extracted where
  frontmatter : Frontmatter
  body : String
  bodyLine : Nat
  deriving Repr

def entriesOf (read : String → Except String Yaml) (yaml : List Char) :
    Except FrontmatterError (List (Yaml × Yaml)) :=
  if Chars.blank yaml then .ok []
  else match read (.ofList yaml) with
    | .error reason => .error (@FrontmatterError.invalidYaml reason)
    | .ok .null => .ok []
    | .ok (.mapping entries) => .ok entries
    | .ok _ => .error .notMapping

def extractWith (read : String → Except String Yaml) (content : String) : Except FrontmatterError Extracted :=
  match Chars.rawLines content.toList with
  | [] => .error .missing
  | first :: more =>
    if !isOpening first then .error .missing
    else match closeAt? more with
      | none => .error .unclosed
      | some (inside, rest) =>
        (entriesOf read inside.flatten).map fun entries =>
          ⟨⟨entries, keyLinesOf inside⟩, .ofList rest.flatten, inside.length + 3⟩

def readYaml [Library] (block : String) : Except String Yaml := (Yaml.read? block).elim (.error (Library.yaml block)) .ok

def extract [Library] (content : String) : Except FrontmatterError Extracted := extractWith readYaml content

end Frontmatter
end Syllabus
