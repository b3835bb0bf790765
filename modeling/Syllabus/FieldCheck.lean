import Syllabus.EditDistance
import Syllabus.Problem
import Syllabus.Schema
import Syllabus.Uuid

/-! The check of fields against a schema, and the checks of slugs and UUIDs. A required field that
is absent or blank and a truth value that is none are errors. Of a repeated field only the first
one counts. An unknown field is worth a remark only when it resembles a known one or, in the body,
when it belongs to another schema of the family. -/
namespace Syllabus.FieldCheck

def required (s : Schema) (line : Nat) (fields : List Field) (key : String) : List Remark :=
  match fields.find? fun f => f.key == key with
  | none => [.onLine line (.missingField key s.name)]
  | some f => if Text.blank f.value then [.onLine f.line (.emptyField key s.name)] else []

def unknown (s : Schema) (most : Nat) (f : Field) : List Remark :=
  match Family.ownerOf? s f.key with
  | some owner =>
    if s.family = .frontmatter then [] else [.onLine f.line (.misplacedField f.key s.name owner.name)]
  | none =>
    match Suggestion.closest? f.key (s.fields ++ s.family.fields) most with
    | some nearest => [.onLine f.line (.unknownField f.key s.name nearest)]
    | none => []

def single (s : Schema) (most : Nat) (f : Field) : List Remark :=
  if s.knows f.key then
    if s.isBoolean f.key && (readBool? f.value).isNone then [.onLine f.line (.notBoolean f.key f.value)]
    else []
  else unknown s most f

def each (s : Schema) (most : Nat) : (seen : List String) → List Field → List Remark
  | _, [] => []
  | seen, f :: more =>
    if seen.contains f.key then .onLine f.line (.repeatedField f.key s.name) :: each s most seen more
    else single s most f ++ each s most (f.key :: seen) more

def fields (s : Schema) (line most : Nat) (fs : List Field) : List Remark :=
  s.required.flatMap (required s line fs) ++ each s most [] fs

def block (s : Schema) (line most : Nat) (b : FieldBlock) : List Remark :=
  fields s line most b.fields ++ b.stray.map fun (n, text) => .onLine n (.strayText s.name text)

def slug (value : String) (line : Nat) : List Remark :=
  if Slug.valid value then [] else [.onLine line (.slug value)]

def uuid (key value : String) : Except Problem String :=
  let trimmed := Text.trim value
  if Uuid.valid trimmed then .ok trimmed else .error (.uuid trimmed key)

def frontmatterUuid (f : Frontmatter) (key : String) : Option String × List Remark :=
  match f.text? key with
  | none => (none, [])
  | some value =>
    if f.isText key then
      match uuid key value with
      | .ok id => (some id, [])
      | .error problem => (none, [⟨f.lineOf? key, problem⟩])
    else (none, [⟨f.lineOf? key, .uuidNotText value key⟩])

end Syllabus.FieldCheck
