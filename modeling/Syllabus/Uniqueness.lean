import Syllabus.Diagnostic
import Syllabus.Document.Basic
import Syllabus.Uuid

/-! Uniqueness across a vault. All UUIDs share one space, whatever field declares them; slugs share
one space for each kind of documents. The first use of a name stands, and every later one is an
error that tells of the first. -/
namespace Syllabus.Uniqueness

/-- Uses in order with the first use of the same key, for those that are not first themselves. -/
def repeats {κ α : Type} [BEq κ] (key : α → κ) : (earlier : List α) → List α → List (α × α)
  | _, [] => []
  | earlier, a :: more =>
    match earlier.find? fun other => key other == key a with
    | some first => (a, first) :: repeats key earlier more
    | none => repeats key (earlier ++ [a]) more

structure IdentityPlace where
  file : String
  use : IdentityUse
  deriving DecidableEq, Repr

def identityPlaces (documents : List (String × Document)) : List IdentityPlace :=
  documents.flatMap fun (file, document) => document.identities.map (IdentityPlace.mk file)

def identityError (again first : IdentityPlace) : Diagnostic where
  file := again.file
  line := some again.use.identity.line
  message := "Duplicate id '" ++ again.use.identity.value ++ "' in " ++ again.use.field
    ++ ": already used as " ++ first.use.field ++ " in " ++ first.file
  suggestion := some "Generate a new UUID for one of them"
  severity := .error

def identities (documents : List (String × Document)) : List Diagnostic :=
  (repeats (fun place => Uuid.key place.use.identity.value) [] (identityPlaces documents)).map
    fun (again, first) => identityError again first

structure SlugPlace where
  file : String
  kind : Kind
  slug : String
  line : Nat
  deriving DecidableEq, Repr

def slugPlaces (documents : List (String × Document)) : List SlugPlace :=
  documents.filterMap fun (file, document) =>
    document.slug?.map fun (slug, line) => ⟨file, document.kind, slug, line⟩

def slugError (again first : SlugPlace) : Diagnostic where
  file := again.file
  line := some again.line
  message := "Duplicate " ++ again.kind.label ++ " slug '" ++ again.slug ++ "': already used by " ++ first.file
  suggestion := none
  severity := .error

def slugRepeats (documents : List (String × Document)) : List (SlugPlace × SlugPlace) :=
  repeats (fun place => (place.kind, place.slug)) [] (slugPlaces documents)

def slugs (documents : List (String × Document)) : List Diagnostic :=
  (slugRepeats documents).map fun (again, first) => slugError again first

def dropped (documents : List (String × Document)) : List String :=
  (slugRepeats documents).map fun (again, _) => again.file

end Syllabus.Uniqueness
