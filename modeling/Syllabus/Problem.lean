import Syllabus.Diagnostic
import Syllabus.Frontmatter
import Syllabus.Heading
import Syllabus.Slug
import Syllabus.WikiLink

/-! What can be wrong with one document, as causes. The wording, the remedy and the severity of a
cause are functions of it; its file and line are added where it is found. -/
namespace Syllabus

inductive Problem where
  | frontmatter (cause : FrontmatterError)
  /- Fields. An owner is the name of a schema. -/
  | missingField (key owner : String)
  | emptyField (key owner : String)
  | repeatedField (key owner : String)
  | notBoolean (key value : String)
  | misplacedField (key found owner : String)
  | unknownField (key owner nearest : String)
  | strayText (owner text : String)
  | slug (value : String)
  | uuid (value key : String)
  | uuidNotText (value key : String)
  /- Links. -/
  | link (cause : WikiLinkError)
  | textAfterLink (key : String)
  | noModuleLink
  /- Headings. -/
  | unknownHeading (what heading : String) (nearest : Option String) (expected : List String)
  | misplacedHeading (heading : Heading) (wanted : Nat)
  | textBefore (what : String)
  | forbiddenSegment (segment sectionName : String)
  | noSegments (sectionName title : String)
  | noModuleSections
  | noModules
  | noLenses
  | noLensSections
  /- Sources. -/
  | wikiEmbed (raw : String)
  | emptyTranscript
  deriving DecidableEq, Repr

namespace Problem

def severity : Problem → Severity
  | .repeatedField .. | .misplacedField .. | .unknownField .. | .strayText .. | .textAfterLink _
  | .misplacedHeading .. | .textBefore _ | .noSegments .. | .noModuleSections | .noModules
  | .emptyTranscript => .warning
  | _ => .error

def message : Problem → String
  | .frontmatter cause => cause.message
  | .missingField key owner => "Missing required field '" ++ key ++ "' in " ++ owner
  | .emptyField key owner => "Field '" ++ key ++ "' is empty in " ++ owner
  | .repeatedField key owner =>
    "Duplicate field '" ++ key ++ "' in " ++ owner ++ "; the first value is used"
  | .notBoolean key value =>
    "Field '" ++ key ++ "' must be 'true' or 'false', got '" ++ Text.trim value ++ "'"
  | .misplacedField key found owner =>
    "Field '" ++ key ++ "' is not applicable to " ++ found ++ "s (it belongs to " ++ owner ++ "s)"
  | .unknownField key owner _ => "Unknown field '" ++ key ++ "' in " ++ owner
  | .strayText owner text =>
    "Text outside any field is ignored in " ++ owner ++ ": '" ++ Text.trim text ++ "'"
  | .slug value =>
    "Invalid slug '" ++ value ++ "': use lowercase letters, digits and single hyphens"
  | .uuid value key => "Invalid UUID '" ++ value ++ "' in field '" ++ key ++ "'"
  | .uuidNotText value key => "Field '" ++ key ++ "' must be a string UUID, got '" ++ value ++ "'"
  | .link cause => cause.message
  | .textAfterLink key => "Text after the link in '" ++ key ++ "' is ignored"
  | .noModuleLink => "Module section has no link"
  | .unknownHeading what heading _ _ => "Unknown " ++ what ++ " type '" ++ heading ++ "'"
  | .misplacedHeading heading _ =>
    "Heading '" ++ heading.text ++ "' is at level " ++ toString heading.level ++ " and is treated as text"
  | .textBefore what => "Text before the first " ++ what ++ " heading is ignored"
  | .forbiddenSegment segment sectionName =>
    segment ++ " segments are not allowed in " ++ sectionName ++ " sections"
  | .noSegments sectionName title => sectionName ++ " section '" ++ title ++ "' has no segments"
  | .noModuleSections => "Module has no '# Learning Outcome:' or '# Page:' sections"
  | .noModules => "Course has no modules"
  | .noLenses => "Learning outcome has no '## Lens:' sections"
  | .noLensSections => "Lens has no '### Page:', '### Article:' or '### Video:' sections"
  | .wikiEmbed raw => "Wiki-style image embed '" ++ raw ++ "' is not supported"
  | .emptyTranscript => "Transcript body is empty"

def didYouMean (name : String) : String := "Did you mean '" ++ name ++ "'?"

def suggestion : Problem → Option String
  | .unknownField _ _ nearest => some (didYouMean nearest)
  | .strayText .. => some "Put it in a field, e.g. 'content:: ...'"
  | .slug value =>
    let fixed := Slug.suggest value
    if fixed.isEmpty then none else some ("Try '" ++ fixed ++ "'")
  | .uuid .. => some "Use the 8-4-4-4-12 hexadecimal form, e.g. 550e8400-e29b-41d4-a716-446655440000"
  | .uuidNotText _ key => some ("Quote the value: " ++ key ++ ": \"...\"")
  | .link (.missingBracket _) => some "Write the link as [[path/to/file]]"
  | .link (.pathTraversal _) => some "Link relative to the vault root instead of using '..'"
  | .noModuleLink => some "Write '# Module: [[modules/name]]'"
  | .unknownHeading _ _ (some name) _ => some (didYouMean name)
  | .unknownHeading _ _ none expected => some ("Expected one of '" ++ Text.joinWith "', '" expected ++ "'")
  | .misplacedHeading heading wanted =>
    some ("Use '" ++ .ofList (List.replicate wanted '#') ++ " " ++ heading.text ++ "'")
  | .wikiEmbed _ => some "Use a markdown image: ![alt](url)"
  | _ => none

end Problem

structure Remark where
  line : Option Nat
  problem : Problem
  deriving DecidableEq, Repr

namespace Remark

def onLine (line : Nat) (problem : Problem) : Remark := ⟨some line, problem⟩

def isError (r : Remark) : Bool := r.problem.severity == .error

def blocking (rs : List Remark) : Bool := rs.any isError

def inFile (file : String) (r : Remark) : Diagnostic :=
  ⟨file, r.line, r.problem.message, r.problem.suggestion, r.problem.severity⟩

theorem blockingInFile (file : String) (rs : List Remark) :
    Diagnostic.blocking (rs.map (inFile file)) = blocking rs := by
  simp [Diagnostic.blocking, blocking, List.any_map, Function.comp_def, inFile, Diagnostic.isError]
  rfl

end Remark
end Syllabus
