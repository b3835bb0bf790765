import Syllabus.Document.Reading

/-! Courses: level-one sections that each name a module, by a link in the heading or else by a
source field. -/
namespace Syllabus.Course

def sectionLevel : Nat := 1

def linkOfSection (b : FieldBlock) (s : Section) : Reading WikiLink :=
  match WikiLink.find s.title with
  | raw :: _ => WikiLink.read raw s.line
  | [] =>
    if (b.get? "source").isSome then WikiLink.ofField b "source"
    else ⟨none, [.onLine s.line .noModuleLink]⟩

def linkLine (b : FieldBlock) (s : Section) : Nat :=
  if Text.contains "[[" s.title then s.line else ((b.get? "source").map Field.line).getD s.line

def moduleOfSection (most : Nat) (s : Section) : Reading Reference :=
  if s.keyword == "module" then
    let b := FieldBlock.parse s.content s.contentLine
    let link := linkOfSection b s
    ⟨link.value.map fun l => ⟨l, b.flag "optional", linkLine b s⟩,
      FieldCheck.block .moduleReference s.line most b ++ link.remarks⟩
  else ⟨none, [unknownHeading most "section" ["Module"] s]⟩

def ofBody (most : Nat) (x : Frontmatter.Extracted) : Reading Course :=
  let f := x.frontmatter
  let ((slug, slugLine), slugRemarks) := f.slug
  let split := Sections.split x.body sectionLevel x.bodyLine
  let modules := split.sections.map (moduleOfSection most)
  let found := slugRemarks ++ textBefore "module" split ++ Reading.allRemarks modules
  ⟨some ⟨slug, slugLine, f.trimmed "title", f.tier, Reading.values modules⟩,
    found ++ if (Reading.values modules).isEmpty && !Remark.blocking found
      then [.onLine x.bodyLine .noModules] else []⟩

def parse [Library] (most : Nat) (text : String) : Reading Course := .ofText .course most text (ofBody most)

end Syllabus.Course
