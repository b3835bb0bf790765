import Syllabus.Document.Segment

/-! Modules: level-one sections that refer to learning outcomes or are pages. -/
namespace Syllabus.Module

def sectionLevel : Nat := 1

def segmentLevel : Nat := 2

def sectionNames : List String := ["Learning Outcome", "Page"]

def itemOfSection (most : Nat) (s : Section) : Reading ModuleItem :=
  if s.keyword == "learning-outcome" then (Reference.ofSection .outcomeReference most s).map .outcome
  else if s.keyword == "page" then (Page.ofSection segmentLevel most s).map .page
  else ⟨none, [unknownHeading most "section" sectionNames s]⟩

def ofBody (most : Nat) (x : Frontmatter.Extracted) : Reading Module :=
  let f := x.frontmatter
  let ((slug, slugLine), slugRemarks) := f.slug
  let contentId := f.identity "contentId"
  let id := f.identity "id"
  let split := Sections.split x.body sectionLevel x.bodyLine
  let items := split.sections.map (itemOfSection most)
  ⟨some ⟨slug, slugLine, f.trimmed "title", contentId.value, id.value, f.filled? "discussion", f.tier,
      Reading.values items⟩,
    slugRemarks ++ contentId.remarks ++ id.remarks ++ textBefore "section" split ++ Reading.allRemarks items
      ++ misplacedHeadings (sectionNames.map fun name => (name, sectionLevel)) x.body x.bodyLine
      ++ if split.sections.isEmpty then [.onLine x.bodyLine .noModuleSections] else []⟩

def parse [Library] (most : Nat) (text : String) : Reading Module := .ofText .module most text (ofBody most)

end Syllabus.Module
