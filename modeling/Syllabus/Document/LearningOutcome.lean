import Syllabus.Document.Reading

/-! Learning outcomes: level-two sections that each refer to a lens. -/
namespace Syllabus.LearningOutcome

def sectionLevel : Nat := 2

def lensOfSection (most : Nat) (s : Section) : Reading Reference :=
  if s.keyword == "lens" then Reference.ofSection .lensReference most s
  else ⟨none, [unknownHeading most "section" ["Lens"] s]⟩

def ofBody (most : Nat) (x : Frontmatter.Extracted) : Reading LearningOutcome :=
  let f := x.frontmatter
  let id := f.identity "id"
  match id.value with
  | none => ⟨none, id.remarks⟩
  | some identity =>
    let split := Sections.split x.body sectionLevel x.bodyLine
    let lenses := split.sections.map (lensOfSection most)
    ⟨some ⟨identity, f.filled? "discussion", f.tier, Reading.values lenses⟩,
      id.remarks ++ textBefore "'## Lens:'" split ++ Reading.allRemarks lenses
        ++ misplacedHeadings [("Lens", sectionLevel)] x.body x.bodyLine
        ++ if split.sections.isEmpty then [.onLine x.bodyLine .noLenses] else []⟩

def parse [Library] (most : Nat) (text : String) : Reading LearningOutcome :=
  .ofText .learningOutcome most text (ofBody most)

end Syllabus.LearningOutcome
