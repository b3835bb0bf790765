import Syllabus.Proofs.Document.Headed

/-! The modules that a course lists. Each section of a course names a module by the first link of its heading, or else
by its source field. As the field is not required, a section that has it and leaves it blank passes every check and
names nothing; it alone is passed over. -/
namespace Syllabus

namespace Section

/-- No link stands in the heading, and the source field is blank. -/
def passedOver (s : Section) : Bool :=
  (WikiLink.find s.title).isEmpty && (s.block.get? "source").any fun f => Text.blank f.value

inductive Names (s : Section) (link : WikiLink) : Prop where
  | heading {raw more} : WikiLink.find s.title = raw :: more → WikiLink.parse raw = .ok link → Names s link
  | field : WikiLink.find s.title = [] → (WikiLink.ofField s.block "source").value = some link → Names s link

structure Lists (s : Section) (r : Reference) : Prop where
  named : s.keyword = "module"
  link : s.Names r.link
  optional : r.optional = s.block.flag "optional"
  line : r.line = Course.linkLine s.block s

end Section

theorem WikiLink.readValue {text : String} {line : Nat} {link : WikiLink} (value : (read text line).value = some link) :
    WikiLink.parse text = .ok link := by
  unfold read at value
  split at value
  · rename_i parsed
    cases value
    exact parsed
  · cases value

namespace Course

variable {most : Nat} {s : Section}

theorem linkNames {link : WikiLink} (value : (linkOfSection s.block s).value = some link) : s.Names link := by
  unfold linkOfSection at value
  split at value
  · rename_i found
    exact .heading found (WikiLink.readValue value)
  · rename_i found
    split at value
    · exact .field found value
    · cases value

theorem linkSilent (quiet : Remark.blocking (linkOfSection s.block s).remarks = false) :
    (linkOfSection s.block s).value.isSome = !s.passedOver := by
  unfold linkOfSection at quiet ⊢
  cases found : WikiLink.find s.title with
  | cons raw more =>
    rw [found] at quiet
    simpa [Section.passedOver, found] using WikiLink.readLoud quiet
  | nil =>
    rw [found] at quiet
    cases source : s.block.get? "source" with
    | none =>
      simp only [source] at quiet
      cases quiet
    | some f =>
      simp only [source, Option.isSome_some, if_true] at quiet ⊢
      simp only [Section.passedOver, found, source, List.isEmpty_nil, Option.any_some, Bool.true_and]
      cases blank : Text.blank f.value with
      | true =>
        rw [Section.block, WikiLink.ofFieldBlank source blank]
        rfl
      | false => exact WikiLink.ofFieldFilled source blank quiet

theorem moduleListed {r : Reference} (value : (moduleOfSection most s).value = some r) : s.Lists r := by
  unfold moduleOfSection at value
  split at value
  · rename_i named
    obtain ⟨link, names, rfl⟩ := Option.map_eq_some_iff.mp value
    exact ⟨by simpa using named, linkNames names, rfl, rfl⟩
  · cases value

theorem moduleSilent (quiet : Remark.blocking (moduleOfSection most s).remarks = false) :
    (moduleOfSection most s).value.isSome = !s.passedOver := by
  unfold moduleOfSection at quiet ⊢
  split
  · rename_i named
    simp only [named, if_true, Remark.blockingAppend, Bool.or_eq_false_iff] at quiet
    rw [Option.isSome_map]
    exact linkSilent quiet.2
  · rename_i other
    rw [if_neg other] at quiet
    cases quiet

theorem modulesMade {x : Frontmatter.Extracted} {c : Course} (made : (ofBody most x).Made c) :
    List.Forall₂ Section.Lists ((Sections.split x.body sectionLevel x.bodyLine).sections.filter fun s => !s.passedOver)
      c.modules := by
  obtain ⟨value, quiet⟩ := made
  cases value
  simp only [ofBody, Remark.blockingAppend, Bool.or_eq_false_iff] at quiet
  have sections : ∀ s ∈ (Sections.split x.body sectionLevel x.bodyLine).sections,
      (moduleOfSection most s).value.isSome = !s.passedOver := by
    intro s member
    refine moduleSilent (Remark.blockingFalseIff.mpr fun remark inside => ?_)
    exact Remark.blockingFalseIff.mp quiet.1.2 remark (List.mem_flatMap.mpr ⟨_, List.mem_map_of_mem member, inside⟩)
  simp only [Reading.values, List.filterMap_map]
  refine filterMapOfChosen (fun s member kept => ?_) fun s member passed => ?_
  · have read := sections s member
    rw [kept] at read
    obtain ⟨r, value⟩ := Option.isSome_iff_exists.mp read
    exact ⟨r, value, moduleListed value⟩
  · have unread := sections s member
    rw [passed] at unread
    exact Option.isNone_iff_eq_none.mp (by simpa using unread)

theorem progressionKept [Library] {most : Nat} {file text : String} {c : Course}
    (read : (Document.parse .course most file text).value = some (.course c)) :
    ∃ x, Frontmatter.extract text = .ok x ∧
      List.Forall₂ (fun h r => (sectionOf 1 x.body x.bodyLine h).Lists r)
        ((headingsAt 1 x.body x.bodyLine).filter fun h => !(sectionOf 1 x.body x.bodyLine h).passedOver) c.modules := by
  obtain ⟨x, source⟩ := Document.readSource read
  obtain ⟨d, made, same⟩ := Reading.mapMade ⟨source.value, source.quiet⟩
  cases same
  have modules := modulesMade made
  rw [splitSections, List.filter_map, List.forall₂_map_left_iff] at modules
  exact ⟨x, source.extracted, modules⟩

def blankSourceText : String :=
  "---\nslug: a\ntitle: A\n---\n# Module: [[m]]\n# Module: B\nsource::\n"

def blankSourceCourse : Course := ⟨"a", 2, "A", .production, [⟨⟨"m", none, none⟩, false, 5⟩]⟩

theorem blankSourceRead :
    Document.parse .course 2 "courses/a.md" blankSourceText = ⟨some (.course blankSourceCourse), []⟩ := by decide +kernel

theorem blankSourceListed :
    (Document.parse .course 2 "courses/a.md" blankSourceText).value = some (.course blankSourceCourse) ∧
      ∃ x, Frontmatter.extract blankSourceText = .ok x ∧
        List.Forall₂ (fun h r => (sectionOf 1 x.body x.bodyLine h).Lists r)
          ((headingsAt 1 x.body x.bodyLine).filter fun h => !(sectionOf 1 x.body x.bodyLine h).passedOver)
          blankSourceCourse.modules :=
  have read : (Document.parse .course 2 "courses/a.md" blankSourceText).value = some (.course blankSourceCourse) := by
    rw [blankSourceRead]
  ⟨read, progressionKept read⟩

theorem blankSourceDropped :
    Document.parse .course 2 "courses/a.md" blankSourceText = ⟨some (.course blankSourceCourse), []⟩ ∧
      ((Frontmatter.extract blankSourceText).toOption.map fun x =>
        (headingsAt 1 x.body x.bodyLine).map HeadingLine.line) = some [5, 6] ∧
      blankSourceCourse.modules.map Reference.line = [5] :=
  ⟨blankSourceRead, by decide +kernel, by decide⟩

end Course

end Syllabus
