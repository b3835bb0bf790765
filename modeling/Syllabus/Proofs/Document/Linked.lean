import Syllabus.Proofs.Document.Lines
import Syllabus.Proofs.Document.Progression

/-! Where the links of a course stand. A section of a course names its module by the first link of its heading, or
else by its source field, and the reference has the line of the one or of the other. The line asks less of the heading
than the link does: two opening brackets draw it there, though an embed and brackets that are left open name
nothing. -/
namespace Syllabus
open Text (FirstFrom HeadingAt)

theorem Text.FirstFrom.once {text head : String} {first start n m : Nat} (left : FirstFrom text first start head n)
    (right : FirstFrom text first start head m) : n = m := by
  obtain ⟨line, stands, starts⟩ := left.starts
  obtain ⟨line', stands', starts'⟩ := right.starts
  rcases Nat.lt_trichotomy n m with before | same | after
  · rw [right.others n line left.later before stands] at starts
    cases starts
  · exact same
  · rw [left.others m line' right.later after stands'] at starts'
    cases starts'

theorem WikiLink.findOpened {s : String} (linked : find s ≠ []) : Text.contains "[[" s = true := by
  by_contra closed
  have uncut : Chars.cut? ['[', '['] s.toList = none := by
    simpa [Text.contains, Chars.contains] using closed
  refine linked ?_
  rw [find, spans, spansFrom, uncut]
  rfl

theorem WikiLink.ofFieldRead {b : FieldBlock} {key : String} {link : WikiLink} (read : (ofField b key).value = some link) :
    ∃ f, b.get? key = some f := by
  cases found : b.get? key with
  | none => simp [ofField, found] at read
  | some f => exact ⟨f, rfl⟩

namespace Section

def misleads (s : Section) : Bool := (WikiLink.find s.title).isEmpty && Text.contains "[[" s.title

inductive Taken (text : String) (s : Section) (link : WikiLink) : Nat → Prop where
  | heading {raw more} (first : WikiLink.find s.title = raw :: more) (read : WikiLink.parse raw = .ok link) :
      Taken text s link s.line
  | field {n} (unlinked : WikiLink.find s.title = []) (read : (WikiLink.ofField s.block "source").value = some link)
      (stands : FirstFrom text 1 (s.line + 1) "source::" n) : Taken text s link n

/-- The line of a reference is the one that its link was taken from, unless the heading misleads. -/
structure Marks (text : String) (s : Section) (r : Reference) : Prop where
  heading : HeadingAt text Course.sectionLevel s.line ("module", s.title)
  taken : ∃ n, s.Taken text r.link n
  exact : ∀ n, s.Taken text r.link n → (r.line = n ↔ s.misleads = false)
  drawn : s.misleads = true → r.line = s.line

variable {text : String} {s : Section} {r : Reference}

theorem Lists.taken (lists : s.Lists r) (stands : s.Stands text Course.sectionLevel) : ∃ n, s.Taken text r.link n := by
  cases lists.link with
  | heading first read => exact ⟨s.line, .heading first read⟩
  | field unlinked read =>
    obtain ⟨f, found⟩ := WikiLink.ofFieldRead read
    exact ⟨f.line, .field unlinked read (stands.fieldLine (by decide) (by decide) found)⟩

theorem Lists.exact (lists : s.Lists r) (stands : s.Stands text Course.sectionLevel) {n : Nat}
    (taken : s.Taken text r.link n) : r.line = n ↔ s.misleads = false := by
  rw [lists.line, Course.linkLine]
  cases taken with
  | @heading raw more first read =>
    have linked : WikiLink.find s.title ≠ [] := first ▸ List.cons_ne_nil raw more
    simp [misleads, first, WikiLink.findOpened linked]
  | field unlinked read standing =>
    obtain ⟨f, found⟩ := WikiLink.ofFieldRead read
    have line : f.line = n := (stands.fieldLine (by decide) (by decide) found).once standing
    have below := standing.later
    cases opened : Text.contains "[[" s.title with
    | false => simp [misleads, unlinked, opened, found, line]
    | true =>
      -- The line is that of the heading, which the field stands below.
      simp only [misleads, unlinked, opened, List.isEmpty_nil, Bool.and_self, if_true, Bool.true_eq_false, iff_false]
      omega

theorem Lists.marks (lists : s.Lists r) (stands : s.Stands text Course.sectionLevel) : s.Marks text r where
  heading := lists.named ▸ stands.heading
  taken := lists.taken stands
  exact _ := lists.exact stands
  drawn misleads := by
    simp only [Section.misleads, Bool.and_eq_true] at misleads
    rw [lists.line, Course.linkLine, if_pos misleads.2]

end Section

namespace Course

theorem linksMarked [Library] {most : Nat} {file text : String} {c : Course}
    (read : (Document.parse .course most file text).value = some (.course c)) :
    ∃ x, Frontmatter.extract text = .ok x ∧
      List.Forall₂ (fun h r => (sectionOf 1 x.body x.bodyLine h).Marks text r)
        ((headingsAt 1 x.body x.bodyLine).filter fun h => !(sectionOf 1 x.body x.bodyLine h).passedOver) c.modules := by
  obtain ⟨x, source⟩ := Document.readSource read
  obtain ⟨d, made, same⟩ := Reading.mapMade ⟨source.value, source.quiet⟩
  cases same
  have shows := Document.bodyShown source.extracted
  have modules := modulesMade made
  have inside : ∀ s ∈ (Sections.split x.body sectionLevel x.bodyLine).sections.filter fun s => !s.passedOver,
      s ∈ (Sections.split x.body sectionLevel x.bodyLine).sections := fun s member => (List.mem_filter.mp member).1
  have marked := ((List.forall₂_and_left _ _).mpr ⟨inside, modules⟩).imp fun s r both =>
    both.2.marks (Section.standsOfSplit shows both.1 (by simp [both.2.named]))
  rw [splitSections, List.filter_map, List.forall₂_map_left_iff] at marked
  exact ⟨x, source.extracted, marked⟩

def mixedText : String :=
  "---\nslug: a\ntitle: A\n---\n# Module: ![[x]] [[m]]\n# Module: B\nsource:: [[n]]\n# Module: ![[x]]\nsource:: [[o]]\n"

def mixedCourse : Course :=
  ⟨"a", 2, "A", .production, [⟨⟨"m", none, none⟩, false, 5⟩, ⟨⟨"n", none, none⟩, false, 7⟩, ⟨⟨"o", none, none⟩, false, 8⟩]⟩

theorem mixedMarked :
    (Document.parse .course 2 "courses/a.md" mixedText).value = some (.course mixedCourse) ∧
      ∃ x, Frontmatter.extract mixedText = .ok x ∧
        List.Forall₂ (fun h r => (sectionOf 1 x.body x.bodyLine h).Marks mixedText r)
          ((headingsAt 1 x.body x.bodyLine).filter fun h => !(sectionOf 1 x.body x.bodyLine h).passedOver)
          mixedCourse.modules :=
  have read : (Document.parse .course 2 "courses/a.md" mixedText).value = some (.course mixedCourse) := by decide +kernel
  ⟨read, linksMarked read⟩

def embedText : String := "---\nslug: a\ntitle: A\n---\n# Module: ![[x]]\nsource:: [[m]]\n"

def embedSection : Section := ⟨"Module: ![[x]]", 5, "source:: [[m]]"⟩

def embedCourse : Course := ⟨"a", 2, "A", .production, [⟨⟨"m", none, none⟩, false, 5⟩]⟩

theorem embedDrawsLine :
    Document.parse .course 2 "courses/a.md" embedText = ⟨some (.course embedCourse), []⟩ ∧
      ((Frontmatter.extract embedText).toOption.map fun x => (Sections.split x.body sectionLevel x.bodyLine).sections) =
        some [embedSection] ∧
      embedSection.Taken embedText ⟨"m", none, none⟩ 6 ∧ embedCourse.modules = [⟨⟨"m", none, none⟩, false, 5⟩] := by
  refine ⟨by decide +kernel, by decide +kernel, ?_, rfl⟩
  refine .field (by decide +kernel) (by decide +kernel) ⟨by decide, ⟨"source:: [[m]]", ?_, by decide +kernel⟩, ?_⟩
  · rw [Text.lineAtIff]
    decide +kernel
  · intro m line least most
    exact absurd least (by simpa [embedSection] using most)

end Course

end Syllabus
