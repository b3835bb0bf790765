import Mathlib.Data.List.Nodup
import Syllabus.Heading
import Syllabus.Proofs.Lines

/-! The sections that the headings of a level make. There is one for each heading of the level outside the code
fences, with the lines below it up to the next one. The lines of a section are lines of the text it was cut from,
under the same numbers, and so are the lines before the first section. -/
namespace Syllabus
open Text (LineAt Numbered Trails)

namespace Text

def Shows (whole : String) (first : Nat) (part : String) (start : Nat) : Prop :=
  ∀ ⦃n line⦄, LineAt part start n line → ∃ written, LineAt whole first n written ∧ Trails written line

variable {whole part inner : String} {first start next n : Nat}

theorem Shows.trans (outer : Shows whole first part start) (within : Shows part start inner next) :
    Shows whole first inner next := by
  intro n line found
  obtain ⟨between, found, trails⟩ := within found
  obtain ⟨written, found, others⟩ := outer found
  exact ⟨written, found, others.trans trails⟩

theorem Shows.numbered (shows : Shows whole first part start) (inside : Numbered part start n) :
    Numbered whole first n := by
  obtain ⟨line, found⟩ := numberedIff.mp inside
  obtain ⟨written, found, _⟩ := shows found
  exact numberedIff.mpr ⟨written, found⟩

end Text

def markAt (ls : List String) (i : Nat) (line : String) : Option Heading :=
  if isFence line || (ls.take i).countP isFence % 2 == 1 then none else Heading.ofLine? line

def headingsAt (level : Nat) (text : String) (first : Nat) : List HeadingLine :=
  ((Text.lines text).zipIdx first).filterMap fun (line, n) =>
    ((markAt (Text.lines text) (n - first) line).filter fun h => h.level == level).map (HeadingLine.mk n)

def contentBelow (level : Nat) (text : String) (first : Nat) (h : HeadingLine) : String :=
  Text.joinWith "\n" ((((Text.lines text).zipIdx first).filter fun (_, n) =>
    h.line < n && (headingsAt level text first).all fun next => next.line ≤ h.line || n < next.line).map Prod.fst)

def sectionOf (level : Nat) (text : String) (first : Nat) (h : HeadingLine) : Section :=
  ⟨h.heading.text, h.line, contentBelow level text first h⟩

def HeadingLine.Stands (text : String) (first : Nat) (h : HeadingLine) : Prop :=
  ∃ line, LineAt text first h.line line ∧ Heading.ofLine? line = some h.heading

theorem HeadingLine.Stands.numbered {text : String} {first : Nat} {h : HeadingLine} (stands : h.Stands text first) :
    Numbered text first h.line := by
  obtain ⟨line, found, _⟩ := stands
  exact Text.numberedIff.mpr ⟨line, found⟩

abbrev MarkedLine := (String × Option Heading) × Nat

def markIn (fenced : Bool) (line : String) : Option Heading :=
  if isFence line || fenced then none else Heading.ofLine? line

def markLines : (fenced : Bool) → List String → List (String × Option Heading)
  | _, [] => []
  | fenced, line :: more => (line, markIn fenced line) :: markLines (fenced ^^ isFence line) more

def markedLines (text : String) (first : Nat) : List MarkedLine := (markLines false (Text.lines text)).zipIdx first

def headingsOf (marked : List MarkedLine) : List HeadingLine := marked.filterMap fun m => m.1.2.map fun h => ⟨m.2, h⟩

def splitMarked (level : Nat) : List MarkedLine → List String × List (String × Nat × List String)
  | [] => ([], [])
  | ((line, mark), number) :: more =>
    let (before, sections) := splitMarked level more
    match mark.filter fun h => h.level == level with
    | some h => ([], (h.text, number, before) :: sections)
    | none => (line :: before, sections)

theorem headingsOfCons (m : MarkedLine) (more : List MarkedLine) :
    headingsOf (m :: more) = (m.1.2.map fun h => ⟨m.2, h⟩).toList ++ headingsOf more := by
  obtain ⟨⟨line, mark⟩, n⟩ := m
  cases mark <;> rfl

theorem headingNoFence {line : String} {h : Heading} (heading : Heading.ofLine? line = some h) : isFence line = false := by
  rw [Heading.ofLine?, Heading.ofChars?] at heading
  split at heading
  · cases heading
  · rename_i signs
    rw [not_or] at signs
    cases whole : line.toList with
    | nil => simp [whole] at signs
    | cons c rest =>
      by_cases sign : c = '#'
      · rw [isFence, whole, sign, Chars.trimStartSolid (by decide)]
        rfl
      · simp [whole, sign] at signs

theorem markInSplit (fenced : Bool) (line : String) :
    (if (if isFence line then !fenced else fenced) then none else Heading.ofLine? line) = markIn fenced line := by
  rw [markIn]
  cases fence : isFence line with
  | false => rfl
  | true =>
    cases heading : Heading.ofLine? line with
    | none => simp
    | some h =>
      rw [headingNoFence heading] at fence
      cases fence

theorem splitFromMarked (level : Nat) (fenced : Bool) (n : Nat) (ls : List String) :
    splitFrom level fenced n ls = splitMarked level ((markLines fenced ls).zipIdx n) := by
  induction ls generalizing fenced n with
  | nil => rfl
  | cons line more ih =>
    have next : (if isFence line then !fenced else fenced) = (fenced ^^ isFence line) := by
      cases isFence line <;> cases fenced <;> rfl
    rw [splitFrom, markInSplit, ih, next, markLines, List.zipIdx_cons]
    cases marked : (markIn fenced line).filter fun h => h.level == level with
    | none => simp only [splitMarked, marked]
    | some h => simp only [splitMarked, marked]

theorem headingsFromMarked (fenced : Bool) (n : Nat) (ls : List String) :
    headingsFrom fenced n ls = headingsOf ((markLines fenced ls).zipIdx n) := by
  induction ls generalizing fenced n with
  | nil => rfl
  | cons line more ih =>
    rw [headingsFrom, markLines, List.zipIdx_cons, headingsOfCons, markIn, ih, ih]
    cases isFence line <;> cases fenced <;> cases Heading.ofLine? line <;> rfl

theorem headingsEq (text : String) (first : Nat) : headings text first = headingsOf (markedLines text first) :=
  headingsFromMarked false first (Text.lines text)

theorem splitEq (text : String) (level first : Nat) : Sections.split text level first =
    ⟨Text.joinWith "\n" (splitMarked level (markedLines text first)).1, first,
      (splitMarked level (markedLines text first)).2.map fun (heading, line, below) =>
        ⟨heading, line, Text.joinWith "\n" below⟩⟩ := by
  rw [Sections.split, splitFromMarked]
  rfl

theorem fencesCons (line : String) (more : List String) :
    ((line :: more).countP isFence % 2 == 1) = (isFence line ^^ (more.countP isFence % 2 == 1)) := by
  cases fence : isFence line with
  | false => simp [List.countP_cons_of_neg, fence]
  | true =>
    rw [List.countP_cons_of_pos fence, Bool.eq_iff_iff]
    simp only [beq_iff_eq, Bool.true_xor, Bool.not_eq_true', beq_eq_false_iff_ne]
    omega

theorem markLinesAt (fenced : Bool) (ls : List String) (i : Nat) :
    (markLines fenced ls)[i]? = ls[i]?.map fun line =>
      (line, markIn (fenced ^^ ((ls.take i).countP isFence % 2 == 1)) line) := by
  induction ls generalizing fenced i with
  | nil => simp [markLines]
  | cons line more ih =>
    rw [markLines]
    cases i with
    | zero => simp
    | succ i =>
      rw [List.getElem?_cons_succ, ih, List.getElem?_cons_succ, List.take_succ_cons, fencesCons, Bool.xor_assoc]

theorem markedLinesEq (text : String) (first : Nat) : markedLines text first =
    ((Text.lines text).zipIdx first).map fun entry =>
      ((entry.1, markAt (Text.lines text) (entry.2 - first) entry.1), entry.2) := by
  refine List.ext_getElem? fun i => ?_
  rw [markedLines, List.getElem?_zipIdx, List.getElem?_map, List.getElem?_zipIdx, markLinesAt]
  cases (Text.lines text)[i]? <;> simp [markAt, markIn]

theorem markedLineAt {text line : String} {first n : Nat} {mark : Option Heading}
    (member : ((line, mark), n) ∈ markedLines text first) :
    LineAt text first n line ∧ ∀ h ∈ mark, Heading.ofLine? line = some h := by
  rw [markedLinesEq] at member
  obtain ⟨entry, inside, same⟩ := List.mem_map.mp member
  cases same
  refine ⟨inside, fun h marked => ?_⟩
  rw [markAt] at marked
  split at marked
  · cases marked
  · exact marked

theorem markedOrdered (text : String) (first : Nat) : (markedLines text first).Pairwise fun a b => a.2 < b.2 := by
  have numbers : ((markedLines text first).map Prod.snd).Pairwise (· < ·) := by
    rw [markedLines, List.zipIdx_map_snd]
    exact List.pairwise_lt_range'
  exact List.pairwise_map.mp numbers

theorem headingsStand {text : String} {first : Nat} {h : HeadingLine} (member : h ∈ headings text first) :
    h.Stands text first := by
  rw [headingsEq] at member
  obtain ⟨⟨⟨line, mark⟩, n⟩, marked, found⟩ := List.mem_filterMap.mp member
  obtain ⟨heading, rfl, rfl⟩ := Option.map_eq_some_iff.mp found
  have facts := markedLineAt marked
  exact ⟨line, facts.1, facts.2 heading rfl⟩

def MarkedLine.heads (level : Nat) (m : MarkedLine) : Bool := m.1.2.any fun h => h.level == level

def marksAt (level : Nat) (marked : List MarkedLine) : List HeadingLine :=
  (headingsOf marked).filter fun h => h.heading.level == level

def linesBelow (level : Nat) (marked : List MarkedLine) (n : Nat) : List String :=
  ((marked.filter fun m => decide (n < m.2)).takeWhile fun m => !m.heads level).map fun m => m.1.1

section Split

variable {level : Nat} {marked : List MarkedLine}

theorem splitMarkedBefore :
    (splitMarked level marked).1 = (marked.takeWhile fun m => !m.heads level).map fun m => m.1.1 := by
  induction marked with
  | nil => rfl
  | cons m more ih =>
    obtain ⟨⟨line, mark⟩, n⟩ := m
    rw [splitMarked]
    cases mark with
    | none => simp [MarkedLine.heads, ih]
    | some h =>
      by_cases same : h.level = level
      · simp [MarkedLine.heads, Option.filter, same]
      · simp [MarkedLine.heads, Option.filter, same, ih]

theorem linesBelowFirst {m : MarkedLine} (after : ∀ other ∈ marked, m.2 < other.2) :
    linesBelow level (m :: marked) m.2 = (splitMarked level marked).1 := by
  have rest : marked.filter (fun other => decide (m.2 < other.2)) = marked :=
    List.filter_eq_self.mpr fun other inside => by simpa using after other inside
  simp [linesBelow, rest, splitMarkedBefore]

theorem linesBelowLater {m : MarkedLine} {n : Nat} (after : m.2 < n) :
    linesBelow level (m :: marked) n = linesBelow level marked n := by
  have passed : ¬n < m.2 := by omega
  simp [linesBelow, passed]

theorem splitMarkedSections (ordered : marked.Pairwise fun a b => a.2 < b.2) :
    (splitMarked level marked).2 =
      (marksAt level marked).map fun h => (h.heading.text, h.line, linesBelow level marked h.line) := by
  induction marked with
  | nil => rfl
  | cons m more ih =>
    obtain ⟨after, ordered⟩ := List.pairwise_cons.mp ordered
    have rest : (splitMarked level more).2 =
        (marksAt level more).map fun h => (h.heading.text, h.line, linesBelow level (m :: more) h.line) := by
      -- The numbers grow, so the first line is below none of the later headings.
      rw [ih ordered]
      refine List.map_congr_left fun h member => ?_
      obtain ⟨other, inside, made⟩ := List.mem_filterMap.mp (List.mem_filter.mp member).1
      obtain ⟨heading, _, rfl⟩ := Option.map_eq_some_iff.mp made
      rw [linesBelowLater (after other inside)]
    have first : linesBelow level (m :: more) m.2 = (splitMarked level more).1 := linesBelowFirst after
    obtain ⟨⟨line, mark⟩, n⟩ := m
    rw [splitMarked]
    cases mark with
    | none => simpa [marksAt, headingsOfCons] using rest
    | some h =>
      by_cases same : h.level = level
      · simpa [marksAt, headingsOfCons, Option.filter, same, first] using rest
      · simpa [marksAt, headingsOfCons, Option.filter, same] using rest

theorem splitMarkedLines {ms : List (String × Option Heading)} {first : Nat} :
    (∀ entry ∈ (splitMarked level (ms.zipIdx first)).1.zipIdx first, ∃ mark, ((entry.1, mark), entry.2) ∈ ms.zipIdx first) ∧
    ∀ s ∈ (splitMarked level (ms.zipIdx first)).2, ∀ entry ∈ s.2.2.zipIdx (s.2.1 + 1),
      ∃ mark, ((entry.1, mark), entry.2) ∈ ms.zipIdx first := by
  induction ms generalizing first with
  | nil => simp [splitMarked]
  | cons m more ih =>
    obtain ⟨line, mark⟩ := m
    obtain ⟨before, below⟩ := @ih (first + 1)
    have further : ∀ entry : String × Nat, (∃ mark, ((entry.1, mark), entry.2) ∈ more.zipIdx (first + 1)) →
        ∃ mark', ((entry.1, mark'), entry.2) ∈ ((line, mark) :: more).zipIdx first := by
      intro entry found
      obtain ⟨mark', inside⟩ := found
      exact ⟨mark', by rw [List.zipIdx_cons]; exact List.mem_cons_of_mem _ inside⟩
    rw [List.zipIdx_cons, splitMarked]
    cases found : mark.filter fun h => h.level == level with
    | none =>
      refine ⟨fun entry member => ?_, fun s member entry inside => further entry (below s member entry inside)⟩
      rw [List.zipIdx_cons] at member
      rcases List.mem_cons.mp member with same | later
      · exact ⟨mark, by rw [same]; exact List.mem_cons_self⟩
      · exact further entry (before entry later)
    | some h =>
      refine ⟨by simp, fun s member entry inside => ?_⟩
      rcases List.mem_cons.mp member with same | later
      · rw [same] at inside
        exact further entry (before entry inside)
      · exact further entry (below s later entry inside)

theorem splitMarkedApart {ms : List (String × Option Heading)} {first : Nat} :
    (∀ s ∈ (splitMarked level (ms.zipIdx first)).2, first + (splitMarked level (ms.zipIdx first)).1.length ≤ s.2.1) ∧
    (splitMarked level (ms.zipIdx first)).2.Pairwise fun s later => s.2.1 + s.2.2.length < later.2.1 := by
  induction ms generalizing first with
  | nil => simp [splitMarked]
  | cons m more ih =>
    obtain ⟨line, mark⟩ := m
    obtain ⟨behind, apart⟩ := @ih (first + 1)
    rw [List.zipIdx_cons, splitMarked]
    cases mark.filter fun h => h.level == level with
    | none =>
      refine ⟨fun s member => ?_, apart⟩
      have start := behind s member
      rw [List.length_cons]
      omega
    | some h =>
      refine ⟨fun s member => ?_, List.pairwise_cons.mpr ⟨fun later member => ?_, apart⟩⟩
      · rcases List.mem_cons.mp member with rfl | later
        · exact Nat.le_refl first
        · have start := behind s later
          rw [List.length_nil]
          omega
      · have start := behind later member
        dsimp only
        omega

end Split

variable {text : String} {level first : Nat}

theorem marksAtLevel : marksAt level (markedLines text first) = headingsAt level text first := by
  rw [marksAt, headingsOf, markedLinesEq, headingsAt, List.filterMap_map, List.filter_filterMap]
  congr 1
  funext entry
  cases marked : markAt (Text.lines text) (entry.2 - first) entry.1 with
  | none => simp [marked]
  | some h => by_cases same : h.level = level <;> simp [marked, Option.filter, same]

theorem headingsAtListed : headingsAt level text first = (headings text first).filter fun h => h.heading.level == level := by
  rw [← marksAtLevel, headingsEq, marksAt]

theorem headingsAtStand {h : HeadingLine} (member : h ∈ headingsAt level text first) :
    h.Stands text first ∧ h.heading.level = level := by
  rw [headingsAtListed] at member
  obtain ⟨listed, level⟩ := List.mem_filter.mp member
  exact ⟨headingsStand listed, by simpa using level⟩

theorem takeWhileOrdered {marked : List MarkedLine} (ordered : marked.Pairwise fun a b => a.2 < b.2) :
    marked.takeWhile (fun m => !m.heads level) =
      marked.filter fun m => marked.all fun next => !next.heads level || decide (m.2 < next.2) := by
  induction marked with
  | nil => rfl
  | cons m more ih =>
    obtain ⟨after, ordered⟩ := List.pairwise_cons.mp ordered
    cases heads : m.heads level with
    | true =>
      have none : ∀ other ∈ m :: more, ¬(decide (other.2 < m.2) = true) := by
        intro other member
        rcases List.mem_cons.mp member with same | later
        · simp [same]
        · have less := after other later
          simp
          omega
      simp only [List.takeWhile_cons, heads, Bool.not_true]
      refine (List.filter_eq_nil_iff.mpr fun other member => ?_).symm
      simp [heads, none other member]
    | false =>
      have first : more.all (fun next => !next.heads level || decide (m.2 < next.2)) = true := by
        rw [List.all_eq_true]
        intro next member
        simp [after next member]
      simp [heads, first, ih ordered]

theorem marksAtLines (marked : List MarkedLine) :
    (marksAt level marked).map HeadingLine.line = (marked.filter (MarkedLine.heads level)).map Prod.snd := by
  induction marked with
  | nil => rfl
  | cons m more ih =>
    obtain ⟨⟨line, mark⟩, n⟩ := m
    cases mark with
    | none => simpa [marksAt, headingsOfCons, MarkedLine.heads] using ih
    | some h => by_cases same : h.level = level <;> simpa [marksAt, headingsOfCons, MarkedLine.heads, same] using ih

theorem linesBelowEq (h : HeadingLine) :
    Text.joinWith "\n" (linesBelow level (markedLines text first) h.line) = contentBelow level text first h := by
  have ahead : ∀ n, ((markedLines text first).filter fun m => decide (h.line < m.2)).all
        (fun next => !MarkedLine.heads level next || decide (n < next.2)) =
      (headingsAt level text first).all fun next => decide (next.line ≤ h.line) || decide (n < next.line) := by
    intro n
    have numbers := congrArg (List.all · fun k => decide (k ≤ h.line) || decide (n < k))
      (@marksAtLines level (markedLines text first))
    simp only [List.all_map, marksAtLevel] at numbers
    rw [List.all_filter]
    refine Eq.trans ?_ numbers.symm
    rw [Function.comp_def, List.all_filter]
    congr 1
    funext m
    have upTo : decide (m.2 ≤ h.line) = !decide (h.line < m.2) := by
      rw [← decide_not, decide_eq_decide, Nat.not_lt]
    rw [upTo]
    cases MarkedLine.heads level m <;> simp
  have later := (markedOrdered text first).filter fun m => decide (h.line < m.2)
  rw [contentBelow, linesBelow, takeWhileOrdered later, List.filter_filter]
  simp only [ahead]
  rw [markedLinesEq, List.filter_map, List.map_map]
  congr 2
  refine List.filter_congr fun entry _ => ?_
  simp [Bool.and_comm]

theorem splitSections : (Sections.split text level first).sections =
    (headingsAt level text first).map (sectionOf level text first) := by
  simp only [splitEq, splitMarkedSections (markedOrdered text first), List.map_map, marksAtLevel]
  refine List.map_congr_left fun h _ => ?_
  simp only [sectionOf, ← linesBelowEq]
  rfl

theorem marksPlain {ls : List String} {start : Nat}
    (each : ∀ entry ∈ ls.zipIdx start, ∃ mark, ((entry.1, mark), entry.2) ∈ markedLines text first) :
    ∀ l ∈ ls, '\n' ∉ l.toList := by
  intro l member
  obtain ⟨i, bound, same⟩ := List.mem_iff_getElem.mp member
  have numbered : (l, start + i) ∈ ls.zipIdx start := by
    rw [List.mk_add_mem_zipIdx_iff_getElem?, List.getElem?_eq_getElem bound, same]
  obtain ⟨mark, marked⟩ := each _ numbered
  exact Text.linesPlain (List.fst_mem_of_mem_zipIdx (markedLineAt marked).1)

theorem joinedShows {ls : List String} {start : Nat}
    (each : ∀ entry ∈ ls.zipIdx start, ∃ mark, ((entry.1, mark), entry.2) ∈ markedLines text first) :
    Text.Shows text first (Text.joinWith "\n" ls) start := by
  intro n line found
  obtain ⟨written, inside, trails⟩ := Text.lineAtJoined (marksPlain each) found
  obtain ⟨mark, marked⟩ := each _ inside
  exact ⟨written, (markedLineAt marked).1, trails⟩

theorem preambleShows :
    Text.Shows text first (Sections.split text level first).preamble (Sections.split text level first).preambleLine := by
  rw [splitEq]
  exact joinedShows splitMarkedLines.1

theorem sectionShows {s : Section} (member : s ∈ (Sections.split text level first).sections) :
    Text.Shows text first s.content s.contentLine := by
  rw [splitEq] at member
  obtain ⟨made, inside, rfl⟩ := List.mem_map.mp member
  exact joinedShows (splitMarkedLines.2 made inside)

def Section.Spans (sections : List Section) (s : Section) (n : Nat) : Prop :=
  s.line ≤ n ∧ ∀ other ∈ sections, s.line < other.line → n < other.line

theorem marksApart {made made' : String × Nat × List String} (here : made ∈ (splitMarked level (markedLines text first)).2)
    (there : made' ∈ (splitMarked level (markedLines text first)).2) (less : made.2.1 < made'.2.1) :
    made.2.1 + made.2.2.length < made'.2.1 := by
  have apart : (splitMarked level (markedLines text first)).2.Pairwise fun s later => s.2.1 + s.2.2.length < later.2.1 :=
    splitMarkedApart.2
  obtain ⟨before, after, split⟩ := List.append_of_mem here
  rw [split, List.pairwise_append, List.pairwise_cons] at apart
  rw [split] at there
  rcases List.mem_append.mp there with earlier | later
  · have ahead := apart.2.2 made' earlier made List.mem_cons_self
    omega
  · rcases List.mem_cons.mp later with rfl | later
    · omega
    · exact apart.2.1.1 made' later

theorem contentSpanned {s : Section} {n : Nat} (member : s ∈ (Sections.split text level first).sections)
    (inside : Numbered s.content s.contentLine n) : s.Spans (Sections.split text level first).sections n := by
  rw [splitEq] at member ⊢
  obtain ⟨made, among, rfl⟩ := List.mem_map.mp member
  obtain ⟨line, found⟩ := Text.numberedIff.mp inside
  obtain ⟨written, here, _⟩ := Text.lineAtJoined (marksPlain (splitMarkedLines.2 made among)) found
  have above : made.2.1 + 1 ≤ n := List.le_snd_of_mem_zipIdx here
  have below : n < made.2.1 + 1 + made.2.2.length := List.snd_lt_add_of_mem_zipIdx here
  refine ⟨Nat.le_of_succ_le above, fun other there less => ?_⟩
  obtain ⟨made', among', rfl⟩ := List.mem_map.mp there
  have apart := marksApart among among' less
  show n < made'.2.1
  omega

theorem sectionLines : (Sections.split text level first).sections.map Section.line =
    (headingsAt level text first).map HeadingLine.line := by
  rw [splitSections, List.map_map]
  rfl

theorem preambleAbove {n : Nat} {h : HeadingLine} (inside : Numbered (Sections.split text level first).preamble
    (Sections.split text level first).preambleLine n) (member : h ∈ headingsAt level text first) : n < h.line := by
  have line : h.line ∈ (Sections.split text level first).sections.map Section.line :=
    sectionLines ▸ List.mem_map_of_mem member
  rw [splitEq] at inside line
  obtain ⟨_, found⟩ := Text.numberedIff.mp inside
  obtain ⟨written, here, _⟩ := Text.lineAtJoined (marksPlain splitMarkedLines.1) found
  have most := List.snd_lt_add_of_mem_zipIdx here
  obtain ⟨s, among, same⟩ := List.mem_map.mp line
  obtain ⟨made, there, rfl⟩ := List.mem_map.mp among
  have start : first + (splitMarked level (markedLines text first)).1.length ≤ made.2.1 := splitMarkedApart.1 made there
  rw [← same]
  exact Nat.lt_of_lt_of_le most start

theorem sectionsOrdered : ((Sections.split text level first).sections.map Section.line).Pairwise (· < ·) := by
  rw [sectionLines, ← marksAtLevel, marksAtLines, List.pairwise_map]
  exact (markedOrdered text first).filter _

theorem spannedOnce {sections : List Section} (ordered : (sections.map Section.line).Pairwise (· < ·)) {s other : Section}
    (here : s ∈ sections) (there : other ∈ sections) {n : Nat} (spans : s.Spans sections n)
    (spans' : other.Spans sections n) : s = other := by
  have same : s.line = other.line := by
    have left := spans.2 other there
    have right := spans'.2 s here
    have start := spans.1
    have start' := spans'.1
    omega
  exact List.inj_on_of_nodup_map (ordered.imp Nat.ne_of_lt) here there same

end Syllabus
