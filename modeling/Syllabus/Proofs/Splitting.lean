import Syllabus.Proofs.Heading
import Syllabus.Proofs.Related
import Syllabus.Proofs.Sections

/-! Splitting a text keeps it. The lines before the first section, the headings and the lines below them are the lines of
the text, one after the other, and the headings of any level that stand in a section are found again when its content
is split, as no fence is open where a section starts. Joining the lines of a section costs each of them but the last a
carriage return, and so a heading whose text is a carriage return alone. -/
namespace Syllabus
open Text (LineAt Numbered Trails Worn rejoined unreturned)

def fencedAt (ls : List String) (i : Nat) : Bool := (ls.take i).countP isFence % 2 == 1

theorem markAtSome {ls : List String} {i : Nat} {line : String} {h : Heading} (marked : markAt ls i line = some h) :
    isFence line = false ∧ fencedAt ls i = false := by
  rw [markAt] at marked
  split at marked
  · cases marked
  · rename_i outside
    rw [Bool.or_eq_true, not_or, Bool.not_eq_true, Bool.not_eq_true] at outside
    exact outside

theorem fenceTrails {whole line : String} (trails : Trails whole line) : isFence whole = isFence line := by
  have parts : ∀ l : String, isFence l =
      (Text.startsWith "\x60\x60\x60" (Text.trimStart l) || Text.startsWith "~~~" (Text.trimStart l)) := by
    intro l
    simp [isFence, Text.startsWith, Text.trimStart]
  rw [parts, parts, trails.trimStart.starts (by decide), trails.trimStart.starts (by decide)]

theorem rejoinedFences (ls : List String) (i : Nat) :
    ((rejoined ls).take i).countP isFence = (ls.take i).countP isFence := by
  induction ls using Text.rejoined.induct generalizing i with
  | case1 => rfl
  | case2 =>
    have plain : [""].countP isFence = 0 := by decide
    have within := (List.take_sublist i [""]).countP_le (p := isFence)
    rw [rejoined, if_pos rfl, List.take_nil, List.countP_nil]
    omega
  | case3 a filled => rw [rejoined, if_neg filled]
  | case4 a b more ih =>
    cases i with
    | zero => rfl
    | succ i =>
      rw [rejoined, List.take_succ_cons, List.take_succ_cons, List.countP_cons, List.countP_cons, ih,
        ← fenceTrails (Text.unreturnedTrails a)]

theorem markLinesFst (fenced : Bool) (ls : List String) : (markLines fenced ls).map Prod.fst = ls := by
  induction ls generalizing fenced with
  | nil => rfl
  | cons line more ih =>
    rw [markLines, List.map_cons, ih]

theorem markLinesLength (fenced : Bool) (ls : List String) : (markLines fenced ls).length = ls.length := by
  conv_rhs => rw [← markLinesFst fenced ls, List.length_map]

theorem markLinesAppend (fenced : Bool) (above below : List String) : markLines fenced (above ++ below) =
    markLines fenced above ++ markLines (fenced ^^ (above.countP isFence % 2 == 1)) below := by
  induction above generalizing fenced with
  | nil => simp [markLines]
  | cons line more ih =>
    rw [List.cons_append, markLines, markLines, ih, fencesCons, Bool.xor_assoc, List.cons_append]

theorem markInUnreturned (fenced : Bool) (line : String) :
    markIn fenced (unreturned line) = markIn fenced line ∨ ∃ h, markIn fenced line = some h ∧ h.text = "\r" := by
  rw [markIn, markIn, ← fenceTrails (Text.unreturnedTrails line)]
  split
  · exact .inl rfl
  · exact Heading.ofLineUnreturned line

theorem headingsOfFilter (p : Nat → Bool) (marked : List MarkedLine) :
    (headingsOf marked).filter (fun h => p h.line) = headingsOf (marked.filter fun m => p m.2) := by
  induction marked with
  | nil => rfl
  | cons m more ih =>
    obtain ⟨⟨line, mark⟩, n⟩ := m
    rw [headingsOfCons, List.filter_append, ih]
    cases kept : p n <;> cases mark <;> simp [kept, headingsOfCons]

theorem rejoinedHeadings {lost : Nat → Bool} {fenced : Bool} {ls : List String} {n : Nat}
    (loses : ∀ m ∈ (markLines fenced ls).zipIdx n, ∀ h ∈ m.1.2, h.text = "\r" →
      m.2 + 1 < n + ls.length → lost m.2 = true) :
    (headingsOf ((markLines fenced (rejoined ls)).zipIdx n)).filter (fun h => !lost h.line) =
      (headingsOf ((markLines fenced ls).zipIdx n)).filter fun h => !lost h.line := by
  induction ls using Text.rejoined.induct generalizing fenced n with
  | case1 => rfl
  | case2 => cases fenced <;> rfl
  | case3 a filled => rw [rejoined, if_neg filled]
  | case4 a b more ih =>
    rw [markLines, List.zipIdx_cons] at loses
    have rest := @ih (fenced ^^ isFence a) (n + 1) fun m member h marked alone before =>
      loses m (List.mem_cons_of_mem _ member) h marked alone (by simp only [List.length_cons] at before ⊢; omega)
    -- Without its carriage return the first line has the heading it had, or that was its heading.
    have head : ((markIn fenced (unreturned a)).map fun h => HeadingLine.mk n h).toList.filter (fun h => !lost h.line) =
        ((markIn fenced a).map fun h => HeadingLine.mk n h).toList.filter fun h => !lost h.line := by
      cases markInUnreturned fenced a with
      | inl same => rw [same]
      | inr alone =>
        obtain ⟨h, marked, alone⟩ := alone
        have gone := loses _ List.mem_cons_self h marked alone (by simp)
        have none : ∀ mark : Option Heading,
            (mark.map fun h => HeadingLine.mk n h).toList.filter (fun h => !lost h.line) = [] := by
          intro mark
          cases mark with
          | none => rfl
          | some h => simpa using gone
        rw [none, none]
    rw [rejoined, markLines, markLines, ← fenceTrails (Text.unreturnedTrails a), List.zipIdx_cons,
      List.zipIdx_cons, headingsOfCons, headingsOfCons, List.filter_append, List.filter_append, rest, head]

theorem filterNumbered {α : Type} (p : Nat → Bool) (keep : Bool) {items : List α} {first : Nat}
    (each : ∀ n, first ≤ n → n < first + items.length → p n = keep) :
    (items.zipIdx first).filter (fun m => p m.2) = if keep then items.zipIdx first else [] := by
  have every : ∀ m ∈ items.zipIdx first, p m.2 = keep := fun m member =>
    each m.2 (List.le_snd_of_mem_zipIdx member) (List.snd_lt_add_of_mem_zipIdx member)
  cases keep with
  | true => exact List.filter_eq_self.mpr every
  | false => exact List.filter_eq_nil_iff.mpr fun m member => by simp [every m member]

theorem numberedCut {α : Type} {items run : List α} {a : α} {first n : Nat} {before after : List (α × Nat)}
    (cut : items.zipIdx first = before ++ ((a, n) :: run.zipIdx (n + 1) ++ after)) :
    ∃ above below, items = above ++ a :: (run ++ below) ∧ n = first + above.length ∧
      after = below.zipIdx (n + 1 + run.length) := by
  obtain ⟨above, onward, rfl, _, rest⟩ := List.zipIdx_eq_append_iff.mp cut
  obtain ⟨_, onward, rfl, head, behind⟩ := List.zipIdx_eq_cons_iff.mp rest.symm
  obtain ⟨rfl, rfl⟩ := Prod.mk.inj head
  obtain ⟨run', below, rfl, same, last⟩ := List.zipIdx_eq_append_iff.mp behind.symm
  obtain rfl : run = run' := by simpa using congrArg (List.map Prod.fst) same
  exact ⟨above, below, rfl, rfl, last⟩

variable {text : String} {level first : Nat}

theorem splitMarkedPieces (level : Nat) (ms : List (String × Option Heading)) (first : Nat) :
    ∃ pieces : List (List (String × Nat)),
      (ms.map Prod.fst).zipIdx first = (splitMarked level (ms.zipIdx first)).1.zipIdx first ++ pieces.flatten ∧
      List.Forall₂ (fun s piece => ∃ headline, piece = (headline, s.2.1) :: s.2.2.zipIdx (s.2.1 + 1))
        (splitMarked level (ms.zipIdx first)).2 pieces := by
  induction ms generalizing first with
  | nil => exact ⟨[], rfl, .nil⟩
  | cons m more ih =>
    obtain ⟨line, mark⟩ := m
    obtain ⟨pieces, lines, related⟩ := ih (first + 1)
    rw [List.map_cons, List.zipIdx_cons, List.zipIdx_cons, lines, splitMarked]
    cases mark.filter fun h => h.level == level with
    | none => exact ⟨pieces, by simp, related⟩
    | some h => exact ⟨_ :: pieces, by simp, .cons ⟨line, rfl⟩ related⟩

structure Section.Cut (s : Section) (headline : String) (run : List String) (piece : List (String × Nat)) : Prop where
  numbered : piece = (headline, s.line) :: run.zipIdx s.contentLine
  content : Text.lines s.content = rejoined run

theorem splitPieces (text : String) (level first : Nat) :
    ∃ before pieces, (Text.lines text).zipIdx first = before.zipIdx first ++ pieces.flatten ∧
      Text.lines (Sections.split text level first).preamble = rejoined before ∧
      List.Forall₂ (fun s piece => ∃ headline run, Section.Cut s headline run piece)
        (Sections.split text level first).sections pieces := by
  obtain ⟨pieces, lines, related⟩ := splitMarkedPieces level (markLines false (Text.lines text)) first
  have plain : ∀ s ∈ (splitMarked level (markedLines text first)).2, ∀ l ∈ s.2.2, '\n' ∉ l.toList :=
    fun s member => marksPlain (splitMarkedLines.2 s member)
  rw [markLinesFst] at lines
  rw [splitEq]
  refine ⟨_, pieces, lines, Text.linesRejoined (marksPlain splitMarkedLines.1), ?_⟩
  rw [List.forall₂_map_left_iff]
  refine ((List.forall₂_and_left _ _).mpr ⟨plain, related⟩).imp fun s piece both => ?_
  obtain ⟨plain, headline, rfl⟩ := both
  exact ⟨headline, s.2.2, rfl, Text.linesRejoined plain⟩

namespace Sections

def covers (sections : List Section) (s : Section) (n : Nat) : Bool :=
  s.line < n && sections.all fun next => next.line ≤ s.line || n < next.line

structure Lies (text : String) (first : Nat) (sections : List Section) (s : Section) (above : List String)
    (headline : String) (run below : List String) : Prop where
  lines : Text.lines text = above ++ headline :: (run ++ below)
  line : s.line = first + above.length
  content : Text.lines s.content = rejoined run
  plain : isFence headline = false
  closed : (above.countP isFence % 2 == 1) = false
  covers : ∀ n, Numbered text first n → (covers sections s n = true ↔ s.line < n ∧ n ≤ s.line + run.length)

theorem coversIff {earlier later : List Section} {s : Section} {lower : List (List (String × Nat))}
    {run below : List String} {n : Nat} (ordered : ((earlier ++ s :: later).map Section.line).Pairwise (· < ·))
    (rest : List.Forall₂ (fun s piece => ∃ headline run, Section.Cut s headline run piece) later lower)
    (numbered : lower.flatten = below.zipIdx (s.line + 1 + run.length))
    (inside : n < s.line + 1 + run.length + below.length) :
    covers (earlier ++ s :: later) s n = true ↔ s.line < n ∧ n ≤ s.line + run.length := by
  simp only [covers, Bool.and_eq_true, decide_eq_true_eq, List.all_eq_true, Bool.or_eq_true]
  refine and_congr_right fun after => ⟨fun next => ?_, fun within other member => ?_⟩
  · by_contra beyond
    -- A line is left below the run. It is the heading of the next section, which the number is not above.
    obtain ⟨line, more, rfl⟩ := List.exists_cons_of_length_pos (l := below) (by omega)
    cases rest with
    | nil => cases numbered
    | @cons t piece _ _ here others =>
      obtain ⟨headline, run', cut⟩ := here
      rw [List.flatten_cons, cut.numbered, List.cons_append, List.zipIdx_cons] at numbered
      obtain ⟨_, start⟩ := Prod.mk.inj (List.cons.inj numbered).1
      have apart := next t (List.mem_append_right _ (List.mem_cons_of_mem _ List.mem_cons_self))
      omega
  · rw [List.map_append, List.map_cons, List.pairwise_append] at ordered
    cases List.mem_append.mp member with
    | inl before =>
      have less := ordered.2.2 other.line (List.mem_map_of_mem before) s.line List.mem_cons_self
      exact .inl (by omega)
    | inr onward =>
      cases List.mem_cons.mp onward with
      | inl same => exact .inl (by rw [same])
      | inr behind =>
        obtain ⟨piece, among, headline, run', cut⟩ := memRelated rest.flip behind
        have start : (headline, other.line) ∈ lower.flatten :=
          List.mem_flatten.mpr ⟨piece, among, by rw [cut.numbered]; exact List.mem_cons_self⟩
        rw [numbered] at start
        have least := List.le_snd_of_mem_zipIdx start
        dsimp only at least
        exact .inr (by omega)

theorem sectionMarked {s : Section} (member : s ∈ (split text level first).sections) :
    ∃ line h, LineAt text first s.line line ∧ markAt (Text.lines text) (s.line - first) line = some h := by
  rw [splitSections] at member
  obtain ⟨heading, listed, rfl⟩ := List.mem_map.mp member
  obtain ⟨⟨line, n⟩, inside, found⟩ := List.mem_filterMap.mp listed
  obtain ⟨h, marked, rfl⟩ := Option.map_eq_some_iff.mp found
  exact ⟨line, h, inside, (Option.filter_eq_some_iff.mp marked).1⟩

theorem sectionLies {s : Section} (member : s ∈ (split text level first).sections) :
    ∃ above headline run below, Lies text first (split text level first).sections s above headline run below := by
  obtain ⟨before, pieces, lines, _, related⟩ := splitPieces text level first
  obtain ⟨earlier, later, sections⟩ := List.append_of_mem member
  have ordered := @sectionsOrdered text level first
  have marked := sectionMarked member
  rw [sections] at related ordered
  obtain ⟨upper, piece, lower, rfl, cut, rest⟩ := relatedApart related
  obtain ⟨headline, run, rfl, content⟩ := cut
  rw [List.flatten_append, List.flatten_cons, ← List.append_assoc] at lines
  obtain ⟨above, below, whole, line, numbered⟩ := numberedCut lines
  -- The line is marked as a heading, which no line in a fence is.
  have outside : isFence headline = false ∧ fencedAt (Text.lines text) above.length = false := by
    obtain ⟨written, h, found, marked⟩ := marked
    have index : s.line - first = above.length := by omega
    rw [Text.lineAtIff, index, whole, List.getElem?_append_right (Nat.le_refl _), Nat.sub_self] at found
    obtain rfl : headline = written := by simpa using found.2
    rw [index] at marked
    exact markAtSome marked
  refine ⟨above, headline, run, below, whole, line, content, outside.1, ?_, ?_⟩
  · have closed := outside.2
    rw [fencedAt, whole, List.take_left] at closed
    exact closed
  · intro n stands
    have inside := stands.2
    rw [whole] at inside
    simp only [List.length_append, List.length_cons] at inside
    rw [sections]
    exact coversIff ordered rest numbered (by omega)

/-- The heading on a line is a carriage return alone, and another line of the section follows. -/
def loses (text : String) (first : Nat) (sections : List Section) (s : Section) (n : Nat) : Bool :=
  (headings text first).any (fun h => h.line == n && h.heading.text == "\r") &&
    (decide (n + 1 < first + (Text.lines text).length) && covers sections s (n + 1))

theorem coveredHeadings {sections : List Section} {s : Section} {above run below : List String} {headline : String}
    (lies : Lies text first sections s above headline run below) :
    (headings text first).filter (fun h => covers sections s h.line) =
      headingsOf ((markLines false run).zipIdx s.contentLine) := by
  have size := congrArg List.length lies.lines
  simp only [List.length_append, List.length_cons] at size
  have line := lies.line
  have marked : markedLines text first = (markLines false above).zipIdx first ++
      ((headline, markIn false headline), s.line) :: ((markLines false run).zipIdx (s.line + 1) ++
        (markLines (false ^^ (run.countP isFence % 2 == 1)) below).zipIdx (s.line + 1 + run.length)) := by
    rw [markedLines, lies.lines, markLinesAppend, lies.closed, Bool.xor_false, markLines, lies.plain,
      Bool.xor_false, markLinesAppend, List.zipIdx_append, List.zipIdx_cons, List.zipIdx_append, markLinesLength,
      markLinesLength, ← line]
  have within : ∀ n, first ≤ n → n < first + (Text.lines text).length →
      covers sections s n = decide (s.line < n ∧ n ≤ s.line + run.length) := fun n least most =>
    Bool.eq_iff_iff.mpr ((lies.covers n ⟨least, most⟩).trans (by simp))
  have top : covers sections s s.line = false := by
    rw [within s.line (by omega) (by omega), decide_eq_false_iff_not]
    omega
  have upper : ∀ n, first ≤ n → n < first + (markLines false above).length → covers sections s n = false := by
    intro n least most
    rw [markLinesLength] at most
    rw [within n (by omega) (by omega), decide_eq_false_iff_not]
    omega
  have inner : ∀ n, s.line + 1 ≤ n → n < s.line + 1 + (markLines false run).length → covers sections s n = true := by
    intro n least most
    rw [markLinesLength] at most
    rw [within n (by omega) (by omega), decide_eq_true_eq]
    omega
  have lower : ∀ fenced n, s.line + 1 + run.length ≤ n →
      n < s.line + 1 + run.length + (markLines fenced below).length → covers sections s n = false := by
    intro fenced n least most
    rw [markLinesLength] at most
    rw [within n (by omega) (by omega), decide_eq_false_iff_not]
    omega
  rw [Section.contentLine, headingsEq, headingsOfFilter, marked, List.filter_append,
    filterNumbered (covers sections s) false upper, List.filter_cons, top, List.filter_append, filterNumbered (covers sections s) true inner,
    filterNumbered (covers sections s) false (lower _)]
  simp

theorem nestedFences {sections : List Section} {s : Section} {above run below : List String} {headline : String}
    (lies : Lies text first sections s above headline run below) {n : Nat} (stands : Numbered s.content s.contentLine n) :
    fencedAt (Text.lines s.content) (n - s.contentLine) = fencedAt (Text.lines text) (n - first) := by
  have least : s.line + 1 ≤ n := stands.1
  have most : n < s.line + 1 + (rejoined run).length := lies.content ▸ stands.2
  have line := lies.line
  obtain ⟨i, rfl⟩ := Nat.exists_eq_add_of_le least
  have inner : s.line + 1 + i - s.contentLine = i := by rw [Section.contentLine]; omega
  have outer : s.line + 1 + i - first = above.length + (i + 1) := by omega
  have within : i ≤ run.length := by
    have shorter := (Text.rejoinedWorn run).lengthLe
    omega
  have closed := lies.closed
  rw [beq_eq_false_iff_ne] at closed
  rw [inner, outer, fencedAt, fencedAt, lies.content, rejoinedFences, lies.lines, List.take_length_add_append,
    List.take_succ_cons, List.take_append_of_le_length within, List.countP_append,
    List.countP_cons_of_neg (by simp [lies.plain]), Bool.eq_iff_iff, beq_iff_eq, beq_iff_eq]
  omega

theorem nestedHeadings {sections : List Section} {s : Section} {above run below : List String} {headline : String}
    (lies : Lies text first sections s above headline run below) :
    (headings s.content s.contentLine).filter (fun h => !loses text first sections s h.line) =
      (headings text first).filter fun h => covers sections s h.line && !loses text first sections s h.line := by
  have covered := coveredHeadings lies
  have line := lies.line
  have size := congrArg List.length lies.lines
  simp only [List.length_append, List.length_cons] at size
  have given : ∀ m ∈ (markLines false run).zipIdx s.contentLine, ∀ h ∈ m.1.2, h.text = "\r" →
      m.2 + 1 < s.contentLine + run.length → loses text first sections s m.2 = true := by
    intro m member h marked alone most
    have among : HeadingLine.mk m.2 h ∈ (headings text first).filter fun h => covers sections s h.line := by
      rw [covered]
      exact List.mem_filterMap.mpr ⟨m, member, Option.map_eq_some_iff.mpr ⟨h, marked, rfl⟩⟩
    have after := List.le_snd_of_mem_zipIdx member
    rw [Section.contentLine] at most after
    have next := (lies.covers (m.2 + 1) ⟨by omega, by omega⟩).mpr ⟨by omega, by omega⟩
    have inside : m.2 + 1 < first + (Text.lines text).length := by omega
    simp only [loses, Bool.and_eq_true, List.any_eq_true, beq_iff_eq, decide_eq_true_eq]
    exact ⟨⟨_, (List.mem_filter.mp among).1, rfl, alone⟩, inside, next⟩
  rw [headingsEq s.content, markedLines, lies.content, rejoinedHeadings given, ← covered, List.filter_filter]
  exact List.filter_congr fun h _ => Bool.and_comm _ _

structure Lossless (text : String) (level first : Nat) (split : Sections) : Prop where
  headed : split.sections.map (fun s => (s.line, s.heading)) =
    ((headings text first).filter fun h => h.heading.level == level).map fun h => (h.line, h.heading.text)
  numbered : split.preambleLine = first ∧ ∀ s ∈ split.sections, s.contentLine = s.line + 1
  lines : ∃ before pieces, (Text.lines text).zipIdx first = before.zipIdx split.preambleLine ++ pieces.flatten ∧
    Worn before (Text.lines split.preamble) ∧
    List.Forall₂ (fun s piece => ∃ headline run, piece = (headline, s.line) :: run.zipIdx s.contentLine ∧
      Worn run (Text.lines s.content)) split.sections pieces
  fences : ∀ s ∈ split.sections, ∀ n, Numbered s.content s.contentLine n →
    fencedAt (Text.lines s.content) (n - s.contentLine) = fencedAt (Text.lines text) (n - first)
  nested : ∀ s ∈ split.sections, ∀ k,
    ((Sections.split s.content k s.contentLine).sections.filter fun t => !loses text first split.sections s t.line).map
        (fun t => (t.line, t.heading)) =
      ((headings text first).filter fun h => h.heading.level == k && covers split.sections s h.line &&
        !loses text first split.sections s h.line).map fun h => (h.line, h.heading.text)

theorem splitLossless (text : String) (level first : Nat) : Lossless text level first (split text level first) := by
  refine ⟨?_, ⟨rfl, fun _ _ => rfl⟩, ?_, ?_, ?_⟩
  · rw [splitSections, headingsAtListed, List.map_map]
    rfl
  · obtain ⟨before, pieces, lines, preamble, related⟩ := splitPieces text level first
    refine ⟨before, pieces, lines, preamble ▸ Text.rejoinedWorn before, related.imp fun s piece cut => ?_⟩
    obtain ⟨headline, run, cut⟩ := cut
    exact ⟨headline, run, cut.numbered, cut.content ▸ Text.rejoinedWorn run⟩
  · intro s member n stands
    obtain ⟨above, headline, run, below, lies⟩ := sectionLies member
    exact nestedFences lies stands
  · intro s member k
    obtain ⟨above, headline, run, below, lies⟩ := sectionLies member
    have marks := nestedHeadings lies
    generalize (split text level first).sections = sections at marks ⊢
    calc
      _ = (((headings s.content s.contentLine).filter fun h => h.heading.level == k).filter fun h =>
            !loses text first sections s h.line).map fun h => (h.line, h.heading.text) := by
        rw [splitSections, List.filter_map, List.map_map, headingsAtListed]
        rfl
      _ = (((headings s.content s.contentLine).filter fun h => !loses text first sections s h.line).filter fun h =>
            h.heading.level == k).map fun h => (h.line, h.heading.text) := by
        rw [List.filter_filter, List.filter_filter]
        simp only [Bool.and_comm]
      _ = _ := by
        rw [marks, List.filter_filter]
        simp only [Bool.and_assoc]

def loneReturnText : String := "## A\n# \r\r\nx"

theorem loneReturnLost :
    ∃ s ∈ (split loneReturnText 2 1).sections,
      (split s.content 1 s.contentLine).sections.map (fun t => (t.line, t.heading)) ≠
        ((headings loneReturnText 1).filter fun h =>
          h.heading.level == 1 && covers (split loneReturnText 2 1).sections s h.line).map fun h =>
            (h.line, h.heading.text) :=
  ⟨⟨"A", 1, "# \r\nx"⟩, by decide +kernel, by decide +kernel⟩

end Sections

end Syllabus
