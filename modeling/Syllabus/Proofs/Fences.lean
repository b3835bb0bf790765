import Mathlib.Data.List.TakeWhile
import Syllabus.Proofs.Splitting
import Syllabus.Proofs.Text

/-! Headings and blocks of code. A block has a fence of a sign and a length, and only a line that shows as much of the
sign, with nothing behind it, closes it. The marks of a text count the lines that look like fences instead. The two agree
up to the lines that look like a fence and neither open nor close a block: with an odd number of these above it, a
heading inside a block is listed and one outside of all blocks is left out. -/
namespace Syllabus
open Text (LineAt)

structure CodeFence where
  sign : Char
  length : Nat
  signed : sign = '\x60' ∨ sign = '~'
  long : 3 ≤ length
  deriving DecidableEq, Repr

namespace CodeFence

def run (sign : Char) (s : List Char) : Nat := (s.takeWhile (· == sign)).length

def behind (sign : Char) (s : List Char) : List Char := s.dropWhile (· == sign)

def indented? (line : String) : Option (List Char) :=
  if run ' ' line.toList ≤ 3 then some (behind ' ' line.toList) else none

/-- The fence on a line where no block is open. Behind grave accents there is none of them on the line. -/
def opened? (line : String) : Option CodeFence :=
  (indented? line).bind fun s =>
    if long : 3 ≤ run '\x60' s then
      if (behind '\x60' s).contains '\x60' then none else some ⟨'\x60', run '\x60' s, .inl rfl, long⟩
    else if long : 3 ≤ run '~' s then some ⟨'~', run '~' s, .inr rfl, long⟩
    else none

def closedBy (f : CodeFence) (line : String) : Bool :=
  (indented? line).any fun s => f.length ≤ run f.sign s && Chars.blank (behind f.sign s)

def after (block : Option CodeFence) (line : String) : Option CodeFence :=
  match block with
  | none => opened? line
  | some f => if f.closedBy line then none else some f

def openAt (ls : List String) (i : Nat) : Option CodeFence := (ls.take i).foldl after none

def stray (block : Option CodeFence) (line : String) : Bool := isFence line && (after block line).isSome == block.isSome

def strays : Option CodeFence → List String → Nat
  | _, [] => 0
  | block, line :: more => (if stray block line then 1 else 0) + strays (after block line) more

theorem leRunIff {n : Nat} {c : Char} {s : List Char} : n ≤ run c s ↔ List.replicate n c <+: s := by
  induction n generalizing s with
  | zero => simp
  | succ n ih =>
    cases s with
    | nil => simp [run, List.replicate_succ]
    | cons d more =>
      rw [List.replicate_succ, List.cons_prefix_cons, ← ih]
      by_cases same : d = c
      · simp [run, same]
      · simp [run, same, Ne.symm same]

theorem isFenceIff {line : String} : isFence line = true ↔
    3 ≤ run '\x60' (Chars.trimStart line.toList) ∨ 3 ≤ run '~' (Chars.trimStart line.toList) := by
  rw [isFence, Bool.or_eq_true, List.isPrefixOf_iff_prefix, List.isPrefixOf_iff_prefix, leRunIff, leRunIff]
  rfl

theorem trimStartSpaces (s : List Char) : Chars.trimStart (behind ' ' s) = Chars.trimStart s := by
  induction s with
  | nil => rfl
  | cons c rest ih =>
    by_cases space : c = ' '
    · subst space
      exact ih
    · rw [behind, List.dropWhile_cons_of_neg (by simpa using space)]

theorem indentedFence {line : String} {s : List Char} {c : Char} (indented : indented? line = some s)
    (sign : c = '\x60' ∨ c = '~') (long : 3 ≤ run c s) : isFence line = true := by
  have solid : Text.isBlank c = false := by rcases sign with rfl | rfl <;> decide
  have start : Chars.trimStart line.toList = s := by
    rw [indented?] at indented
    split at indented
    · cases indented
      obtain ⟨rest, whole⟩ := leRunIff.mp long
      rw [← trimStartSpaces, ← whole]
      exact Chars.trimStartSolid solid _
    · cases indented
  rw [isFenceIff, start]
  rcases sign with rfl | rfl
  · exact .inl long
  · exact .inr long

theorem openedFence {line : String} {f : CodeFence} (opens : opened? line = some f) : isFence line = true := by
  obtain ⟨s, indented, found⟩ := Option.bind_eq_some_iff.mp opens
  split at found
  · rename_i long
    exact indentedFence indented (.inl rfl) long
  · split at found
    · rename_i long
      exact indentedFence indented (.inr rfl) long
    · cases found

theorem closedFence {line : String} {f : CodeFence} (closes : f.closedBy line = true) : isFence line = true := by
  obtain ⟨s, indented, found⟩ := (Option.any_eq_true ..).mp closes
  simp only [Bool.and_eq_true, decide_eq_true_eq] at found
  exact indentedFence indented f.signed (f.long.trans found.1)

theorem isFenceEq (block : Option CodeFence) (line : String) :
    isFence line = ((after block line).isSome ^^ block.isSome ^^ stray block line) := by
  have turns : (after block line).isSome ≠ block.isSome → isFence line = true := by
    intro other
    cases block with
    | none =>
      obtain ⟨f, opens⟩ := Option.ne_none_iff_exists'.mp (show opened? line ≠ none by simpa [after] using other)
      exact openedFence opens
    | some f =>
      cases closes : f.closedBy line with
      | true => exact closedFence closes
      | false => simp [after, closes] at other
  rw [stray]
  grind

theorem xorTwice (between above here below later : Bool) : ((between ^^ above ^^ here) ^^ (below ^^ between ^^ later)) =
    (below ^^ above ^^ (here ^^ later)) := by
  revert between above here below later
  decide

theorem fencesOdd (block : Option CodeFence) (ls : List String) : (ls.countP isFence % 2 == 1) =
    ((ls.foldl after block).isSome ^^ block.isSome ^^ (strays block ls % 2 == 1)) := by
  induction ls generalizing block with
  | nil => simp [strays]
  | cons line more ih =>
    have odd : (strays block (line :: more) % 2 == 1) = (stray block line ^^ (strays (after block line) more % 2 == 1)) := by
      rw [strays]
      cases stray block line with
      | false => simp
      | true =>
        rw [if_pos rfl, Bool.eq_iff_iff]
        simp only [beq_iff_eq, Bool.true_xor, Bool.not_eq_true', beq_eq_false_iff_ne]
        omega
    rw [fencesCons, ih (after block line), odd, isFenceEq block line, List.foldl_cons]
    exact xorTwice _ _ _ _ _

theorem straysTake (block : Option CodeFence) (ls : List String) (i : Nat) : strays block (ls.take i) ≤ strays block ls := by
  induction ls generalizing block i with
  | nil => simp
  | cons line more ih =>
    cases i with
    | zero => simp [strays]
    | succ i =>
      rw [List.take_succ_cons, strays, strays]
      exact Nat.add_le_add_left (ih _ i) _

theorem fencedAtEq (ls : List String) (i : Nat) :
    fencedAt ls i = ((openAt ls i).isSome ^^ (strays none (ls.take i) % 2 == 1)) := by
  rw [fencedAt, fencesOdd none, openAt]
  simp

end CodeFence

open CodeFence (openAt strays fencedAtEq)

def InCode (text : String) (first n : Nat) : Prop := (openAt (Text.lines text) (n - first)).isSome = true

instance (text : String) (first n : Nat) : Decidable (InCode text first n) := inferInstanceAs (Decidable (_ = true))

/-- The lines above a number that look like a fence and neither open nor close a block are odd in number. -/
def OddStrays (text : String) (first n : Nat) : Prop := strays none ((Text.lines text).take (n - first)) % 2 = 1

theorem memHeadings {text : String} {first : Nat} {h : HeadingLine} : h ∈ headings text first ↔
    ∃ line, LineAt text first h.line line ∧ markAt (Text.lines text) (h.line - first) line = some h.heading := by
  rw [headingsEq, headingsOf, markedLinesEq, List.mem_filterMap]
  constructor
  · intro listed
    obtain ⟨entry, member, found⟩ := listed
    obtain ⟨⟨line, n⟩, inside, rfl⟩ := List.mem_map.mp member
    obtain ⟨heading, marked, rfl⟩ := Option.map_eq_some_iff.mp found
    exact ⟨line, inside, marked⟩
  · intro standing
    obtain ⟨line, inside, marked⟩ := standing
    exact ⟨_, List.mem_map.mpr ⟨_, inside, rfl⟩, by simp [marked]⟩

theorem headingsIff {text : String} {first : Nat} {h : HeadingLine} : h ∈ headings text first ↔
    h.Stands text first ∧ (InCode text first h.line ↔ OddStrays text first h.line) := by
  have outside : fencedAt (Text.lines text) (h.line - first) = false ↔
      (InCode text first h.line ↔ OddStrays text first h.line) := by
    rw [fencedAtEq, InCode, OddStrays, ← beq_iff_eq]
    cases (openAt (Text.lines text) (h.line - first)).isSome <;> simp
  rw [memHeadings, ← outside]
  constructor
  · intro standing
    obtain ⟨line, found, marked⟩ := standing
    have unfenced := markAtSome marked
    rw [markAt] at marked
    split at marked
    · cases marked
    · exact ⟨⟨line, found, marked⟩, unfenced.2⟩
  · intro outside
    obtain ⟨⟨line, found, heading⟩, unfenced⟩ := outside
    refine ⟨line, found, ?_⟩
    rw [fencedAt] at unfenced
    rw [markAt, headingNoFence heading, unfenced]
    exact heading

structure FenceParity (text : String) (level first : Nat) : Prop where
  headings : ∀ h, h ∈ headings text first ↔
    h.Stands text first ∧ (InCode text first h.line ↔ OddStrays text first h.line)
  sections : ∀ n, n ∈ (Sections.split text level first).sections.map Section.line ↔
    ∃ h : HeadingLine, h.line = n ∧ h.heading.level = level ∧ h.Stands text first ∧
      (InCode text first n ↔ OddStrays text first n)
  regular : strays none (Text.lines text) = 0 →
    (∀ h ∈ Syllabus.headings text first, ¬InCode text first h.line) ∧
      ∀ s ∈ (Sections.split text level first).sections, ¬InCode text first s.line

theorem fenceParity (text : String) (level first : Nat) : FenceParity text level first := by
  have sections : ∀ n, n ∈ (Sections.split text level first).sections.map Section.line ↔
      ∃ h : HeadingLine, h.line = n ∧ h.heading.level = level ∧ h.Stands text first ∧
        (InCode text first n ↔ OddStrays text first n) := by
    intro n
    rw [sectionLines, headingsAtListed, List.mem_map]
    constructor
    · intro made
      obtain ⟨h, member, rfl⟩ := made
      obtain ⟨among, deep⟩ := List.mem_filter.mp member
      exact ⟨h, rfl, by simpa using deep, headingsIff.mp among⟩
    · intro stands
      obtain ⟨h, rfl, deep, stands⟩ := stands
      exact ⟨h, List.mem_filter.mpr ⟨headingsIff.mpr stands, by simpa using deep⟩, rfl⟩
  refine ⟨fun h => headingsIff, sections, fun none => ?_⟩
  have even : ∀ n, ¬OddStrays text first n := by
    intro n odd
    have within := CodeFence.straysTake Option.none (Text.lines text) (n - first)
    rw [OddStrays] at odd
    omega
  refine ⟨fun h member inside => even _ ((headingsIff.mp member).2.mp inside), fun s member inside => ?_⟩
  obtain ⟨_, _, _, _, parity⟩ := (sections s.line).mp (List.mem_map_of_mem member)
  exact even _ (parity.mp inside)

def longFence : String := "\x60\x60\x60\x60\n\x60\x60\x60\n# A\n\x60\x60\x60\n\x60\x60\x60\x60"

theorem longFenceHeads : (∃ h ∈ headings longFence 1, InCode longFence 1 h.line) ∧
    ∃ s ∈ (Sections.split longFence 1 1).sections, InCode longFence 1 s.line :=
  ⟨⟨⟨3, ⟨1, "A"⟩⟩, by decide +kernel, by decide +kernel⟩,
    ⟨⟨"A", 3, "\x60\x60\x60\n\x60\x60\x60\x60"⟩, by decide +kernel, by decide +kernel⟩⟩

end Syllabus
