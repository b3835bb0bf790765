import Mathlib.Data.Nat.Find
import Syllabus.Excerpt.Article
import Syllabus.Proofs.Text
import Syllabus.WikiLink

/-! Links in a text. A stretch goes from two opening brackets to the first two closing ones behind them. Reading from left
to right finds just the stretches that no earlier one reaches, in order and apart from each other: what opens inside a
stretch is closed by the same brackets. -/
namespace Syllabus

namespace Chars

theorem cutLeftmost {needle s before after : List Char} (cut : cut? needle s = some (before, after)) :
    ∀ i < before.length, ¬needle <+: s.drop i := by
  induction s generalizing before with
  | nil =>
    rw [cutNil] at cut
    split at cut
    · cases cut
      simp
    · cases cut
  | cons c rest ih =>
    rw [cutStep] at cut
    split at cut
    · cases cut
      simp
    · rename_i absent
      obtain ⟨⟨first, last⟩, later, same⟩ := Option.map_eq_some_iff.mp cut
      cases same
      intro i earlier inside
      cases i with
      | zero =>
        obtain ⟨tail, whole⟩ := inside
        rw [← show needle ++ tail = c :: rest from whole, prefixOfAppend] at absent
        cases absent
      | succ i => exact ih later i (Nat.lt_of_succ_lt_succ earlier) inside

theorem cutMissing {needle s : List Char} (missing : cut? needle s = none) (i : Nat) : ¬needle <+: s.drop i := by
  intro inside
  have found := containsIff.mpr (inside.isInfix.trans (List.drop_suffix i s).isInfix)
  rw [contains, missing] at found
  cases found

end Chars

namespace WikiLink

/-- From two opening brackets at `i` to the first two closing ones behind them, at `j`. -/
structure Stretch (s : List Char) (i j : Nat) : Prop where
  opens : ['[', '['] <+: s.drop i
  behind : i + 2 ≤ j
  closes : [']', ']'] <+: s.drop j
  first : ∀ k, i + 2 ≤ k → k < j → ¬[']', ']'] <+: s.drop k

def Closed (s : List Char) (i : Nat) : Prop :=
  ['[', '['] <+: s.drop i ∧ ∃ k, i + 2 ≤ k ∧ [']', ']'] <+: s.drop k

def Outside (s : List Char) (i : Nat) : Prop := ∀ i' j', Stretch s i' j' → i' < i → j' + 2 ≤ i

def Span.close (a : Span) : Nat := a.start + 2 + a.inner.length

def Span.stop (a : Span) : Nat := a.close + 2

def inBrackets (inner : List Char) : List Char := '[' :: '[' :: inner ++ [']', ']']

structure Lies (s : List Char) (a : Span) : Prop where
  stretch : Stretch s a.start a.close
  text : a.text <+: s.drop a.start
  embed : a.embed = ((s.take a.start).getLast? == some '!')

structure Scanned (s : List Char) (n : Nat) (found : List Span) : Prop where
  lies : ∀ a ∈ found, Lies s a
  apart : found.Pairwise fun a b => a.stop ≤ b.start
  starts : ∀ i, (∃ a ∈ found, a.start = i) ↔ n ≤ i ∧ Outside s i ∧ ∃ j, Stretch s i j

section Stretches

variable {s : List Char} {i j i' j' : Nat}

theorem pairAt {c d : Char} : [c, d] <+: s.drop i ↔ s[i]? = some c ∧ s[i + 1]? = some d := by
  have here : s[i]? = (s.drop i)[0]? := by rw [List.getElem?_drop, Nat.add_zero]
  have next : s[i + 1]? = (s.drop i)[1]? := by rw [List.getElem?_drop]
  rw [here, next]
  cases s.drop i with
  | nil => simp
  | cons a rest => cases rest <;> simp [eq_comm]

theorem closedIff : Closed s i ↔ ∃ j, Stretch s i j := by
  classical
  constructor
  · intro closed
    obtain ⟨opens, closes⟩ := closed
    obtain ⟨behind, here⟩ := Nat.find_spec closes
    exact ⟨Nat.find closes, opens, behind, here, fun k after before inside => Nat.find_min closes before ⟨after, inside⟩⟩
  · intro closed
    obtain ⟨j, stretch⟩ := closed
    exact ⟨stretch.opens, j, stretch.behind, stretch.closes⟩

theorem Stretch.closeOnce (this : Stretch s i j) (again : Stretch s i j') : j = j' := by
  rcases Nat.lt_trichotomy j j' with before | same | behind
  · exact absurd this.closes (again.first j this.behind before)
  · exact same
  · exact absurd again.closes (this.first j' again.behind behind)

theorem Stretch.nested (this : Stretch s i j) (inner : Stretch s i' j') (later : i < i') (inside : i' < j + 2) :
    j' = j := by
  obtain ⟨here, next⟩ := pairAt.mp inner.opens
  obtain ⟨close, closeNext⟩ := pairAt.mp this.closes
  have apart : ∀ k : Nat, s[k]? = some '[' → s[k]? ≠ some ']' := fun k opens closes => by
    rw [opens] at closes
    cases closes
  have before : i' + 2 ≤ j := by
    rcases Nat.lt_trichotomy (i' + 1) j with less | same | more
    · exact less
    · exact absurd close (apart j (same ▸ next))
    · obtain same | same : i' = j ∨ i' = j + 1 := by omega
      · exact absurd close (apart j (same ▸ here))
      · exact absurd closeNext (apart (j + 1) (same ▸ here))
  exact inner.closeOnce ⟨inner.opens, before, this.closes, fun k after until_ => this.first k (by omega) until_⟩

theorem Stretch.outside (this : Stretch s i j) (outside : Outside s i) : Outside s (j + 2) := by
  intro i' j' inner before
  rcases Nat.lt_trichotomy i' i with earlier | same | later
  · have ends := outside i' j' inner earlier
    have behind := this.behind
    omega
  · exact Nat.le_of_eq (congrArg (· + 2) (this.closeOnce (same ▸ inner)).symm)
  · exact Nat.le_of_eq (congrArg (· + 2) (this.nested inner later before))

end Stretches

section Spans

variable {s : List Char} {n : Nat} {a : Span} {found : List Span}

theorem Scanned.nil (none : ∀ i j, n ≤ i → ¬Stretch s i j) : Scanned s n [] where
  lies := by simp
  apart := .nil
  starts i := by
    refine ⟨by simp, fun opens => ?_⟩
    obtain ⟨after, _, j, stretch⟩ := opens
    exact absurd stretch (none i j after)

theorem textLength (a : Span) : a.start + a.text.length = a.stop := by
  simp [Span.text, Span.stop, Span.close]
  omega

theorem Lies.slice (lies : Lies s a) : ArticleExcerpt.slice s a.start a.stop = a.text := by
  rw [ArticleExcerpt.slice, ← textLength, List.drop_take, Nat.add_sub_cancel_left]
  exact (List.prefix_iff_eq_take.mp lies.text).symm

theorem Scanned.cons (lies : Lies s a) (outside : Outside s a.start) (after : n ≤ a.start)
    (closed : ∀ i, n ≤ i → i < a.start → ¬['[', '['] <+: s.drop i) {m : Nat} (stops : a.stop = m)
    (later : Scanned s m found) : Scanned s n (a :: found) where
  lies := List.forall_mem_cons.mpr ⟨lies, later.lies⟩
  apart := by
    refine List.pairwise_cons.mpr ⟨fun b member => ?_, later.apart⟩
    rw [stops]
    exact ((later.starts b.start).mp ⟨b, member, rfl⟩).1
  starts i := by
    have long : a.start ≤ m := by
      rw [← stops, Span.stop, Span.close]
      omega
    constructor
    · intro some
      obtain ⟨b, member, rfl⟩ := some
      cases List.mem_cons.mp member with
      | inl same => exact same ▸ ⟨after, outside, a.close, lies.stretch⟩
      | inr behind =>
        obtain ⟨beyond, rest⟩ := (later.starts b.start).mp ⟨b, behind, rfl⟩
        exact ⟨Nat.le_trans after (Nat.le_trans long beyond), rest⟩
    · intro opens
      obtain ⟨from_, free, j, stretch⟩ := opens
      rcases Nat.lt_trichotomy i a.start with before | same | behind
      · exact absurd stretch.opens (closed i from_ before)
      · exact ⟨a, List.mem_cons_self, same.symm⟩
      · obtain ⟨b, member, start⟩ := (later.starts i).mpr ⟨stops ▸ free _ _ lies.stretch behind, free, j, stretch⟩
        exact ⟨b, List.mem_cons_of_mem a member, start⟩

end Spans

section Run

variable {done rest skipped opened inner behind : List Char}

theorem doneLength (done skipped inner : List Char) :
    (done ++ (skipped ++ inBrackets inner)).length = done.length + skipped.length + 2 + inner.length + 2 := by
  simp [inBrackets]
  omega

theorem doneLast (done skipped inner : List Char) : (done ++ (skipped ++ inBrackets inner)).getLast? = some ']' := by
  simp [inBrackets, List.getLast?_append, List.getLast?_cons]

theorem dropBehind {i : Nat} (after : done.length ≤ i) : (done ++ rest).drop i = rest.drop (i - done.length) := by
  obtain ⟨k, rfl⟩ := Nat.exists_eq_add_of_le after
  rw [List.drop_length_add_append, Nat.add_sub_cancel_left]

theorem spansUnopened (none : Chars.cut? ['[', '['] rest = none) (offset : Nat) (before : Option Char) :
    spansFrom offset before rest = [] := by
  rw [spansFrom, none]

theorem noneUnopened (none : Chars.cut? ['[', '['] rest = none) (i j : Nat) (after : done.length ≤ i) :
    ¬Stretch (done ++ rest) i j := by
  intro stretch
  have opens := stretch.opens
  rw [dropBehind after] at opens
  exact Chars.cutMissing none _ opens

section Opened

variable (first : Chars.cut? ['[', '['] rest = some (skipped, opened))
include first

theorem skippedClosed {i : Nat} (after : done.length ≤ i) (before : i < done.length + skipped.length) :
    ¬['[', '['] <+: (done ++ rest).drop i := by
  rw [dropBehind after]
  exact Chars.cutLeftmost first (i - done.length) (by omega)

theorem openedBehind {k : Nat} (after : done.length + skipped.length + 2 ≤ k) :
    (done ++ rest).drop k = opened.drop (k - (done.length + skipped.length + 2)) := by
  have whole : done ++ rest = done ++ skipped ++ ['[', '['] ++ opened := by
    rw [Chars.cutSplit first]
    simp
  have length : (done ++ skipped ++ ['[', '[']).length = done.length + skipped.length + 2 := by simp [Nat.add_assoc]
  rw [whole, dropBehind (by omega), length]

theorem outsideSkipped (outside : Outside (done ++ rest) done.length) :
    Outside (done ++ rest) (done.length + skipped.length) := by
  intro i j stretch before
  by_cases early : i < done.length
  · have ends := outside i j stretch early
    omega
  · exact absurd stretch.opens (skippedClosed first (Nat.not_lt.mp early) before)

theorem spansUnclosed (none : Chars.cut? [']', ']'] opened = none) (offset : Nat) (before : Option Char) :
    spansFrom offset before rest = [] := by
  rw [spansFrom, first]
  dsimp only
  rw [none]

theorem noneUnclosed (none : Chars.cut? [']', ']'] opened = none) (i j : Nat) (after : done.length ≤ i) :
    ¬Stretch (done ++ rest) i j := by
  intro stretch
  have unskipped : done.length + skipped.length ≤ i := by
    by_contra before
    exact skippedClosed first after (Nat.not_le.mp before) stretch.opens
  have closes := stretch.closes
  rw [openedBehind first (Nat.le_trans (Nat.add_le_add_right unskipped 2) stretch.behind)] at closes
  exact Chars.cutMissing none _ closes

end Opened

section Cut

variable (first : Chars.cut? ['[', '['] rest = some (skipped, opened))
  (last : Chars.cut? [']', ']'] opened = some (inner, behind))
include first last

theorem cutTwice : rest = skipped ++ (inBrackets inner ++ behind) := by
  rw [Chars.cutSplit first, Chars.cutSplit last, inBrackets]
  simp

theorem behindShorter : behind.length < rest.length := by
  rw [cutTwice first last, inBrackets]
  simp
  omega

theorem spansNext (done : List Char) : spansFrom done.length done.getLast? rest =
    ⟨done.length + skipped.length, skipped.getLast?.or done.getLast? == some '!', inner⟩ ::
      spansFrom (done ++ (skipped ++ inBrackets inner)).length (done ++ (skipped ++ inBrackets inner)).getLast?
        behind := by
  have stop : done.length + skipped.length + inner.length + 4 = done.length + skipped.length + 2 + inner.length + 2 := by
    omega
  rw [doneLength, doneLast, spansFrom, first]
  dsimp only
  rw [last]
  dsimp only
  rw [if_pos (behindShorter first last), stop]

theorem stretchHere (done : List Char) : Stretch (done ++ rest) (done.length + skipped.length)
    (done.length + skipped.length + 2 + inner.length) where
  opens := by
    rw [dropBehind (by omega), Nat.add_sub_cancel_left, Chars.cutSplit first, List.drop_left]
    exact List.prefix_append ..
  behind := Nat.le_add_right ..
  closes := by
    rw [openedBehind first (by omega), Nat.add_sub_cancel_left, Chars.cutSplit last, List.drop_left]
    exact List.prefix_append ..
  first k after before := by
    rw [openedBehind first after]
    exact Chars.cutLeftmost last _ (by omega)

theorem liesHere (done : List Char) : Lies (done ++ rest)
    ⟨done.length + skipped.length, skipped.getLast?.or done.getLast? == some '!', inner⟩ where
  stretch := stretchHere first last done
  text := by
    rw [dropBehind (by simp), Nat.add_sub_cancel_left, cutTwice first last, List.drop_left]
    exact List.prefix_append ..
  embed := by
    have front : (done ++ rest).take (done.length + skipped.length) = done ++ skipped := by
      rw [Chars.cutSplit first, List.take_length_add_append, List.take_left]
    rw [front, List.getLast?_append]

end Cut

theorem scannedFrom (done rest : List Char) (outside : Outside (done ++ rest) done.length) :
    Scanned (done ++ rest) done.length (spansFrom done.length done.getLast? rest) := by
  induction length : rest.length using Nat.strongRecOn generalizing done rest with
  | ind n ih =>
    cases first : Chars.cut? ['[', '['] rest with
    | none =>
      rw [spansUnopened first]
      exact .nil (noneUnopened first)
    | some parts =>
      obtain ⟨skipped, opened⟩ := parts
      cases last : Chars.cut? [']', ']'] opened with
      | none =>
        rw [spansUnclosed first last]
        exact .nil (noneUnclosed first last)
      | some parts =>
        obtain ⟨inner, behind⟩ := parts
        -- What is done now ends with the stretch, and the text is the same.
        have whole : done ++ (skipped ++ inBrackets inner) ++ behind = done ++ rest := by
          rw [cutTwice first last, List.append_assoc, List.append_assoc]
        have here := liesHere first last done
        have free := outsideSkipped first outside
        have onward : Outside (done ++ rest) (done ++ (skipped ++ inBrackets inner)).length := by
          rw [doneLength]
          exact here.stretch.outside free
        have later := ih behind.length (length ▸ behindShorter first last) (done ++ (skipped ++ inBrackets inner)) behind
          (whole.symm ▸ onward) rfl
        rw [spansNext first last]
        rw [whole] at later
        exact .cons here free (Nat.le_add_right ..) (fun i => skippedClosed first) (doneLength ..).symm later

theorem spansScanned (s : List Char) : Scanned s 0 (spans s) := by
  have scanned := scannedFrom [] s fun i j _ before => absurd before (Nat.not_lt_zero i)
  rwa [List.nil_append] at scanned

end Run

end WikiLink
end Syllabus
