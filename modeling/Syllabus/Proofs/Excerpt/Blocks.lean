import Mathlib.Data.List.Forall2
import Mathlib.Data.List.ModifyLast
import Syllabus.Proofs.Excerpt.Marker

/-! Blocks of a transcript keep all of its text from the first time on. A line that starts with a time opens a block,
and every other line goes to the block above it, also one that starts with what has the form of a time and is none.
Lines that are taken one by one, each put behind the last block as it stands, make the same blocks. -/
namespace Syllabus.Transcript

def trimmed (line : List Char) : String := .ofList (Chars.trim line)

inductive Says (line : List Char) : String → Prop where
  | timed {start text} (timed : Timed line start text) : Says line text
  | plain (unmarked : ¬Marked line) : Says line (trimmed line)

structure Passage where
  head : List Char
  below : List (List Char)

def Passage.lines (p : Passage) : List (List Char) := p.head :: p.below

structure Tells (b : TranscriptBlock) (p : Passage) : Prop where
  head : ∃ text, Timed p.head b.start text ∧ b.text = joined (text :: p.below.map trimmed)
  below : ∀ line ∈ p.below, ¬Marked line

structure Parted (lines : List (List Char)) (found : List TranscriptBlock) (before : List (List Char))
    (passages : List Passage) : Prop where
  whole : lines = before ++ passages.flatMap Passage.lines
  early : ∀ line ∈ before, ¬Marked line
  blocks : List.Forall₂ Tells found passages

section Join

theorem joinedNone {texts : List String} (none : texts.filter (fun t => !t.isEmpty) = []) : joined texts = "" := by
  rw [joined, none]
  rfl

theorem joinedSingle (text : String) : joined [text] = text := by
  by_cases empty : text = ""
  · rw [empty]
    rfl
  · simp [joined, empty, Text.joinWith, Chars.joinWith]

theorem joinedPair (a b : String) : joined [a, b] = if a = "" then b else if b = "" then a else a ++ " " ++ b := by
  by_cases left : a = "" <;> by_cases right : b = "" <;>
    simp [joined, left, right, Text.joinWith, Chars.joinWith, String.append_assoc]

theorem joinedFilled {texts : List String} (some : texts.filter (fun t => !t.isEmpty) ≠ []) : joined texts ≠ "" := by
  obtain ⟨first, others, kept⟩ := List.exists_cons_of_ne_nil some
  have filled : first ≠ "" := by
    have member : first ∈ texts.filter fun t => !t.isEmpty := by simp [kept]
    simpa using (List.mem_filter.mp member).2
  rw [joined, kept]
  cases others with
  | nil => simpa [Text.joinWith, Chars.joinWith] using filled
  | cons next more =>
    rw [← List.singleton_append, Text.joinWithAppend " " (by simp) (by simp)]
    simp

theorem joinedAppend (texts more : List String) : joined (texts ++ more) = joined [joined texts, joined more] := by
  have split : (texts ++ more).filter (fun t => !t.isEmpty) =
      texts.filter (fun t => !t.isEmpty) ++ more.filter fun t => !t.isEmpty := List.filter_append ..
  rw [joinedPair]
  by_cases left : texts.filter (fun t => !t.isEmpty) = []
  · rw [joinedNone left, if_pos rfl, joined, split, left, List.nil_append, joined]
  · rw [if_neg (joinedFilled left)]
    by_cases right : more.filter (fun t => !t.isEmpty) = []
    · rw [joinedNone right, if_pos rfl, joined, split, right, List.append_nil, joined]
    · rw [if_neg (joinedFilled right), joined, split, Text.joinWithAppend " " left right, joined, joined]

theorem joinedCons (text : String) (more : List String) : joined (text :: more) = joined [text, joined more] := by
  rw [← List.singleton_append, joinedAppend, joinedSingle]

end Join

section Gather

variable {line : List Char}

theorem gatherTimed {start : Timestamp} {text : List Char} (timed : marker? line = some (start, text))
    (more : List (List Char)) :
    gather (line :: more) = ([], ⟨start, joined (.ofList text :: (gather more).1)⟩ :: (gather more).2) := by
  rw [gather, timed]

theorem gatherPlain (plain : marker? line = none) (more : List (List Char)) :
    gather (line :: more) = (trimmed line :: (gather more).1, (gather more).2) := by
  rw [gather, plain]
  rfl

theorem gatherBefore {lines : List (List Char)} (none : (gather lines).2 = []) (more : List (List Char)) :
    gather (lines ++ more) = ((gather lines).1 ++ (gather more).1, (gather more).2) := by
  induction lines with
  | nil => rfl
  | cons line rest ih =>
    cases found : marker? line with
    | some entry =>
      rw [gatherTimed found] at none
      cases none
    | none =>
      rw [gatherPlain found] at none
      rw [List.cons_append, gatherPlain found, gatherPlain found, ih none]
      rfl

theorem gatherBehind {lines : List (List Char)} {earlier : List TranscriptBlock} {b : TranscriptBlock}
    (last : (gather lines).2 = earlier ++ [b]) (more : List (List Char)) : gather (lines ++ more) =
      ((gather lines).1, earlier ++ ⟨b.start, joined (b.text :: (gather more).1)⟩ :: (gather more).2) := by
  induction lines generalizing earlier with
  | nil => simp [gather] at last
  | cons line rest ih =>
    cases found : marker? line with
    | none =>
      rw [gatherPlain found] at last
      rw [List.cons_append, gatherPlain found, gatherPlain found, ih last]
    | some entry =>
      rw [gatherTimed found] at last
      rw [List.cons_append, gatherTimed found, gatherTimed found]
      cases earlier with
      | nil =>
        obtain ⟨rfl, none⟩ := List.cons.inj last
        rw [gatherBefore none, ← List.cons_append, joinedAppend, ← joinedCons]
        rfl
      | cons first earlier =>
        obtain ⟨rfl, later⟩ := List.cons.inj last
        rw [ih later]
        rfl

end Gather

def extended (line : List Char) (b : TranscriptBlock) : TranscriptBlock :=
  if (Chars.trim line).isEmpty then b
  else { b with text := (if b.text.isEmpty then b.text else b.text.push ' ') ++ trimmed line }

def push (found : List TranscriptBlock) (line : List Char) : List TranscriptBlock :=
  match marker? line with
  | some (start, text) => found ++ [⟨start, .ofList text⟩]
  | none => found.modifyLast (extended line)

theorem extendedJoined (line : List Char) (b : TranscriptBlock) :
    extended line b = ⟨b.start, joined [b.text, trimmed line]⟩ := by
  have blank : (Chars.trim line).isEmpty = true ↔ trimmed line = "" := by
    rw [trimmed, List.isEmpty_iff, ← String.toList_inj, String.toList_ofList, String.toList_empty]
  rw [joinedPair, extended]
  by_cases none : trimmed line = ""
  · rw [if_pos (blank.mpr none), if_pos none]
    by_cases bare : b.text = ""
    · rw [if_pos bare, none, ← bare]
    · rw [if_neg bare]
  · rw [if_neg (mt blank.mp none), if_neg none]
    by_cases bare : b.text = ""
    · simp [bare]
    · simp [bare, ← String.append_singleton]

theorem pushGathered (lines : List (List Char)) (line : List Char) :
    push (gather lines).2 line = (gather (lines ++ [line])).2 := by
  rcases List.eq_nil_or_concat (gather lines).2 with none | ⟨earlier, b, last⟩
  · rw [gatherBefore none, none]
    cases found : marker? line with
    | none =>
      rw [push, found, gatherPlain found]
      rfl
    | some entry =>
      rw [push, found, gatherTimed found]
      simp [gather, joinedSingle]
  · rw [List.concat_eq_append] at last
    rw [gatherBehind last, last]
    cases found : marker? line with
    | none =>
      rw [push, found, gatherPlain found]
      dsimp only
      rw [List.modifyLast_concat, extendedJoined]
      rfl
    | some entry =>
      rw [push, found, gatherTimed found]
      simp [gather, joinedSingle]

theorem foldGathered (done more : List (List Char)) :
    more.foldl push (gather done).2 = (gather (done ++ more)).2 := by
  induction more generalizing done with
  | nil => rw [List.append_nil]; rfl
  | cons line more ih => rw [List.foldl_cons, pushGathered, ih, List.append_assoc]; rfl

theorem gatherParted (lines : List (List Char)) : ∃ before passages,
    Parted lines (gather lines).2 before passages ∧ (gather lines).1 = before.map trimmed := by
  induction lines with
  | nil => exact ⟨[], [], ⟨rfl, List.forall_mem_nil _, .nil⟩, rfl⟩
  | cons line more ih =>
    obtain ⟨before, passages, ⟨whole, early, blocks⟩, outside⟩ := ih
    cases found : marker? line with
    | some entry =>
      -- What was before all blocks so far has its block now.
      have timed : Timed line entry.1 (.ofList entry.2) := timedIff.mpr (by rw [String.toList_ofList, found])
      rw [gatherTimed found]
      refine ⟨[], ⟨line, before⟩ :: passages, ⟨?_, List.forall_mem_nil _, .cons ⟨⟨_, timed, ?_⟩, early⟩ blocks⟩, rfl⟩
      · rw [whole]
        rfl
      · rw [outside]
    | none =>
      rw [gatherPlain found]
      refine ⟨line :: before, passages, ⟨by rw [whole]; rfl, ?_, blocks⟩, by rw [outside]; rfl⟩
      exact List.forall_mem_cons.mpr ⟨unmarkedIff.mpr found, early⟩

theorem Tells.says {b : TranscriptBlock} {p : Passage} (tells : Tells b p) :
    ∃ pieces, List.Forall₂ Says p.lines pieces ∧ b.text = joined pieces := by
  obtain ⟨text, timed, joins⟩ := tells.head
  refine ⟨text :: p.below.map trimmed, .cons (.timed timed) ?_, joins⟩
  exact List.forall₂_map_right_iff.mpr (List.forall₂_same.mpr fun line member => .plain (tells.below line member))

theorem passagesSay {found : List TranscriptBlock} {passages : List Passage}
    (blocks : List.Forall₂ Tells found passages) : ∃ pieces, List.Forall₂ Says (passages.flatMap Passage.lines) pieces ∧
      joined (found.map TranscriptBlock.text) = joined pieces := by
  induction blocks with
  | nil => exact ⟨[], .nil, rfl⟩
  | cons tells _ ih =>
    obtain ⟨texts, here, text⟩ := tells.says
    obtain ⟨pieces, later, same⟩ := ih
    refine ⟨texts ++ pieces, List.rel_append here later, ?_⟩
    rw [List.map_cons, joinedCons, same, text, ← joinedAppend]

structure Kept (body : String) : Prop where
  oneByOne : (Chars.lines body.toList).foldl push [] = blocks body
  parted : ∃ before passages, Parted (Chars.lines body.toList) (blocks body) before passages ∧
    ∃ pieces, List.Forall₂ Says (passages.flatMap Passage.lines) pieces ∧
      joined ((blocks body).map TranscriptBlock.text) = joined pieces
  mistimed : ∀ front line back earlier b, Chars.lines body.toList = front ++ line :: back → Mistimed line →
    front.foldl push [] = earlier ++ [b] →
    ∃ below later, blocks body = earlier ++ ⟨b.start, joined (b.text :: trimmed line :: below)⟩ :: later

theorem blocksKept (body : String) : Kept body where
  oneByOne := foldGathered [] (Chars.lines body.toList)
  parted := by
    obtain ⟨before, passages, parted, _⟩ := gatherParted (Chars.lines body.toList)
    exact ⟨before, passages, parted, passagesSay parted.blocks⟩
  mistimed := by
    intro front line back earlier b whole mistimed last
    rw [show front.foldl push [] = (gather front).2 from foldGathered [] front] at last
    have plain := unmarkedIff.mp (mistimedUnmarked mistimed)
    refine ⟨(gather back).1, (gather back).2, ?_⟩
    rw [blocks, whole, gatherBehind last, gatherPlain plain]

def overlong : String := "intro\n0:05 - one\n1:75 - two\n\n three \n[0:10] - \nfour"

theorem overlongKept : Mistimed "1:75 - two".toList ∧ (∃ below later,
      blocks overlong = ⟨⟨5, []⟩, joined ("one" :: "1:75 - two" :: below)⟩ :: later) ∧
    blocks overlong = [⟨⟨5, []⟩, "one 1:75 - two three"⟩, ⟨⟨10, []⟩, "four"⟩] := by
  have mistimed : Mistimed "1:75 - two".toList := by
    have shown : Timestamp.faceOf? Char.isDigit "1:75".toList = some ⟨none, ['1'], ['7', '5'], []⟩ := by decide
    have formed := ((Timestamp.faceOfIff (by decide) (by decide)).mp shown).2
    refine ⟨_, " two".toList, ⟨formed.mono fun _ => Text.decimalOfDigit, [], [], [], [' '], ?_⟩, fun valid => ?_⟩
    · exact ⟨List.forall_mem_nil _, .inl rfl, .inl rfl, List.forall_mem_singleton.mpr (by decide), rfl⟩
    · exact absurd valid.bounded.seconds (by decide)
  refine ⟨mistimed, ?_, by decide +kernel⟩
  exact (blocksKept overlong).mistimed ["intro".toList, "0:05 - one".toList] "1:75 - two".toList
    ["".toList, " three ".toList, "[0:10] - ".toList, "four".toList] [] ⟨⟨5, []⟩, "one"⟩ (by decide +kernel) mistimed
    (by decide +kernel)

end Syllabus.Transcript
