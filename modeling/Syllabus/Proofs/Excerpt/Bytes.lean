import Mathlib.Data.String.Basic
import Syllabus.Excerpt.Bytes
import Syllabus.Proofs.Excerpt.Folding

/-! The bytes of an article, and the table of its folding in one pass. The table is the folded text with every place
turned into bytes: after each character it is the table of what has been read, and a blank behind a blank only moves
the end of the last span. -/
namespace Syllabus

namespace ByteExcerpt

def byteAt (s : String) (k : Nat) : Nat := (String.ofList (s.toList.take k)).utf8ByteSize

theorem byteAtLength (s : String) (k : Nat) : byteAt s k = String.utf8Len (s.toList.take k) :=
  String.utf8ByteSize_ofList _

theorem byteAtZero (s : String) : byteAt s 0 = 0 := by rw [byteAtLength, List.take_zero, String.utf8Len_nil]

theorem byteAtEnd (s : String) : byteAt s s.toList.length = s.utf8ByteSize := by
  rw [byteAtLength, List.take_length, String.utf8Len_toList]

theorem byteAtNext {s : String} {k : Nat} {c : Char} (char : s.toList[k]? = some c) :
    byteAt s (k + 1) = byteAt s k + c.utf8Size := by
  rw [byteAtLength, byteAtLength, List.take_add_one, char, String.utf8Len_append]
  simp

theorem byteAtMono (s : String) : Monotone (byteAt s) := by
  intro i j order
  rw [byteAtLength, byteAtLength]
  exact String.utf8Len_le_of_prefix (List.take_prefix_take_left order)

theorem byteAtOrder {s : String} {i j : Nat} (inside : i ≤ s.toList.length) : byteAt s i ≤ byteAt s j ↔ i ≤ j := by
  constructor
  · intro order
    by_contra above
    have here : j < s.toList.length := by omega
    have next := byteAtNext (List.getElem?_eq_getElem here)
    have wide := Char.utf8Size_pos s.toList[j]
    have behind := byteAtMono s (show j + 1 ≤ i by omega)
    omega
  · intro order
    exact byteAtMono s order

theorem byteAtValid (s : String) (k : Nat) : String.Pos.Raw.IsValid s ⟨byteAt s k⟩ :=
  String.Pos.Raw.isValid_iff_exists_take_toList.mpr ⟨k, rfl⟩

theorem byteAtSlices {s : String} {i j : Nat} (order : i ≤ j) : Slices s (byteAt s i) (byteAt s j) :=
  ⟨byteAtMono s order, (byteAtValid s j).le_utf8ByteSize, byteAtValid s i, byteAtValid s j⟩

theorem sliceAt {s : String} {i j : Nat} (order : i ≤ j) :
    slice? s (byteAt s i) (byteAt s j) = some (.ofList (ArticleExcerpt.slice s.toList i j)) := by
  have front : s.toList.take j = s.toList.take i ++ ArticleExcerpt.slice s.toList i j := by
    have inner : (s.toList.take j).take i = s.toList.take i := by rw [List.take_take, Nat.min_eq_left order]
    rw [← inner]
    exact (List.take_append_drop i _).symm
  have whole : s = .ofList (s.toList.take i ++ ArticleExcerpt.slice s.toList i j ++ s.toList.drop j) := by
    rw [← front, List.take_append_drop, String.ofList_toList]
  have stop : byteAt s j = String.utf8Len (s.toList.take i) + String.utf8Len (ArticleExcerpt.slice s.toList i j) := by
    rw [byteAtLength, front, String.utf8Len_append]
  have cut := String.extract_of_valid (s.toList.take i) (ArticleExcerpt.slice s.toList i j) (s.toList.drop j)
  rw [← whole, ← stop, ← byteAtLength] at cut
  rw [slice?, if_pos (byteAtSlices order), cut]

end ByteExcerpt

namespace Anchor
open Text (isBlank)

theorem lastApart {c : Char} {rest : List Char} (apart : (c :: rest).getLast?.any isBlank = false) :
    rest.getLast?.any isBlank = false := by
  cases rest with
  | nil => rfl
  | cons d more => simpa using apart

theorem foldAppend {s t : List Char} (apart : s.getLast?.any isBlank = false ∨ t.head?.any isBlank = false)
    (offset : Nat) : fold offset (s ++ t) = fold offset s ++ fold (offset + s.length) t := by
  induction s using foldInduction generalizing offset with
  | nil => rfl
  | solid c rest solid ih =>
    rw [List.cons_append, foldSolid solid, foldSolid solid, ih (apart.imp_left lastApart), List.append_assoc,
      List.length_cons, Nat.add_right_comm, Nat.add_assoc]
  | lone c rest blank next ih =>
    have behind : (rest ++ t).head?.any isBlank = false := by
      cases rest with
      | nil => simpa [blank] using apart
      | cons d more => exact next
    rw [List.cons_append, foldLone blank behind, foldLone blank next, ih (apart.imp_left lastApart), List.cons_append,
      List.length_cons, Nat.add_right_comm, Nat.add_assoc]
  | run c rest blank next ih =>
    have behind : (rest ++ t).head?.any isBlank = true := by
      cases rest with
      | nil => cases next
      | cons d more => exact next
    obtain ⟨stop, more, later, here⟩ := foldRun blank next offset
    obtain ⟨stop', more', later', here'⟩ := foldRun blank behind offset
    have onward := ih (apart.imp_left lastApart) (offset + 1)
    rw [later, later', List.cons_append] at onward
    cases onward
    rw [List.cons_append, here', here, List.cons_append, List.length_cons, Nat.add_right_comm, Nat.add_assoc]

theorem foldBlanks {s : List Char} (filled : s ≠ []) (blanks : ∀ c ∈ s, isBlank c = true) (offset : Nat) :
    fold offset s = [⟨' ', offset, offset + s.length⟩] := by
  induction s generalizing offset with
  | nil => exact absurd rfl filled
  | cons c rest ih =>
    have blank := blanks c List.mem_cons_self
    cases rest with
    | nil => exact foldLone blank rfl offset
    | cons d more =>
      have next : (d :: more).head?.any isBlank = true := blanks d (List.mem_cons_of_mem c List.mem_cons_self)
      have onward := ih (List.cons_ne_nil d more) (fun e member => blanks e (List.mem_cons_of_mem c member)) (offset + 1)
      obtain ⟨stop, others, later, here⟩ := foldRun blank next offset
      rw [later] at onward
      cases onward
      rw [here, List.length_cons (a := c), Nat.add_right_comm, Nat.add_assoc]

theorem foldStretch {s : List Char} {c : Char} (ends : s.getLast?.any isBlank = true) (blank : isBlank c = true)
    (offset : Nat) : ∃ before last, fold offset s = before ++ [last] ∧
      fold offset (s ++ [c]) = before ++ [{ last with stop := offset + s.length + 1 }] := by
  obtain ⟨tail, whole, blanks⟩ := Chars.trimEndSplit s
  have apart : (Chars.trimEnd s).getLast?.any isBlank = false := by
    cases kept : Chars.trimEnd s with
    | nil => rfl
    | cons d more =>
      obtain ⟨before, e, last, solid⟩ := Chars.trimEndLast (kept ▸ List.cons_ne_nil d more)
      rw [← kept, last, List.getLast?_concat]
      simpa using solid
  have filled : tail ≠ [] := by
    intro none
    rw [none, List.append_nil] at whole
    rw [← whole, ends] at apart
    cases apart
  have long : s.length = (Chars.trimEnd s).length + tail.length := by
    conv_lhs => rw [whole, List.length_append]
  refine ⟨fold offset (Chars.trimEnd s), ⟨' ', offset + (Chars.trimEnd s).length, offset + s.length⟩, ?_, ?_⟩
  · conv_lhs => rw [whole, foldAppend (.inl apart), foldBlanks filled blanks, Nat.add_assoc, ← long]
  · have more : ∀ d ∈ tail ++ [c], isBlank d = true := by
      intro d member
      cases List.mem_append.mp member with
      | inl here => exact blanks d here
      | inr here => rw [List.mem_singleton.mp here, blank]
    conv_lhs => rw [whole, List.append_assoc, foldAppend (.inl apart), foldBlanks (by simp) more]
    rw [List.length_append, Nat.add_assoc, ← Nat.add_assoc _ tail.length, ← long]
    rfl

end Anchor

namespace Folding
open Anchor (fold foldChar)
open ByteExcerpt (byteAt)
open Text (isBlank)

theorem stretchedLast (before : List ByteSpan) (last : ByteSpan) (stop : Nat) :
    stretched (before ++ [last]) stop = before ++ [{ last with stop }] := by
  rw [stretched, List.length_append, List.length_singleton, Nat.add_sub_cancel, List.modify_eq_take_drop,
    List.take_left, List.drop_left]
  rfl

def span (s : String) (f : FoldedChar) : ByteSpan := ⟨byteAt s f.start, byteAt s f.stop⟩

def table (s : String) (done : List Char) : Folding where
  chars := (fold 0 done).map FoldedChar.char
  spans := (fold 0 done).map (span s)
  spaced := done.getLast?.any isBlank
  place := byteAt s done.length

section Step

variable {s : String} {done : List Char} {c : Char}

theorem tableNext (char : s.toList[done.length]? = some c) : table s (done ++ [c]) =
    ⟨(fold 0 (done ++ [c])).map FoldedChar.char, (fold 0 (done ++ [c])).map (span s), isBlank c,
      byteAt s done.length + c.utf8Size⟩ := by
  rw [table, List.getLast?_concat, List.length_append, ← ByteExcerpt.byteAtNext char]
  rfl

theorem stepTable (char : s.toList[done.length]? = some c) : (table s done).step c = table s (done ++ [c]) := by
  have next := ByteExcerpt.byteAtNext char
  rw [tableNext char, step]
  cases blank : isBlank c with
  | false =>
    rw [Anchor.foldAppend (.inr (by simpa using blank)), Anchor.foldSolid blank]
    simp [table, span, fold, next, Function.comp_def]
  | true =>
    cases ends : done.getLast?.any isBlank with
    | false =>
      rw [Anchor.foldAppend (.inl ends), Anchor.foldLone blank rfl]
      simp [table, span, fold, next, ends]
    | true =>
      -- No folded character is new here: the last span alone reaches on.
      obtain ⟨before, last, this, stretch⟩ := Anchor.foldStretch ends blank 0
      rw [stretch]
      simp [table, span, next, ends, this, stretchedLast]

end Step

theorem runTable {s : String} (done : List Char) {rest : List Char} (whole : s.toList = done ++ rest) :
    rest.foldl step (table s done) = table s (done ++ rest) := by
  induction rest generalizing done with
  | nil => rw [List.append_nil]; rfl
  | cons c rest ih =>
    have char : s.toList[done.length]? = some c := by rw [whole]; simp
    have onward := ih (done ++ [c]) (by rw [whole, List.append_assoc]; rfl)
    rw [List.foldl_cons, stepTable char, onward, List.append_assoc]
    rfl

theorem runFolds (s : String) : run s.toList = table s s.toList := by
  have start : table s [] = ⟨[], [], false, 0⟩ := by
    simp [table, fold, ByteExcerpt.byteAtZero]
  rw [run, ← start]
  exact runTable [] rfl

end Folding

end Syllabus
