import Syllabus.Proofs.Excerpt.Bytes
import Syllabus.Proofs.WikiLink.Spans
import Syllabus.WikiLink.Bytes

/-! Links are safe to find on every text. The pass by bytes ends, each of its slices has its ends at characters, and the
byte that it looks back at belongs to the character before a stretch: no other character has a byte of an exclamation
mark. It finds the stretches that no earlier one reaches and that no exclamation mark makes an embed. -/
namespace Syllabus.WikiLink
open ByteExcerpt (byteAt slice?)

theorem bytesOfChars (s : List Char) : (String.ofList s).toUTF8.data = (s.flatMap String.utf8EncodeChar).toArray := by
  rw [String.toUTF8, String.toByteArray_ofList, List.utf8Encode, List.data_toByteArray]

theorem bytesLength (s : List Char) : (s.flatMap String.utf8EncodeChar).length = String.utf8Len s := by
  induction s with
  | nil => rfl
  | cons c rest ih => rw [List.flatMap_cons, List.length_append, String.length_utf8EncodeChar, ih, String.utf8Len_cons,
      Nat.add_comm]

theorem ofNatMark {n : Nat} (small : n < 256) : (UInt8.ofNat n == 33) = decide (n = 33) := by
  have same : (UInt8.ofNat n).toNat = n := UInt8.toNat_ofNat_of_lt small
  rw [Bool.eq_iff_iff, beq_iff_eq, decide_eq_true_eq, ← UInt8.toNat_inj, same]
  rfl

theorem lastByte (c : Char) : (String.utf8EncodeChar c).getLast?.map (· == 33) = some (c == '!') := by
  have mark : (c == '!') = decide (c.val.toNat = 33) := by
    rw [Bool.eq_iff_iff, beq_iff_eq, decide_eq_true_eq, ← Char.toNat_inj]
    rfl
  have foreign (large : ¬c.val.toNat ≤ 127) : (UInt8.ofNat (c.val.toNat % 64 + 128) == 33) = (c == '!') := by
    rw [mark, ofNatMark (by omega), decide_eq_decide]
    omega
  rw [String.utf8EncodeChar]
  split
  · rename_i small
    rw [mark, ← ofNatMark (by omega)]
    rfl
  · rename_i large
    rw [← foreign large]
    split
    · rfl
    · split <;> rfl

theorem byteBefore (front after : List Char) (c : Char) : ∃ last,
    (String.ofList (front ++ [c] ++ after)).toUTF8.data[String.utf8Len (front ++ [c]) - 1]? = some last ∧
      (last == 33) = (c == '!') := by
  have mark := lastByte c
  rcases List.eq_nil_or_concat (String.utf8EncodeChar c) with none | ⟨start, last, bytes⟩
  · rw [none] at mark
    cases mark
  · rw [List.concat_eq_append] at bytes
    rw [bytes, List.getLast?_concat, Option.map_some] at mark
    refine ⟨last, ?_, Option.some.inj mark⟩
    have place : String.utf8Len (front ++ [c]) - 1 = (front.flatMap String.utf8EncodeChar ++ start).length := by
      rw [← bytesLength]
      simp [bytes]
    have whole : (front ++ [c] ++ after).flatMap String.utf8EncodeChar =
        (front.flatMap String.utf8EncodeChar ++ start) ++ last :: after.flatMap String.utf8EncodeChar := by
      simp [bytes]
    rw [bytesOfChars, place, whole, List.getElem?_toArray, List.getElem?_append_right (Nat.le_refl _), Nat.sub_self]
    rfl

theorem markedBefore (before after : List Char) :
    Scan.marked? (.ofList (before ++ after)) (String.utf8Len before) = some (before.getLast? == some '!') := by
  rcases List.eq_nil_or_concat before with rfl | ⟨front, c, rfl⟩
  · rfl
  · rw [List.concat_eq_append]
    obtain ⟨last, byte, mark⟩ := byteBefore front after c
    have some : 0 < String.utf8Len (front ++ [c]) := by
      rw [String.utf8Len_append, String.utf8Len_cons]
      have wide := c.utf8Size_pos
      omega
    rw [Scan.marked?, if_pos some, byte, Option.map_some, mark, List.getLast?_concat]
    rfl

theorem findFirst (needle : String) (s : List Char) :
    Scan.find? needle (.ofList s) = (Chars.cut? needle.toList s).map fun parts => String.utf8Len parts.1 := by
  rw [Scan.find?, Text.cut?, String.toList_ofList, Option.map_map]
  congr 1
  funext parts
  exact String.utf8ByteSize_ofList parts.1

theorem sliceMiddle (before middle after : List Char) : slice? (.ofList (before ++ (middle ++ after)))
    (String.utf8Len before) (String.utf8Len before + String.utf8Len middle) = some (.ofList middle) := by
  have cut := ByteExcerpt.sliceAt (s := .ofList (before ++ (middle ++ after))) (Nat.le_add_right before.length middle.length)
  have front : (before ++ (middle ++ after)).take (before.length + middle.length) = before ++ middle := by
    rw [List.take_length_add_append, List.take_left]
  rw [ByteExcerpt.byteAtLength, ByteExcerpt.byteAtLength, ArticleExcerpt.slice, String.toList_ofList, List.take_left,
    front, String.utf8Len_append, List.drop_left] at cut
  exact cut

section Step

variable {done rest skipped opened inner behind : List Char} {found : List ByteLink}

theorem sliceRest (before after : List Char) : slice? (.ofList (before ++ after)) (String.utf8Len before)
    (String.ofList (before ++ after)).utf8ByteSize = some (.ofList after) := by
  have cut := sliceMiddle before after []
  rw [List.append_nil] at cut
  rw [String.utf8ByteSize_ofList, String.utf8Len_append, cut]

theorem openedSplit (first : Chars.cut? ['[', '['] rest = some (skipped, opened)) :
    rest = skipped ++ '[' :: '[' :: opened := Chars.cutSplit first

theorem closedFirst (opened : List Char) : Scan.find? "]]" (.ofList ('[' :: '[' :: opened)) =
    (Chars.cut? [']', ']'] opened).map fun parts => String.utf8Len ('[' :: '[' :: parts.1) := by
  have past (s : List Char) : [']', ']'].isPrefixOf? ('[' :: s) = none := rfl
  rw [findFirst, show "]]".toList = [']', ']'] from rfl, Chars.cutStep, past, Chars.cutStep, past, Option.map_map,
    Option.map_map]
  rfl

theorem stepUnopened (none : Chars.cut? ['[', '['] rest = none) (text : String) (consumed : Nat) :
    Scan.step? text ⟨consumed, .ofList rest, found⟩ = some .none := by
  rw [Scan.step?, findFirst, show "[[".toList = ['[', '['] from rfl, none]
  rfl

theorem stepUnclosed (first : Chars.cut? ['[', '['] rest = some (skipped, opened))
    (none : Chars.cut? [']', ']'] opened = none) (text : String) (consumed : Nat) :
    Scan.step? text ⟨consumed, .ofList rest, found⟩ = some .none := by
  have cut := sliceRest skipped ('[' :: '[' :: opened)
  rw [← openedSplit first] at cut
  rw [Scan.step?, findFirst, show "[[".toList = ['[', '['] from rfl, first, Option.map_some]
  dsimp only
  rw [cut, Option.bind_eq_bind, Option.bind_some, closedFirst, none, Option.map_none]

theorem inBracketsLength (inner : List Char) :
    String.utf8Len (inBrackets inner) = String.utf8Len ('[' :: '[' :: inner) + 2 := by
  rw [inBrackets, String.utf8Len_append]
  rfl

theorem stepStretch (first : Chars.cut? ['[', '['] rest = some (skipped, opened))
    (last : Chars.cut? [']', ']'] opened = some (inner, behind)) :
    Scan.step? (.ofList (done ++ rest)) ⟨String.utf8Len done, .ofList rest, found⟩ =
      some (some ⟨String.utf8Len (done ++ (skipped ++ inBrackets inner)), .ofList behind,
        if skipped.getLast?.or done.getLast? == some '!' then found
        else found ++ [⟨String.utf8Len (done ++ skipped), .ofList (inBrackets inner)⟩]⟩) := by
  have whole := cutTwice first last
  have cut := sliceRest skipped ('[' :: '[' :: opened)
  rw [← openedSplit first] at cut
  have mark := markedBefore (done ++ skipped) ('[' :: '[' :: opened)
  rw [List.append_assoc, ← openedSplit first, String.utf8Len_append, List.getLast?_append] at mark
  have link := sliceMiddle skipped (inBrackets inner) behind
  rw [← whole, inBracketsLength, ← Nat.add_assoc] at link
  have next := sliceRest (skipped ++ inBrackets inner) behind
  rw [List.append_assoc, ← whole, String.utf8Len_append, inBracketsLength, ← Nat.add_assoc] at next
  rw [Scan.step?, findFirst, show "[[".toList = ['[', '['] from rfl, first, Option.map_some]
  dsimp only
  rw [cut, Option.bind_eq_bind, Option.bind_some, closedFirst, last, Option.map_some]
  dsimp only
  rw [mark, link, next]
  cases skipped.getLast?.or done.getLast? == some '!' <;>
    simp [String.utf8Len_append, inBracketsLength, Nat.add_assoc]

def links (text : String) : List Span := (spans text.toList).filter fun a => !a.embed

def ByteLink.ofSpan (text : String) (a : Span) : ByteLink := ⟨byteAt text a.start, .ofList a.text⟩

theorem linkPlaced (first : Chars.cut? ['[', '['] rest = some (skipped, opened))
    (last : Chars.cut? [']', ']'] opened = some (inner, behind)) (embed : Bool) :
    ByteLink.ofSpan (.ofList (done ++ rest)) ⟨done.length + skipped.length, embed, inner⟩ =
      ⟨String.utf8Len (done ++ skipped), .ofList (inBrackets inner)⟩ := by
  rw [ByteLink.ofSpan, ByteExcerpt.byteAtLength, String.toList_ofList, cutTwice first last, List.take_length_add_append,
    List.take_left]
  rfl

theorem runAnswers (done rest : List Char) (found : List ByteLink) :
    Scan.run? (.ofList (done ++ rest)) ⟨String.utf8Len done, .ofList rest, found⟩ =
      some (found ++ ((spansFrom done.length done.getLast? rest).filter fun a => !a.embed).map
        (ByteLink.ofSpan (.ofList (done ++ rest)))) := by
  induction length : rest.length using Nat.strongRecOn generalizing done rest found with
  | ind n ih =>
    cases first : Chars.cut? ['[', '['] rest with
    | none =>
      rw [Scan.run?, stepUnopened first, spansUnopened first]
      simp
    | some parts =>
      obtain ⟨skipped, opened⟩ := parts
      cases last : Chars.cut? [']', ']'] opened with
      | none =>
        rw [Scan.run?, stepUnclosed first last, spansUnclosed first last]
        simp
      | some parts =>
        obtain ⟨inner, behind⟩ := parts
        have whole : done ++ (skipped ++ inBrackets inner) ++ behind = done ++ rest := by
          rw [cutTwice first last, List.append_assoc, List.append_assoc]
        have shorter : (String.ofList behind).utf8ByteSize < (String.ofList rest).utf8ByteSize := by
          rw [String.utf8ByteSize_ofList, String.utf8ByteSize_ofList, cutTwice first last, String.utf8Len_append,
            String.utf8Len_append, inBracketsLength]
          omega
        have later := fun found => ih behind.length (length ▸ behindShorter first last)
          (done ++ (skipped ++ inBrackets inner)) behind found rfl
        rw [whole] at later
        rw [Scan.run?, stepStretch first last, spansNext first last]
        dsimp only
        rw [if_pos shorter, later]
        cases skipped.getLast?.or done.getLast? == some '!' with
        | true => rfl
        | false =>
          rw [List.filter_cons_of_pos rfl, List.map_cons, linkPlaced first last, if_neg Bool.false_ne_true,
            List.append_assoc]
          rfl

end Step

structure Found (text : String) : Prop where
  texts : find text = (links text).map fun a => .ofList a.text
  bytes : Scan.links? text = some ((links text).map (ByteLink.ofSpan text))
  slices : ∀ a ∈ links text, slice? text (byteAt text a.start) (byteAt text a.stop) = some (.ofList a.text)
  stretches : ∀ a ∈ links text, Stretch text.toList a.start a.close
  apart : (links text).Pairwise fun a b => a.stop ≤ b.start
  starts : ∀ i, (∃ a ∈ links text, a.start = i) ↔
    Closed text.toList i ∧ Outside text.toList i ∧ (text.toList.take i).getLast? ≠ some '!'

theorem linksAnswers (text : String) : Scan.links? text = some ((links text).map (ByteLink.ofSpan text)) := by
  have run := runAnswers [] text.toList []
  rw [List.nil_append, String.ofList_toList] at run
  exact run

theorem memLinks {text : String} {a : Span} : a ∈ links text ↔ a ∈ spans text.toList ∧ a.embed = false := by
  rw [links, List.mem_filter, Bool.not_eq_true']

theorem linksStart {text : String} {i : Nat} : (∃ a ∈ links text, a.start = i) ↔
    Closed text.toList i ∧ Outside text.toList i ∧ (text.toList.take i).getLast? ≠ some '!' := by
  have scanned := spansScanned text.toList
  have starts := scanned.starts i
  rw [← closedIff] at starts
  constructor
  · intro linked
    obtain ⟨a, member, rfl⟩ := linked
    obtain ⟨span, plain⟩ := memLinks.mp member
    obtain ⟨_, outside, closed⟩ := starts.mp ⟨a, span, rfl⟩
    rw [(scanned.lies a span).embed, beq_eq_false_iff_ne] at plain
    exact ⟨closed, outside, plain⟩
  · intro closed
    obtain ⟨closed, outside, plain⟩ := closed
    obtain ⟨a, span, rfl⟩ := starts.mpr ⟨Nat.zero_le i, outside, closed⟩
    refine ⟨a, memLinks.mpr ⟨span, ?_⟩, rfl⟩
    rw [(scanned.lies a span).embed, beq_eq_false_iff_ne]
    exact plain

theorem linksFound (text : String) : Found text := by
  have lies : ∀ a ∈ links text, Lies text.toList a := fun a member =>
    (spansScanned text.toList).lies a (memLinks.mp member).1
  refine ⟨rfl, linksAnswers text, fun a member => ?_, fun a member => (lies a member).stretch, ?_, fun i => linksStart⟩
  · rw [ByteExcerpt.sliceAt (by rw [← textLength]; exact Nat.le_add_right ..), (lies a member).slice]
  · exact (spansScanned text.toList).apart.filter _

example : find "![[a]] [[b [[c]] é[[d]] [[e" = ["[[b [[c]]", "[[d]]"] ∧
    Scan.links? "é[[d]]" = some [⟨2, "[[d]]"⟩] := by decide +kernel

end Syllabus.WikiLink
