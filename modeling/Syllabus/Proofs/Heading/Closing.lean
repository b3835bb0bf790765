import Mathlib.Data.List.TakeWhile
import Syllabus.Heading
import Syllabus.Proofs.Text

/-! Headings written and read again. The text of a heading is read up to its closing signs, and those need no blank
before them. So a text that ends in a number sign loses its last signs, unless the heading is closed by further ones. -/
namespace Syllabus.Heading
open Text (isBlank)

def Closes (s : List Char) : Prop := ∃ gap signs more, s = gap ++ (signs ++ more) ∧
  (∀ c ∈ gap, isBlank c = true) ∧ (∀ c ∈ signs, c = '#') ∧ ∀ c ∈ more, isBlank c = true

/-- The shortest beginning of a text, other than none of it, that is followed by closing signs alone. -/
structure Keeps (text kept : List Char) : Prop where
  filled : kept ≠ []
  closed : ∃ rest, text = kept ++ rest ∧ Closes rest
  shortest : ∀ other rest, text = other ++ rest → Closes rest → other ≠ [] → kept.length ≤ other.length

def written (h : Heading) : String := .ofList (List.replicate h.level '#') ++ " " ++ h.text

structure Writable (h : Heading) : Prop where
  level : 1 ≤ h.level ∧ h.level ≤ 6
  bare : Chars.Bare h.text.toList
  line : '\n' ∉ h.text.toList

def Signed (text : String) : Prop := ∃ word, (Text.words text).getLast? = some word ∧ ∀ c ∈ word.toList, c = '#'

structure ReadBack (h : Heading) : Prop where
  kept : ∃ text : String, ofLine? h.written = some ⟨h.level, text⟩ ∧ Keeps h.text.toList text.toList
  whole : ofLine? h.written = some h ↔ h.text.toList.getLast? ≠ some '#' ∨ h.text = "#"
  closed : ∀ gap signs, gap ≠ [] → (∀ c ∈ gap, isBlank c = true) → signs ≠ 0 →
    ofLine? (h.written ++ .ofList gap ++ .ofList (List.replicate signs '#')) = some h

def front (s : List Char) : List Char :=
  (((s.reverse.dropWhile isBlank).dropWhile (· == '#')).dropWhile isBlank).reverse

theorem frontLength (s : List Char) : s.length - closing s = (front s).length := by
  have fewer : (front s).length ≤ s.length := by
    calc (front s).length ≤ _ := by simpa [front] using (List.dropWhile_sublist _).length_le
      _ ≤ _ := (List.dropWhile_sublist _).length_le
      _ ≤ _ := (List.dropWhile_sublist _).length_le
      _ = s.length := s.length_reverse
  have same : closing s = s.length - (front s).length := by simp [closing, front]
  omega

theorem frontSplit (s : List Char) : ∃ rest, s = front s ++ rest ∧ Closes rest := by
  have whole : s.reverse = s.reverse.takeWhile isBlank ++ ((s.reverse.dropWhile isBlank).takeWhile (· == '#') ++
      (((s.reverse.dropWhile isBlank).dropWhile (· == '#')).takeWhile isBlank ++ (front s).reverse)) := by
    rw [front, List.reverse_reverse, List.takeWhile_append_dropWhile, List.takeWhile_append_dropWhile,
      List.takeWhile_append_dropWhile]
  have turned := congrArg List.reverse whole
  simp only [List.reverse_append, List.reverse_reverse, List.append_assoc] at turned
  refine ⟨_, turned, _, _, _, rfl, ?_, ?_, ?_⟩
  · intro c member
    exact List.mem_takeWhile_imp (List.mem_reverse.mp member)
  · intro c member
    simpa using List.mem_takeWhile_imp (List.mem_reverse.mp member)
  · intro c member
    exact List.mem_takeWhile_imp (List.mem_reverse.mp member)

theorem dropWhileSuffix {p : Char → Bool} {s before after : List Char} (within : s <:+ before ++ after)
    (all : ∀ c ∈ before, p c = true) : s.dropWhile p <:+ after := by
  rcases List.suffix_or_suffix_of_suffix within (List.suffix_append before after) with inside | longer
  · exact (List.dropWhile_suffix p).trans inside
  · obtain ⟨more, rfl⟩ := longer
    have tail : more <:+ before := List.suffix_append_self_iff.mp within
    rw [List.dropWhile_append_of_pos fun c member => all c (tail.subset member)]
    exact List.dropWhile_suffix p

theorem frontShortest {s other rest : List Char} (split : s = other ++ rest) (closes : Closes rest) :
    (front s).length ≤ other.length := by
  obtain ⟨gap, signs, more, rfl, gapBlank, allSigns, moreBlank⟩ := closes
  have turned : s.reverse <:+ more.reverse ++ (signs.reverse ++ (gap.reverse ++ other.reverse)) := by
    rw [split]
    simp
  have unblanked := dropWhileSuffix turned fun c member => moreBlank c (List.mem_reverse.mp member)
  have unsigned := dropWhileSuffix (p := (· == '#')) unblanked fun c member => by
    simpa using allSigns c (List.mem_reverse.mp member)
  have left := dropWhileSuffix unsigned fun c member => gapBlank c (List.mem_reverse.mp member)
  simpa [front] using left.length_le

theorem Closes.tail {c : Char} {s : List Char} (closes : Closes (c :: s)) : Closes s := by
  obtain ⟨gap, signs, more, whole, gapBlank, allSigns, moreBlank⟩ := closes
  cases gap with
  | cons d gap =>
    obtain ⟨rfl, rfl⟩ := List.cons.inj whole
    exact ⟨gap, signs, more, rfl, fun e member => gapBlank e (List.mem_cons_of_mem _ member), allSigns, moreBlank⟩
  | nil =>
    cases signs with
    | cons d signs =>
      obtain ⟨rfl, rfl⟩ := List.cons.inj whole
      exact ⟨[], signs, more, rfl, by simp, fun e member => allSigns e (List.mem_cons_of_mem _ member), moreBlank⟩
    | nil =>
      refine ⟨[], [], s, rfl, by simp, by simp, fun e member => ?_⟩
      exact moreBlank e (by rw [← show c :: s = more from whole]; exact List.mem_cons_of_mem _ member)

def kept (text : List Char) : List Char := text.take (max 1 (front text).length)

theorem keptKeeps {text : List Char} (filled : text ≠ []) : Keeps text (kept text) := by
  obtain ⟨rest, whole, closes⟩ := frontSplit text
  constructor
  case filled => simpa [kept] using filled
  case closed =>
    cases start : front text with
    | nil =>
      rw [start, List.nil_append] at whole
      obtain ⟨c, more, same⟩ := List.exists_cons_of_ne_nil filled
      rw [← whole, same] at closes
      have taken : kept text = [c] := by
        rw [kept, start, same]
        rfl
      exact ⟨more, by rw [taken, same]; rfl, closes.tail⟩
    | cons c more =>
      have least : max 1 (front text).length = (front text).length := by
        rw [start, List.length_cons]
        omega
      have taken : kept text = front text := by
        rw [kept, least]
        exact (List.prefix_iff_eq_take.mp ⟨rest, whole.symm⟩).symm
      exact ⟨rest, by rw [taken, ← whole], closes⟩
  case shortest =>
    intro other more split closed other'
    have size : (kept text).length ≤ max 1 (front text).length := List.length_take_le _ _
    have front := frontShortest split closed
    have least := List.length_pos_iff.mpr other'
    omega

theorem keepsOnce {text a b : List Char} (left : Keeps text a) (right : Keeps text b) : a = b := by
  obtain ⟨rest, wholeA, closesA⟩ := left.closed
  obtain ⟨more, wholeB, closesB⟩ := right.closed
  have same : a.length = b.length :=
    Nat.le_antisymm (left.shortest b more wholeB closesB right.filled) (right.shortest a rest wholeA closesA left.filled)
  exact (List.append_inj (wholeA.symm.trans wholeB) same).1

theorem signSolid : isBlank '#' = false := by decide

theorem closesLast {s : List Char} {c : Char} (closes : Closes (s ++ [c])) : isBlank c = true ∨ c = '#' := by
  obtain ⟨gap, signs, more, whole, gapBlank, allSigns, moreBlank⟩ := closes
  have member : c ∈ gap ++ (signs ++ more) := by simp [← whole]
  simp only [List.mem_append] at member
  rcases member with inGap | inSigns | inMore
  · exact .inl (gapBlank c inGap)
  · exact .inr (allSigns c inSigns)
  · exact .inl (moreBlank c inMore)

theorem keepsWhole {s : List Char} (bare : Chars.Bare s) : Keeps s s ↔ s.getLast? ≠ some '#' ∨ s = ['#'] := by
  obtain ⟨before, last, whole, solid⟩ := bare.last
  constructor
  · intro keeps
    by_contra signed
    simp only [ne_eq, not_or, not_not, whole, List.getLast?_append, List.getLast?_singleton, Option.some_or,
      Option.some.injEq] at signed
    obtain ⟨rfl, longer⟩ := signed
    have more : before ≠ [] := fun none => longer (by rw [none]; rfl)
    have sign : Closes ['#'] := ⟨[], ['#'], [], rfl, by simp, by simp, by simp⟩
    have shorter := keeps.shortest before ['#'] whole sign more
    rw [whole, List.length_append, List.length_singleton] at shorter
    omega
  · intro either
    have filled : s ≠ [] := by simp [whole]
    have nothing : Closes [] := ⟨[], [], [], rfl, by simp, by simp, by simp⟩
    refine ⟨filled, ⟨[], by simp, nothing⟩, fun other rest split closes other' => ?_⟩
    cases either with
    | inr alone =>
      have least := List.length_pos_iff.mpr other'
      rw [alone]
      exact least
    | inl plain =>
      rcases List.eq_nil_or_concat rest with rfl | ⟨more, c, rfl⟩
      · simp [split]
      · rw [List.concat_eq_append] at closes split
        have same : c = last := by
          have ends := congrArg List.getLast? (split.symm.trans whole)
          simpa using ends
        rcases closesLast closes with blank | sign
        · rw [same, solid] at blank
          cases blank
        · exact absurd (by rw [split, sign]; simp) plain

theorem frontClosed {s gap : List Char} {signs : Nat} (bare : Chars.Bare s) (filled : gap ≠ [])
    (blank : ∀ c ∈ gap, isBlank c = true) (signed : signs ≠ 0) :
    front (s ++ (gap ++ List.replicate signs '#')) = s := by
  obtain ⟨before, last, whole, solid⟩ := bare.last
  obtain ⟨signs, rfl⟩ := Nat.exists_eq_succ_of_ne_zero signed
  have turned : (s ++ (gap ++ List.replicate (signs + 1) '#')).reverse =
      List.replicate (signs + 1) '#' ++ (gap.reverse ++ s.reverse) := by simp
  have unblanked : (List.replicate (signs + 1) '#' ++ (gap.reverse ++ s.reverse)).dropWhile isBlank =
      List.replicate (signs + 1) '#' ++ (gap.reverse ++ s.reverse) :=
    List.dropWhile_cons_of_neg (by simp [signSolid])
  have unsigned : (List.replicate (signs + 1) '#' ++ (gap.reverse ++ s.reverse)).dropWhile (· == '#') =
      gap.reverse ++ s.reverse := by
    refine Chars.dropWhileAll (by simp) fun c head => ?_
    have inGap : c ∈ gap := by
      rw [List.head?_append_of_ne_nil _ (by simpa using filled)] at head
      exact List.mem_reverse.mp (List.mem_of_mem_head? head)
    simp only [beq_eq_false_iff_ne, ne_eq]
    rintro rfl
    simpa [signSolid] using blank _ inGap
  have left : (gap.reverse ++ s.reverse).dropWhile isBlank = s.reverse := by
    refine Chars.dropWhileAll (fun c member => blank c (List.mem_reverse.mp member)) fun c head => ?_
    have same : last = c := by simpa [whole] using head
    exact same ▸ solid
  rw [front, turned, unblanked, unsigned, left, List.reverse_reverse]

section Written

variable {level : Nat} {c : Char} {rest : List Char}

theorem textOfKept (solid : isBlank c = false) (plain : '\n' ∉ kept (c :: rest)) :
    textOf? (' ' :: c :: rest) = some (kept (c :: rest)) := by
  have blank : isBlank ' ' = true := by decide
  have start : (' ' :: c :: rest).dropWhile isBlank = c :: rest := by
    rw [List.dropWhile_cons_of_pos blank, List.dropWhile_cons_of_neg (by simp [solid])]
  have filled := (keptKeeps (List.cons_ne_nil c rest)).filled
  simp only [textOf?, start, List.isEmpty_cons, frontLength]
  rw [if_neg Bool.false_ne_true, ← kept, if_neg]
  simpa using ⟨filled, plain⟩

theorem ofCharsKept (least : 1 ≤ level) (most : level ≤ 6) (solid : isBlank c = false)
    (plain : '\n' ∉ kept (c :: rest)) :
    ofChars? (List.replicate level '#' ++ ' ' :: c :: rest) = some ⟨level, .ofList (kept (c :: rest))⟩ := by
  have signs : (List.replicate level '#' ++ ' ' :: c :: rest).takeWhile (· == '#') = List.replicate level '#' := by
    rw [List.takeWhile_append_of_pos (by simp)]
    simp
  have blank : isBlank ' ' = true := by decide
  simp only [ofChars?, signs, List.length_replicate, List.drop_left' List.length_replicate, textOfKept solid plain]
  rw [if_neg]
  · rfl
  · simp [blank]
    omega

end Written

variable {h : Heading}

theorem keptWithin (text : List Char) : ∀ c ∈ kept text, c ∈ text := fun _ member => List.mem_of_mem_take member

theorem writtenChars (h : Heading) : h.written.toList = List.replicate h.level '#' ++ ' ' :: h.text.toList := by
  simp [written]

theorem ofLineWritten (writable : h.Writable) : ofLine? h.written = some ⟨h.level, .ofList (kept h.text.toList)⟩ := by
  obtain ⟨level, bare, line⟩ := writable
  obtain ⟨c, rest, head, solid⟩ := bare.head
  have plain : '\n' ∉ kept (c :: rest) := fun member => line (by rw [head]; exact keptWithin _ _ member)
  rw [ofLine?, writtenChars, head]
  exact ofCharsKept level.1 level.2 solid plain

theorem ofLineClosed (writable : h.Writable) {gap : List Char} {signs : Nat} (filled : gap ≠ [])
    (blank : ∀ c ∈ gap, isBlank c = true) (signed : signs ≠ 0) :
    ofLine? (h.written ++ .ofList gap ++ .ofList (List.replicate signs '#')) = some h := by
  obtain ⟨level, bare, line⟩ := writable
  obtain ⟨c, rest, head, solid⟩ := bare.head
  have whole : kept (h.text.toList ++ (gap ++ List.replicate signs '#')) = h.text.toList := by
    have least : 1 ≤ h.text.toList.length := by simp [head]
    rw [kept, frontClosed bare filled blank signed, Nat.max_eq_right least, List.take_left]
  have plain := line
  rw [← whole] at plain
  simp only [ofLine?, String.toList_append, writtenChars, String.toList_ofList, List.append_assoc, List.cons_append]
  rw [head, List.cons_append] at whole plain ⊢
  rw [ofCharsKept level.1 level.2 solid plain, whole, ← head, String.ofList_toList]

theorem writtenReadBack (writable : h.Writable) : h.ReadBack := by
  have filled : h.text.toList ≠ [] := (Chars.bareIff.mp writable.bare).1
  have keeps := keptKeeps filled
  refine ⟨⟨_, ofLineWritten writable, by simpa using keeps⟩, ?_, fun gap signs => ofLineClosed writable⟩
  have same : ofLine? h.written = some h ↔ Keeps h.text.toList h.text.toList := by
    rw [ofLineWritten writable]
    constructor
    · intro read
      have text : kept h.text.toList = h.text.toList := by
        have inner := congrArg Heading.text (Option.some.inj read)
        simpa using congrArg String.toList inner
      rwa [text] at keeps
    · intro whole
      rw [keepsOnce keeps whole, String.ofList_toList]
  rw [same, keepsWhole writable.bare, ← String.toList_inj]
  rfl

theorem signsWritable : Writable ⟨2, "On C# and # signs"⟩ where
  level := by decide
  bare := ⟨⟨'O', _, rfl, by decide⟩, "On C# and # sign".toList, 's', by decide, by decide⟩
  line := by decide

theorem innerSignsReadBack : Writable ⟨2, "On C# and # signs"⟩ ∧ ReadBack ⟨2, "On C# and # signs"⟩ :=
  ⟨signsWritable, writtenReadBack signsWritable⟩

theorem lastSignLost : Writable ⟨1, "C#"⟩ ∧ ¬Signed "C#" ∧ ofLine? (written ⟨1, "C#"⟩) = some ⟨1, "C"⟩ ∧
    ofLine? "# C# #" = some ⟨1, "C#"⟩ := by
  have words : (Text.words "C#").getLast? = some "C#" := by decide +kernel
  refine ⟨⟨by decide, ⟨⟨'C', _, rfl, by decide⟩, ['C'], '#', rfl, by decide⟩, by decide⟩, ?_, by decide +kernel,
    by decide +kernel⟩
  intro signed
  obtain ⟨word, last, signs⟩ := signed
  cases words.symm.trans last
  exact absurd (signs 'C' (by decide)) (by decide)

end Syllabus.Heading
