import Syllabus.Proofs.Excerpt.Article
import Syllabus.Proofs.Excerpt.Bytes

/-! Excerpts are safe to take on every text. Each checked step has an answer: no difference falls below zero, no place
lies beyond the folded text, and every slice lies in the article, with its ends in order and at characters. The answers
are those found by counting characters, with places turned into bytes. -/
namespace Syllabus

namespace Folding
open Anchor (fold folded)

theorem runChars (s : List Char) : (run s).chars = folded s := by
  rw [← String.toList_ofList (l := s), runFolds]
  exact Anchor.foldChars _ 0

theorem runSpan {s : String} {i : Nat} {f : FoldedChar} (found : (fold 0 s.toList)[i]? = some f) :
    (run s.toList).spans[i]? = some (span s f) := by
  rw [runFolds, table, List.getElem?_map, found]
  rfl

theorem lessAnswers {n m : Nat} (order : m ≤ n) : less? n m = some (n - m) := if_pos order

theorem matchingAnswers {text needle : List Char} {places : List Nat}
    (inside : ∀ i ∈ places, i + needle.length ≤ text.length) :
    matching? text needle places = some (places.filter fun i => decide (needle <+: text.drop i)) := by
  induction places with
  | nil => rfl
  | cons i more ih =>
    have fits := inside i List.mem_cons_self
    have here : window? text i (i + needle.length) = some ((text.drop i).take needle.length) := by
      rw [window?, if_pos ⟨Nat.le_add_right _ _, fits⟩, List.drop_take, Nat.add_sub_cancel_left]
    rw [matching?, here, ih fun j member => inside j (List.mem_cons_of_mem i member), List.filter_cons]
    simp only [Option.bind_eq_bind, Option.bind_some, List.prefix_iff_eq_take, decide_eq_true_eq,
      eq_comm (a := needle)]

theorem sitesFit {text needle : List Char} (filled : 0 < needle.length) (fits : needle.length ≤ text.length)
    (first : Nat) : Anchor.sites needle text first =
      (List.range' first (text.length - needle.length + 1 - first)).filter fun i => decide (needle <+: text.drop i) := by
  have long : text.length - first = (text.length - needle.length + 1 - first) +
      (text.length - first - (text.length - needle.length + 1 - first)) := by omega
  have late : ∀ i ∈ List.range' (first + (text.length - needle.length + 1 - first))
      (text.length - first - (text.length - needle.length + 1 - first)), ¬decide (needle <+: text.drop i) = true := by
    intro i member matched
    have short := (of_decide_eq_true matched).length_le
    rw [List.length_drop] at short
    have behind := (List.mem_range'_1.mp member).1
    omega
  rw [Anchor.sites, long, ← List.range'_append_1, List.filter_append, List.filter_eq_nil_iff.mpr late, List.append_nil]

theorem occurrencesAnswer (text needle : Folding) (first : Nat) :
    text.occurrences? needle first = some (Anchor.occurrences needle.chars text.chars first) := by
  rw [occurrences?]
  split
  · rename_i short
    cases short with
    | inl empty => rw [List.length_eq_zero_iff.mp empty]; rfl
    | inr long =>
      have none : Anchor.sites needle.chars text.chars first = [] := by
        refine List.eq_nil_iff_forall_not_mem.mpr fun i member => ?_
        have fits := (Anchor.memSites.mp member).2.2.length_le
        rw [List.length_drop] at fits
        omega
      rw [Anchor.occurrencesSites (by omega), none]
  · rename_i fits
    have inside : ∀ i ∈ List.range' first (text.chars.length - needle.chars.length + 1 - first),
        i + needle.chars.length ≤ text.chars.length := by
      intro i member
      have range := List.mem_range'_1.mp member
      omega
    rw [lessAnswers (by omega), Anchor.occurrencesSites (by omega), sitesFit (by omega) (by omega)]
    exact matchingAnswers inside

end Folding

namespace ByteExcerpt
open Anchor (fold folded Solid)

theorem placeAnswers (body : String) (anchor : List Char) (first : Nat) :
    place? (Folding.run body.toList) anchor first = some (ArticleExcerpt.place (fold 0 body.toList) anchor first) := by
  rw [place?, Folding.occurrencesAnswer, Folding.runChars, Folding.runChars, ArticleExcerpt.place,
    Anchor.foldTextFolded, Anchor.foldChars]
  rfl

theorem startAnswers (body : String) (start : Option (List Char)) (solid : ∀ anchor ∈ start, Solid anchor) :
    startOf? (Folding.run body.toList) start =
      some ((ArticleExcerpt.startOf (fold 0 body.toList) start).map fun found => (found.1, byteAt body found.2)) := by
  cases start with
  | none => rw [startOf?, ArticleExcerpt.startOf, Except.map, byteAtZero]
  | some anchor =>
    rw [startOf?, placeAnswers, ArticleExcerpt.startOf]
    cases placed : ArticleExcerpt.place (fold 0 body.toList) anchor 0 with
    | error failure => rfl
    | ok at_ =>
      have sole := (ArticleExcerpt.placeFound (solid anchor rfl)).mp placed
      have member : at_ ∈ Anchor.sites (folded anchor) (folded body.toList) 0 := by simp [sole]
      obtain ⟨f, char, _⟩ := ArticleExcerpt.foldAt (Anchor.memSites.mp member).2.1
      simp [Except.map, char, Folding.runSpan char, Folding.span]

theorem stopAnswers (body : String) (first : Nat) (start stop : Option (List Char))
    (solid : ∀ anchor ∈ stop, Solid anchor) :
    stopOf? (Folding.run body.toList) body.utf8ByteSize first start stop =
      some ((ArticleExcerpt.stopOf (fold 0 body.toList) body.toList.length first start stop).map (byteAt body)) := by
  cases stop with
  | none => rw [stopOf?, ArticleExcerpt.stopOf, Except.map, byteAtEnd]
  | some anchor =>
    rw [stopOf?, placeAnswers, ArticleExcerpt.stopOf]
    cases placed : ArticleExcerpt.place (fold 0 body.toList) anchor first with
    | error failure => rfl
    | ok at_ =>
      have ends := solid anchor rfl
      have filled := ends.filled
      have sole := (ArticleExcerpt.placeFound ends).mp placed
      have member : at_ ∈ Anchor.sites (folded anchor) (folded body.toList) first := by simp [sole]
      obtain ⟨d, last, _⟩ := Anchor.siteLast ends member
      obtain ⟨f, char, _⟩ := ArticleExcerpt.foldAt (List.getElem?_eq_some_iff.mp last).1
      simp [Except.map, Folding.runChars, Folding.lessAnswers (show 1 ≤ at_ + (folded anchor).length by omega),
        Anchor.foldTextFolded, char, Folding.runSpan char, Folding.span]

def ofExcerpt (body : String) (e : ArticleExcerpt) : ByteExcerpt := ⟨e.content, byteAt body e.start, byteAt body e.stop⟩

theorem extractAnswers (body : String) (request : ExcerptRequest) :
    extract? body request = some ((ArticleExcerpt.extract body request).map (ofExcerpt body)) := by
  have begins := startAnswers body (Anchor.given? request.start) fun _ => Anchor.givenSolid
  cases start : ArticleExcerpt.startOf (fold 0 body.toList) (Anchor.given? request.start) with
  | error failure => simp [extract?, begins, ArticleExcerpt.extract, start, bind, Except.bind, Except.map]
  | ok found =>
    have ends := stopAnswers body found.1 (Anchor.given? request.start) (Anchor.given? request.stop)
      fun _ => Anchor.givenSolid
    cases stop : ArticleExcerpt.stopOf (fold 0 body.toList) body.toList.length found.1 (Anchor.given? request.start)
        (Anchor.given? request.stop) with
    | error failure =>
      simp [extract?, begins, ends, ArticleExcerpt.extract, start, stop, bind, Except.bind, Except.map]
    | ok stopAt =>
      have taken : ArticleExcerpt.extract body request =
          .ok ⟨.ofList (Chars.trim (ArticleExcerpt.slice body.toList found.2 stopAt)), found.2, stopAt⟩ := by
        simp [ArticleExcerpt.extract, start, stop, bind, Except.bind]
      have cut := sliceAt (s := body) (ArticleExcerpt.extractWithin taken).ordered
      simp [extract?, begins, ends, start, stop, taken, cut, Except.map, ofExcerpt]

theorem extractSlices {body : String} {request : ExcerptRequest} {e : ByteExcerpt}
    (found : extract? body request = some (.ok e)) : Slices body e.start e.stop := by
  rw [extractAnswers] at found
  cases taken : ArticleExcerpt.extract body request with
  | error failure =>
    rw [taken] at found
    cases found
  | ok excerpt =>
    rw [taken] at found
    cases found
    exact byteAtSlices (ArticleExcerpt.extractWithin taken).ordered

end ByteExcerpt

namespace Bundling
open ArticleExcerpt (extract)
open BundledExcerpt (around)
open ByteExcerpt (byteAt ofExcerpt)

def bare : Except ExcerptFailure BundledExcerpt → Except ExcerptFailure BundledExcerpt :=
  Except.map fun excerpt => { excerpt with after := none }

def lastFound : List (Except ExcerptFailure ArticleExcerpt) → Option (Nat × Nat)
  | [] => none
  | result :: more =>
    ((lastFound more).map fun last => (last.1 + 1, last.2)).or (result.toOption.map fun e => (0, e.stop))

theorem lastFoundNone (results : List (Except ExcerptFailure ArticleExcerpt)) :
    (results.all fun other => other.toOption.isNone) = (lastFound results).isNone := by
  induction results with
  | nil => rfl
  | cons result more ih =>
    rw [List.all_cons, ih, lastFound]
    cases lastFound more <;> cases result <;> rfl

theorem lastFoundMem {results : List (Except ExcerptFailure ArticleExcerpt)} {i stop : Nat}
    (last : lastFound results = some (i, stop)) : ∃ e, .ok e ∈ results ∧ e.stop = stop := by
  induction results generalizing i with
  | nil => cases last
  | cons result more ih =>
    rw [lastFound] at last
    cases later : lastFound more with
    | some found =>
      rw [later] at last
      cases last
      obtain ⟨e, member, same⟩ := ih later
      exact ⟨e, List.mem_cons_of_mem _ member, same⟩
    | none =>
      rw [later] at last
      cases result with
      | error failure => cases last
      | ok e =>
        cases last
        exact ⟨e, List.mem_cons_self, rfl⟩

theorem aroundClosed (body : String) (reach : Nat) (results : List (Except ExcerptFailure ArticleExcerpt)) :
    around body reach results = (lastFound results).elim ((around body reach results).map bare) fun last =>
      ((around body reach results).map bare).modify last.1
        (Except.map fun excerpt => { excerpt with after := BundledExcerpt.collapsed? body last.2 body.length }) := by
  induction results generalizing reach with
  | nil => rfl
  | cons result more ih =>
    cases result with
    | error failure =>
      have rest := ih reach
      rw [lastFound, around]
      cases later : lastFound more <;> rw [later] at rest <;> exact congrArg (List.cons _) rest
    | ok e =>
      have rest := ih (max reach e.stop)
      rw [lastFound, around, lastFoundNone]
      cases later : lastFound more <;> rw [later] at rest <;> exact congrArg (List.cons _) rest

theorem collapsedAnswers (body : String) {i j : Nat} (order : i ≤ j) :
    collapsed? body (byteAt body i) (byteAt body j) = some (BundledExcerpt.collapsed? body i j) := by
  rw [collapsed?, ByteExcerpt.sliceAt order, BundledExcerpt.collapsed?, Option.map_some, String.toList_ofList]

section Run

variable {body : String} {reach : Nat} {tail : Option (Nat × Nat)}
  {results : List (Except ExcerptFailure BundledExcerpt)} {request : ExcerptRequest}

theorem stepMissed {failure : ExcerptFailure} (missed : extract body request = .error failure) :
    step? body ⟨byteAt body reach, tail, results⟩ request =
      some ⟨byteAt body reach, tail, results ++ [.error failure]⟩ := by
  rw [step?, ByteExcerpt.extractAnswers, missed]
  rfl

theorem stepFound {e : ArticleExcerpt} (found : extract body request = .ok e) (inside : reach ≤ body.toList.length) :
    step? body ⟨byteAt body reach, tail, results⟩ request =
      some ⟨byteAt body (max reach e.stop), some (results.length, byteAt body e.stop),
        results ++ [.ok ⟨e.content, if reach ≤ e.start then BundledExcerpt.collapsed? body reach e.start else none,
          none⟩]⟩ := by
  rw [step?, ByteExcerpt.extractAnswers, found, (ByteExcerpt.byteAtMono body).map_max]
  simp only [Except.map, Option.bind_eq_bind, Option.bind_some, ofExcerpt, ByteExcerpt.byteAtOrder inside]
  split
  · rename_i order
    rw [collapsedAnswers body order]
    rfl
  · rfl

theorem runAnswers (requests : List ExcerptRequest) (inside : reach ≤ body.toList.length) (tail : Option (Nat × Nat))
    (results : List (Except ExcerptFailure BundledExcerpt)) :
    ∃ far, requests.foldlM (step? body) ⟨byteAt body reach, tail, results⟩ = some ⟨far,
      ((lastFound (requests.map (extract body))).map fun last => (results.length + last.1, byteAt body last.2)).or tail,
      results ++ (around body reach (requests.map (extract body))).map bare⟩ := by
  induction requests generalizing reach tail results with
  | nil => exact ⟨byteAt body reach, by simp [lastFound, around]⟩
  | cons request more ih =>
    rw [List.foldlM_cons]
    cases taken : extract body request with
    | error failure =>
      obtain ⟨far, run⟩ := ih inside tail (results ++ [.error failure])
      refine ⟨far, ?_⟩
      rw [stepMissed taken, Option.bind_eq_bind, Option.bind_some, run, List.map_cons, taken]
      cases later : lastFound (more.map (extract body)) <;>
        simp [lastFound, later, around, bare, Except.map, Except.toOption, Nat.add_assoc, Nat.add_comm 1]
    | ok e =>
      have onward : max reach e.stop ≤ body.toList.length :=
        Nat.max_le.mpr ⟨inside, (ArticleExcerpt.extractWithin taken).inside⟩
      obtain ⟨far, run⟩ := ih onward _ _
      refine ⟨far, ?_⟩
      rw [stepFound taken inside, Option.bind_eq_bind, Option.bind_some, run, List.map_cons, taken]
      cases later : lastFound (more.map (extract body)) <;>
        simp [lastFound, later, around, bare, Except.map, Except.toOption, Nat.add_assoc, Nat.add_comm 1]

end Run

theorem bundleAnswers (body : String) (requests : List ExcerptRequest) :
    bundle? body requests = some (BundledExcerpt.ofRequests body requests) := by
  obtain ⟨far, run⟩ := runAnswers requests (Nat.zero_le body.toList.length) none []
  have closed := aroundClosed body 0 (requests.map (extract body))
  rw [ByteExcerpt.byteAtZero] at run
  rw [bundle?, run, Option.bind_eq_bind, Option.bind_some]
  cases last : lastFound (requests.map (extract body)) with
  | none =>
    rw [last] at closed
    exact congrArg some closed.symm
  | some found =>
    obtain ⟨e, member, same⟩ := lastFoundMem last
    obtain ⟨request, _, taken⟩ := List.mem_map.mp member
    have inside : found.2 ≤ body.toList.length := same ▸ (ArticleExcerpt.extractWithin taken).inside
    have after := collapsedAnswers body inside
    rw [ByteExcerpt.byteAtEnd, String.length_toList] at after
    rw [last] at closed
    simp only [close?, Option.map_some, Option.some_or, after, List.length_nil, Nat.zero_add, List.nil_append]
    exact congrArg some closed.symm

end Bundling

/-- Every step of taking excerpts and of bundling them has an answer, and the ends of an excerpt slice the article. -/
structure SafelyTaken (body : String) : Prop where
  excerpts : ∀ request, ByteExcerpt.extract? body request =
    some ((ArticleExcerpt.extract body request).map (ByteExcerpt.ofExcerpt body))
  slices : ∀ request e, ByteExcerpt.extract? body request = some (.ok e) → ByteExcerpt.Slices body e.start e.stop
  bundles : ∀ requests, Bundling.bundle? body requests = some (BundledExcerpt.ofRequests body requests)

theorem excerptsSafelyTaken (body : String) : SafelyTaken body :=
  ⟨ByteExcerpt.extractAnswers body, fun _ _ => ByteExcerpt.extractSlices, Bundling.bundleAnswers body⟩

end Syllabus
