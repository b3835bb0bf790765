import Syllabus.Excerpt.Article
import Syllabus.Proofs.Excerpt.Anchors

/-! The excerpt that two anchors mark in an article. Each anchor that is given must stand at exactly one place of the
folded article, the end anchor from the start anchor on. The excerpt runs from the character with which the one
match begins to the character with which the other ends. Places are counted in characters, of which the first byte
lies behind the bytes of the characters before. -/
namespace Syllabus.ArticleExcerpt
open Anchor (folded sites ComesFrom Solid Given)

def Sole (text : List Char) (first : Nat) : Option (List Char) → Nat → Prop
  | none, i => i = first
  | some anchor, i => sites (folded anchor) text first = [i]

structure Marks (body : List Char) (start stop : Option (List Char)) (i j : Nat) (e : ArticleExcerpt) : Prop where
  start : start.elim (e.start = 0) fun _ => ComesFrom body i e.start
  stop : stop.elim (e.stop = body.length) fun anchor =>
    ∃ k, ComesFrom body (j + (folded anchor).length - 1) k ∧ e.stop = k + 1
  content : e.content.toList = Chars.trim (slice body e.start e.stop)

inductive Missed (text : List Char) (start stop : Option (List Char)) : ExcerptFailure → Prop where
  | noStart {anchor} : start = some anchor → sites (folded anchor) text 0 = [] →
      Missed text start stop (.anchorNotFound (.ofList anchor))
  | manyStarts {anchor} : start = some anchor → 2 ≤ (sites (folded anchor) text 0).length →
      Missed text start stop (.ambiguousAnchor (.ofList anchor) (sites (folded anchor) text 0).length)
  | noStop {anchor} : start = none → stop = some anchor → sites (folded anchor) text 0 = [] →
      Missed text start stop (.anchorNotFound (.ofList anchor))
  | noStopBehind {before anchor i} : start = some before → Sole text 0 start i → stop = some anchor →
      sites (folded anchor) text i = [] → Missed text start stop (.endNotFound (.ofList before) (.ofList anchor))
  | manyStops {anchor i} : Sole text 0 start i → stop = some anchor → 2 ≤ (sites (folded anchor) text i).length →
      Missed text start stop (.ambiguousAnchor (.ofList anchor) (sites (folded anchor) text i).length)

/-- An excerpt is taken when both anchors are found once, and otherwise it is told which was not. -/
structure Exact (body : List Char) (start stop : Option (List Char)) (result : Except ExcerptFailure ArticleExcerpt) :
    Prop where
  succeeds : (∃ e, result = .ok e) ↔ ∃ i j, Sole (folded body) 0 start i ∧ Sole (folded body) i stop j
  marks : ∀ e, result = .ok e →
    ∃ i j, Sole (folded body) 0 start i ∧ Sole (folded body) i stop j ∧ Marks body start stop i j e
  missed : ∀ failure, result = .error failure → Missed (folded body) start stop failure

section Place

variable {body anchor : List Char} {first : Nat}

theorem placeFound (solid : Solid anchor) {i : Nat} :
    place (Anchor.fold 0 body) anchor first = .ok i ↔ sites (folded anchor) (folded body) first = [i] := by
  rw [place, Anchor.foldTextFolded, Anchor.foldChars, Anchor.occurrencesSites solid.filled]
  cases sites (folded anchor) (folded body) first with
  | nil => simp
  | cons one more => cases more <;> simp

theorem placeMissed (solid : Solid anchor) {failure : ExcerptFailure}
    (missed : place (Anchor.fold 0 body) anchor first = .error failure) :
    (sites (folded anchor) (folded body) first = [] ∧ failure = .anchorNotFound (.ofList anchor)) ∨
      (2 ≤ (sites (folded anchor) (folded body) first).length ∧
        failure = .ambiguousAnchor (.ofList anchor) (sites (folded anchor) (folded body) first).length) := by
  rw [place, Anchor.foldTextFolded, Anchor.foldChars, Anchor.occurrencesSites solid.filled] at missed
  cases found : sites (folded anchor) (folded body) first with
  | nil =>
    rw [found] at missed
    cases missed
    exact .inl ⟨rfl, rfl⟩
  | cons one more =>
    rw [found] at missed
    cases more with
    | nil => cases missed
    | cons two more =>
      cases missed
      exact .inr ⟨by simp, rfl⟩

theorem foldAt {i : Nat} (inside : i < (folded body).length) :
    ∃ f, (Anchor.fold 0 body)[i]? = some f ∧ ComesFrom body i f.start := by
  rw [← Anchor.foldChars body 0, List.length_map] at inside
  obtain ⟨k, start, from_⟩ := Anchor.foldFrom (List.getElem?_eq_getElem inside)
  rw [Nat.zero_add] at start
  exact ⟨_, List.getElem?_eq_getElem inside, by rw [start]; exact from_⟩

end Place

variable {body : List Char} {start stop : Option (List Char)}

theorem startFound (solid : ∀ anchor ∈ start, Solid anchor) {i k : Nat}
    (found : startOf (Anchor.fold 0 body) start = .ok (i, k)) :
    Sole (folded body) 0 start i ∧ start.elim (k = 0) fun _ => ComesFrom body i k := by
  cases start with
  | none =>
    cases found
    exact ⟨rfl, rfl⟩
  | some anchor =>
    rw [startOf] at found
    cases placed : place (Anchor.fold 0 body) anchor 0 with
    | error failure =>
      rw [placed] at found
      cases found
    | ok at_ =>
      rw [placed] at found
      have sole := (placeFound (solid anchor rfl)).mp placed
      have member : at_ ∈ sites (folded anchor) (folded body) 0 := by simp [sole]
      obtain ⟨f, char, from_⟩ := foldAt (Anchor.memSites.mp member).2.1
      simp only [Except.map, char] at found
      cases found
      exact ⟨sole, from_⟩

theorem startSole (solid : ∀ anchor ∈ start, Solid anchor) {i : Nat} (sole : Sole (folded body) 0 start i) :
    ∃ k, startOf (Anchor.fold 0 body) start = .ok (i, k) := by
  cases start with
  | none =>
    cases sole
    exact ⟨0, rfl⟩
  | some anchor => exact ⟨_, by rw [startOf, (placeFound (solid anchor rfl)).mpr sole]; rfl⟩

theorem startMissed (solid : ∀ anchor ∈ start, Solid anchor) {failure : ExcerptFailure}
    (missed : startOf (Anchor.fold 0 body) start = .error failure) : Missed (folded body) start stop failure := by
  cases start with
  | none => cases missed
  | some anchor =>
    rw [startOf] at missed
    cases placed : place (Anchor.fold 0 body) anchor 0 with
    | ok at_ =>
      rw [placed] at missed
      cases missed
    | error other =>
      rw [placed] at missed
      cases missed
      cases placeMissed (solid anchor rfl) placed with
      | inl none =>
        rw [none.2]
        exact .noStart rfl none.1
      | inr many =>
        rw [many.2]
        exact .manyStarts rfl many.1

theorem stopFound (solid : ∀ anchor ∈ stop, Solid anchor) {i l : Nat}
    (found : stopOf (Anchor.fold 0 body) body.length i start stop = .ok l) :
    ∃ j, Sole (folded body) i stop j ∧ stop.elim (l = body.length) fun anchor =>
      ∃ k, ComesFrom body (j + (folded anchor).length - 1) k ∧ l = k + 1 := by
  cases stop with
  | none =>
    cases found
    exact ⟨i, rfl, rfl⟩
  | some anchor =>
    have ends := solid anchor rfl
    rw [stopOf] at found
    cases placed : place (Anchor.fold 0 body) anchor i with
    | error failure =>
      rw [placed] at found
      cases found
    | ok at_ =>
      rw [placed] at found
      have sole := (placeFound ends).mp placed
      have member : at_ ∈ sites (folded anchor) (folded body) i := by simp [sole]
      obtain ⟨d, last, letter⟩ := Anchor.siteLast ends member
      obtain ⟨f, char, from_⟩ := foldAt (List.getElem?_eq_some_iff.mp last).1
      -- The match ends in no space, so that its last character stands for one character alone.
      rw [← Anchor.foldChars body 0, List.getElem?_map, char] at last
      cases last
      have one := Anchor.foldStop (List.mem_of_getElem? char) letter
      simp only [Anchor.foldTextFolded, char] at found
      cases found
      exact ⟨at_, sole, f.start, from_, one⟩

theorem stopSole (start : Option (List Char)) (solid : ∀ anchor ∈ stop, Solid anchor) {i j : Nat}
    (sole : Sole (folded body) i stop j) : ∃ l, stopOf (Anchor.fold 0 body) body.length i start stop = .ok l := by
  cases stop with
  | none => exact ⟨body.length, rfl⟩
  | some anchor => exact ⟨_, by rw [stopOf, (placeFound (solid anchor rfl)).mpr sole]⟩

theorem stopMissed (solid : ∀ anchor ∈ stop, Solid anchor) {i : Nat} (begins : Sole (folded body) 0 start i)
    {failure : ExcerptFailure}
    (missed : stopOf (Anchor.fold 0 body) body.length i start stop = .error failure) :
    Missed (folded body) start stop failure := by
  cases stop with
  | none => cases missed
  | some anchor =>
    rw [stopOf] at missed
    cases placed : place (Anchor.fold 0 body) anchor i with
    | ok at_ =>
      rw [placed] at missed
      cases missed
    | error other =>
      rw [placed] at missed
      cases missed
      cases placeMissed (solid anchor rfl) placed with
      | inr many =>
        rw [many.2]
        exact .manyStops begins rfl many.1
      | inl none =>
        rw [none.2]
        cases start with
        | none =>
          cases begins
          exact .noStop rfl rfl none.1
        | some before => exact .noStopBehind rfl begins rfl none.1

theorem extractFound {text : String} {request : ExcerptRequest} {e : ArticleExcerpt}
    (found : extract text request = .ok e) : ∃ i,
      startOf (Anchor.fold 0 text.toList) (Anchor.given? request.start) = .ok (i, e.start) ∧
      stopOf (Anchor.fold 0 text.toList) text.toList.length i (Anchor.given? request.start)
        (Anchor.given? request.stop) = .ok e.stop ∧
      e.content.toList = Chars.trim (slice text.toList e.start e.stop) := by
  unfold extract at found
  dsimp only [bind, Except.bind] at found
  split at found
  · cases found
  · rename_i at_ begins
    split at found
    · cases found
    · rename_i l ends
      cases found
      exact ⟨at_.1, begins, ends, String.toList_ofList⟩

theorem extractMissed {text : String} {request : ExcerptRequest} {failure : ExcerptFailure}
    (missed : extract text request = .error failure) :
    startOf (Anchor.fold 0 text.toList) (Anchor.given? request.start) = .error failure ∨ ∃ i k,
      startOf (Anchor.fold 0 text.toList) (Anchor.given? request.start) = .ok (i, k) ∧
      stopOf (Anchor.fold 0 text.toList) text.toList.length i (Anchor.given? request.start)
        (Anchor.given? request.stop) = .error failure := by
  unfold extract at missed
  dsimp only [bind, Except.bind] at missed
  split at missed
  · rename_i begins
    cases missed
    exact .inl begins
  · rename_i at_ begins
    split at missed
    · rename_i ends
      cases missed
      exact .inr ⟨at_.1, at_.2, begins, ends⟩
    · cases missed

theorem extractSole {text : String} {request : ExcerptRequest} {i j : Nat}
    (begins : Sole (folded text.toList) 0 (Anchor.given? request.start) i)
    (ends : Sole (folded text.toList) i (Anchor.given? request.stop) j) : ∃ e, extract text request = .ok e := by
  obtain ⟨k, start⟩ := startSole (fun _ => Anchor.givenSolid) begins
  obtain ⟨l, stop⟩ := stopSole (Anchor.given? request.start) (fun _ => Anchor.givenSolid) ends
  cases taken : extract text request with
  | ok e => exact ⟨e, rfl⟩
  | error failure =>
    cases extractMissed taken with
    | inl atStart =>
      rw [start] at atStart
      cases atStart
    | inr atStop =>
      obtain ⟨_, _, start', stop'⟩ := atStop
      rw [start] at start'
      cases start'
      rw [stop] at stop'
      cases stop'

theorem extractMarks {text : String} {request : ExcerptRequest} {e : ArticleExcerpt}
    (found : extract text request = .ok e) :
    ∃ i j, Sole (folded text.toList) 0 (Anchor.given? request.start) i ∧
      Sole (folded text.toList) i (Anchor.given? request.stop) j ∧
      Marks text.toList (Anchor.given? request.start) (Anchor.given? request.stop) i j e := by
  obtain ⟨i, start, stop, content⟩ := extractFound found
  obtain ⟨begins, first⟩ := startFound (fun _ => Anchor.givenSolid) start
  obtain ⟨j, ends, last⟩ := stopFound (fun _ => Anchor.givenSolid) stop
  exact ⟨i, j, begins, ends, first, last, content⟩

theorem extractSucceeds (body : String) (request : ExcerptRequest) : (∃ e, extract body request = .ok e) ↔
    ∃ i j, Sole (folded body.toList) 0 (Anchor.given? request.start) i ∧
      Sole (folded body.toList) i (Anchor.given? request.stop) j := by
  constructor
  · intro taken
    obtain ⟨e, found⟩ := taken
    obtain ⟨i, j, begins, ends, _⟩ := extractMarks found
    exact ⟨i, j, begins, ends⟩
  · intro found
    obtain ⟨i, j, begins, ends⟩ := found
    exact extractSole begins ends

theorem anchorsExact (body : String) (request : ExcerptRequest) :
    ∃ start stop, Given request.start start ∧ Given request.stop stop ∧
      Exact body.toList start stop (extract body request) := by
  refine ⟨_, _, Anchor.givenMeant request.start, Anchor.givenMeant request.stop, ?_⟩
  constructor
  · exact extractSucceeds body request
  · intro e found
    exact extractMarks found
  · intro failure missed
    cases extractMissed missed with
    | inl atStart => exact startMissed (fun _ => Anchor.givenSolid) atStart
    | inr atStop =>
      obtain ⟨i, k, start, stop⟩ := atStop
      have begins := (startFound (fun _ => Anchor.givenSolid) start).1
      exact stopMissed (fun _ => Anchor.givenSolid) begins stop

structure Within (body : List Char) (e : ArticleExcerpt) : Prop where
  ordered : e.start ≤ e.stop
  inside : e.stop ≤ body.length
  content : e.content.toList = Chars.trim (slice body e.start e.stop)

theorem soleBehind {text : List Char} {first i : Nat} {anchor : Option (List Char)} (sole : Sole text first anchor i) :
    first ≤ i := by
  cases anchor with
  | none => exact Nat.le_of_eq sole.symm
  | some anchor =>
    have member : i ∈ sites (folded anchor) text first := by rw [sole]; exact List.mem_cons_self
    exact (Anchor.memSites.mp member).1

theorem Marks.within {i j : Nat} {e : ArticleExcerpt} (solid : ∀ anchor ∈ stop, Solid anchor)
    (marks : Marks body start stop i j e) (order : i ≤ j) : e.Within body := by
  obtain ⟨first, last, content⟩ := marks
  cases stop with
  | none =>
    have whole : e.stop = body.length := last
    cases start with
    | none =>
      have zero : e.start = 0 := first
      exact ⟨by omega, by omega, content⟩
    | some before =>
      have inside := Anchor.ComesFrom.inside first
      exact ⟨by omega, by omega, content⟩
  | some anchor =>
    obtain ⟨k, from_, same⟩ := last
    have inside := from_.inside
    have filled := (solid anchor rfl).filled
    cases start with
    | none =>
      have zero : e.start = 0 := first
      exact ⟨by omega, by omega, content⟩
    | some before =>
      have least := Anchor.ComesFrom.ordered first from_ (by omega)
      exact ⟨by omega, by omega, content⟩

theorem extractWithin {text : String} {request : ExcerptRequest} {e : ArticleExcerpt}
    (found : extract text request = .ok e) : e.Within text.toList := by
  obtain ⟨i, j, _, ends, marks⟩ := extractMarks found
  exact marks.within (fun _ => Anchor.givenSolid) (soleBehind ends)

end Syllabus.ArticleExcerpt
