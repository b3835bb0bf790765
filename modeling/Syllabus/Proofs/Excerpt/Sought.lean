import Syllabus.Proofs.Excerpt.Article

/-! What an article is searched for. Of an anchor only its folded text counts: two requests with the same texts select
the same stretch of every article or fail alike. For a single anchor the text counts in full, as the shorter of two
texts is itself an article in which it stands and the other does not. -/
namespace Syllabus

def Anchor.sought (anchor : Option String) : Option (List Char) := (given? anchor).map folded

inductive ExcerptFailure.Alike : ExcerptFailure → ExcerptFailure → Prop where
  | anchorNotFound {anchor anchor'} : Alike (.anchorNotFound anchor) (.anchorNotFound anchor')
  | endNotFound {start start' stop stop'} : Alike (.endNotFound start stop) (.endNotFound start' stop')
  | ambiguousAnchor {anchor anchor' count} : Alike (.ambiguousAnchor anchor count) (.ambiguousAnchor anchor' count)

/-- The same is taken, or both fail alike. -/
inductive SameOutcome {α : Type} : Except ExcerptFailure α → Except ExcerptFailure α → Prop where
  | taken (a : α) : SameOutcome (.ok a) (.ok a)
  | missed {failure failure'} (alike : failure.Alike failure') : SameOutcome (.error failure) (.error failure')

namespace SameOutcome

variable {α β : Type} {result result' : Except ExcerptFailure α}

theorem only {a b : α} (same : SameOutcome (.ok a) (.ok b)) : a = b := by
  cases same
  rfl

theorem succeeds (same : SameOutcome result result') : (∃ a, result = .ok a) ↔ ∃ a, result' = .ok a := by
  cases same with
  | taken a => rfl
  | missed alike => simp

theorem bind (same : SameOutcome result result') {f f' : α → Except ExcerptFailure β}
    (onward : ∀ a, SameOutcome (f a) (f' a)) : SameOutcome (result >>= f) (result' >>= f') := by
  cases same with
  | taken a => exact onward a
  | missed alike => exact .missed alike

end SameOutcome

namespace ArticleExcerpt
open Anchor (folded sites sought Solid given?)

abbrev FoldAlike : Option (List Char) → Option (List Char) → Prop := Option.Rel fun a b => folded a = folded b

variable {a b : List Char} {start start' stop stop' : Option (List Char)}

theorem foldAlikeIff : FoldAlike start stop ↔ start.map folded = stop.map folded := by
  cases start <;> cases stop <;> simp [FoldAlike]

theorem placeAlike (text : List FoldedChar) (same : folded a = folded b) (first : Nat) :
    SameOutcome (place text a first) (place text b first) := by
  rw [place, place, Anchor.foldTextFolded, Anchor.foldTextFolded, same]
  split
  · exact .missed .anchorNotFound
  · exact .taken _
  · exact .missed .ambiguousAnchor

theorem startAlike (text : List FoldedChar) (starts : FoldAlike start start') :
    SameOutcome (startOf text start) (startOf text start') := by
  cases starts with
  | none => exact .taken _
  | some same => exact (placeAlike text same 0).bind fun at_ => .taken _

theorem afterAlike (starts : FoldAlike start start') {failure failure' : ExcerptFailure}
    (alike : failure.Alike failure') : (afterStart start failure).Alike (afterStart start' failure') := by
  cases alike with
  | anchorNotFound =>
    cases starts with
    | none => exact .anchorNotFound
    | some _ => exact .endNotFound
  | endNotFound => exact .endNotFound
  | ambiguousAnchor => exact .ambiguousAnchor

theorem stopAlike (text : List FoldedChar) (length first : Nat) (starts : FoldAlike start start')
    (stops : FoldAlike stop stop') :
    SameOutcome (stopOf text length first start stop) (stopOf text length first start' stop') := by
  cases stops with
  | none => exact .taken _
  | @some a b same =>
    have places := placeAlike text same first
    rw [stopOf, stopOf, Anchor.foldTextFolded, Anchor.foldTextFolded, same]
    generalize place text a first = result at places
    generalize place text b first = result' at places
    cases places with
    | taken at_ => exact .taken _
    | missed alike => exact .missed (afterAlike starts alike)

theorem extractAlike {request request' : ExcerptRequest} (starts : sought request.start = sought request'.start)
    (stops : sought request.stop = sought request'.stop) (body : String) :
    SameOutcome (extract body request) (extract body request') := by
  have starts := foldAlikeIff.mpr starts
  refine (startAlike _ starts).bind fun at_ => ?_
  exact (stopAlike _ _ at_.1 starts (foldAlikeIff.mpr stops)).bind fun l => .taken _

theorem siteSelf (filled : 0 < (folded a).length) : sites (folded a) (folded a) 0 = [0] := by
  obtain ⟨rest, long⟩ := Nat.exists_eq_add_of_lt filled
  rw [sites, Nat.sub_zero, long, Nat.zero_add, List.range'_succ, List.filter_cons_of_pos (by simp)]
  have behind : (List.range' 1 rest).filter (fun i => decide (folded a <+: (folded a).drop i)) = [] := by
    rw [List.filter_eq_nil_iff]
    intro i member fits
    have short := (of_decide_eq_true fits).length_le
    have least := (List.mem_range'_1.mp member).1
    rw [List.length_drop] at short
    omega
  rw [behind]

theorem siteLonger (long : (folded a).length ≤ (folded b).length) (other : folded a ≠ folded b) :
    sites (folded b) (folded a) 0 = [] := by
  rw [List.eq_nil_iff_forall_not_mem]
  intro i member
  obtain ⟨_, inside, fits⟩ := Anchor.memSites.mp member
  have short := fits.length_le
  rw [List.length_drop] at short
  have first : i = 0 := by omega
  rw [first, List.drop_zero] at fits
  exact other (fits.eq_of_length_le long).symm

theorem soleApart (solid : ∀ a ∈ start, Solid a) (solid' : ∀ b ∈ start', Solid b)
    (other : start.map folded ≠ start'.map folded) :
    ∃ body : List Char, ¬((∃ i, Sole (folded body) 0 start i) ↔ ∃ i, Sole (folded body) 0 start' i) := by
  have alone : ∀ {a b : List Char}, Solid a → (folded a).length ≤ (folded b).length → folded a ≠ folded b →
      (∃ i, Sole (folded a) 0 (some a) i) ∧ ¬∃ i, Sole (folded a) 0 (some b) i := by
    intro a b solid long other
    refine ⟨⟨0, siteSelf solid.filled⟩, fun found => ?_⟩
    obtain ⟨i, sole⟩ := found
    rw [Sole, siteLonger long other] at sole
    cases sole
  have empty : ∀ {b : List Char}, Solid b → ¬∃ i, Sole (folded []) 0 (some b) i := by
    intro b solid found
    obtain ⟨i, sole⟩ := found
    cases sole
  cases start with
  | none =>
    cases start' with
    | none => exact absurd rfl other
    | some b => exact ⟨[], fun same => empty (solid' b rfl) (same.mp ⟨0, rfl⟩)⟩
  | some a =>
    cases start' with
    | none => exact ⟨[], fun same => empty (solid a rfl) (same.mpr ⟨0, rfl⟩)⟩
    | some b =>
      have other : folded a ≠ folded b := fun same => other (congrArg some same)
      cases Nat.le_total (folded a).length (folded b).length with
      | inl long =>
        obtain ⟨found, missed⟩ := alone (solid a rfl) long other
        exact ⟨a, fun same => missed (same.mp found)⟩
      | inr long =>
        obtain ⟨found, missed⟩ := alone (solid' b rfl) long other.symm
        exact ⟨b, fun same => missed (same.mpr found)⟩

theorem startSought {s t : Option String}
    (same : ∀ body, SameOutcome (extract body ⟨s, none⟩) (extract body ⟨t, none⟩)) : sought s = sought t := by
  by_contra other
  obtain ⟨body, apart⟩ := soleApart (fun _ => Anchor.givenSolid) (fun _ => Anchor.givenSolid) other
  have alone : ∀ s : Option String, (∃ e, extract (.ofList body) ⟨s, none⟩ = .ok e) ↔
      ∃ i, Sole (folded body) 0 (given? s) i := by
    intro s
    rw [extractSucceeds, String.toList_ofList]
    exact exists_congr fun i => ⟨fun found => found.elim fun _ both => both.1, fun sole => ⟨i, sole, rfl⟩⟩
  exact apart (by rw [← alone, ← alone]; exact (same _).succeeds)

theorem stopSought {s t : Option String}
    (same : ∀ body, SameOutcome (extract body ⟨none, s⟩) (extract body ⟨none, t⟩)) : sought s = sought t := by
  by_contra other
  obtain ⟨body, apart⟩ := soleApart (fun _ => Anchor.givenSolid) (fun _ => Anchor.givenSolid) other
  have alone : ∀ s : Option String, (∃ e, extract (.ofList body) ⟨none, s⟩ = .ok e) ↔
      ∃ j, Sole (folded body) 0 (given? s) j := by
    intro s
    rw [extractSucceeds, String.toList_ofList]
    constructor
    · intro found
      obtain ⟨i, j, begins, ends⟩ := found
      cases begins
      exact ⟨j, ends⟩
    · intro found
      obtain ⟨j, ends⟩ := found
      exact ⟨0, j, rfl, ends⟩
  exact apart (by rw [← alone, ← alone]; exact (same _).succeeds)

end ArticleExcerpt

end Syllabus
