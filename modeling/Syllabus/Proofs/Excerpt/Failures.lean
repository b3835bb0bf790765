import Syllabus.Excerpt.Article
import Syllabus.Proofs.Related

/-! Excerpts that fail among others. Each request has its result in its place, and one that fails leaves no trace in the
others: neither in the farthest end so far, from which the text before an excerpt is collapsed, nor in which excerpt
is the last one, behind which the text is. -/
namespace Syllabus.BundledExcerpt

inductive Answers : Except ExcerptFailure ArticleExcerpt → Except ExcerptFailure BundledExcerpt → Prop where
  | taken (excerpt : ArticleExcerpt) (before after : Option String) :
      Answers (.ok excerpt) (.ok ⟨excerpt.content, before, after⟩)
  | failed (failure : ExcerptFailure) : Answers (.error failure) (.error failure)

/-- The requests that stay when some that fail are left out, each with its result. -/
inductive Spared (body : String) : List (ExcerptRequest × Except ExcerptFailure BundledExcerpt) →
    List (ExcerptRequest × Except ExcerptFailure BundledExcerpt) → Prop where
  | nil : Spared body [] []
  | stays {pair more rest} (later : Spared body more rest) : Spared body (pair :: more) (pair :: rest)
  | leaves {request failure result more rest} (fails : ArticleExcerpt.extract body request = .error failure)
      (later : Spared body more rest) : Spared body ((request, result) :: more) rest

def Trails (results : List (Except ExcerptFailure BundledExcerpt)) (i : Nat) : Prop :=
  ∃ bundled, results[i]? = some (.ok bundled) ∧ bundled.after.isSome = true

structure FailuresInert (body : String) (requests : List ExcerptRequest) : Prop where
  each : List.Forall₂ (fun request result => Answers (ArticleExcerpt.extract body request) result) requests
    (ofRequests body requests)
  spared : ∀ kept, Spared body (requests.zip (ofRequests body requests)) kept →
    ofRequests body (kept.map Prod.fst) = kept.map Prod.snd
  once : ∀ i j, Trails (ofRequests body requests) i → Trails (ofRequests body requests) j → i = j
  last : ∀ i, Trails (ofRequests body requests) i →
    ∀ j bundled, (ofRequests body requests)[j]? = some (.ok bundled) → j ≤ i

variable {body : String}

theorem aroundAnswers (body : String) (reach : Nat) (results : List (Except ExcerptFailure ArticleExcerpt)) :
    List.Forall₂ Answers results (around body reach results) := by
  induction results generalizing reach with
  | nil => exact .nil
  | cons result more ih =>
    cases result with
    | error failure => exact .cons (.failed failure) (ih reach)
    | ok excerpt => exact .cons (.taken excerpt _ _) (ih _)

theorem requestsAnswered (body : String) (requests : List ExcerptRequest) :
    List.Forall₂ (fun request result => Answers (ArticleExcerpt.extract body request) result) requests
      (ofRequests body requests) := by
  have answers := aroundAnswers body 0 (requests.map (ArticleExcerpt.extract body))
  rwa [List.forall₂_map_left_iff] at answers

theorem aroundTaken {reach : Nat} {results : List (Except ExcerptFailure ArticleExcerpt)} {bundled : BundledExcerpt}
    (member : .ok bundled ∈ around body reach results) : ∃ excerpt, .ok excerpt ∈ results := by
  obtain ⟨result, inside, answers⟩ := memRelated (aroundAnswers body reach results) member
  cases answers with
  | taken excerpt => exact ⟨excerpt, inside⟩

theorem Spared.successes {all kept : List (ExcerptRequest × Except ExcerptFailure BundledExcerpt)}
    (spared : Spared body all kept) :
    ((kept.map Prod.fst).map (ArticleExcerpt.extract body)).all (fun result => result.toOption.isNone) =
      ((all.map Prod.fst).map (ArticleExcerpt.extract body)).all fun result => result.toOption.isNone := by
  induction spared with
  | nil => rfl
  | stays _ ih => simp only [List.map_cons, List.all_cons, ih]
  | leaves fails _ ih =>
    rw [ih]
    simp [fails, Except.toOption]

theorem aroundSpared {reach : Nat} {requests : List ExcerptRequest}
    {kept : List (ExcerptRequest × Except ExcerptFailure BundledExcerpt)}
    (spared : Spared body (requests.zip (around body reach (requests.map (ArticleExcerpt.extract body)))) kept) :
    around body reach ((kept.map Prod.fst).map (ArticleExcerpt.extract body)) = kept.map Prod.snd := by
  -- A failure hands the farthest end on as it is, so that the rest begins in the same state without it.
  induction requests generalizing reach kept with
  | nil =>
    cases spared
    rfl
  | cons request more ih =>
    rw [List.map_cons] at spared
    cases extracted : ArticleExcerpt.extract body request with
    | error failure =>
      rw [extracted] at spared
      cases spared with
      | stays later => simp only [List.map_cons, extracted, around, ih later]
      | leaves _ later => exact ih later
    | ok excerpt =>
      rw [extracted] at spared
      cases spared with
      | leaves fails _ =>
        rw [extracted] at fails
        cases fails
      | stays later =>
        have long := (aroundAnswers body (max reach excerpt.stop)
          (more.map (ArticleExcerpt.extract body))).length_eq
        have later : Spared body (more.zip _) _ := later
        have last := later.successes
        rw [List.map_fst_zip (by simpa using Nat.le_of_eq long)] at last
        simp only [List.map_cons, extracted, around, ih later, last]

theorem aroundLast {reach : Nat} {results : List (Except ExcerptFailure ArticleExcerpt)} {i j : Nat}
    {bundled : BundledExcerpt} (trails : Trails (around body reach results) i)
    (found : (around body reach results)[j]? = some (.ok bundled)) : j ≤ i := by
  induction results generalizing reach i j with
  | nil => cases found
  | cons result more ih =>
    obtain ⟨other, there, behind⟩ := trails
    cases j with
    | zero => exact Nat.zero_le i
    | succ j =>
      cases i with
      | succ i =>
        cases result with
        | error failure => exact Nat.succ_le_succ (ih ⟨other, there, behind⟩ found)
        | ok excerpt => exact Nat.succ_le_succ (ih ⟨other, there, behind⟩ found)
      | zero =>
        cases result with
        | error failure => cases there
        | ok excerpt =>
          cases there
          -- Text is shown behind an excerpt only when all later requests fail.
          have found : (around body (max reach excerpt.stop) more)[j]? = some (.ok bundled) := found
          obtain ⟨later, member⟩ := aroundTaken (List.mem_of_getElem? found)
          have last : (more.all fun result => result.toOption.isNone) = true := by
            by_contra early
            simp [early] at behind
          have none := List.all_eq_true.mp last _ member
          cases none

theorem failuresInert (body : String) (requests : List ExcerptRequest) : FailuresInert body requests where
  each := requestsAnswered body requests
  spared kept spared := aroundSpared spared
  once i j trails trails' := by
    have ⟨_, there, _⟩ := trails
    have ⟨_, there', _⟩ := trails'
    exact Nat.le_antisymm (aroundLast trails' there) (aroundLast trails there')
  last i trails j bundled found := aroundLast trails found

end Syllabus.BundledExcerpt
