import Syllabus.Proofs.Build.Slugs
import Syllabus.Proofs.Document.Expected
import Syllabus.Proofs.Document.Reach
import Syllabus.Proofs.Expansion.Reach

/-! Builds under different reaches of the suggestions. The documents that are read are the same, and so are the names
that clash, the references that are granted and all that is made. The errors are the same but for what they suggest.
As an error suggests what its file, its line and its message tell, two errors that are one without their suggestions
are one with them, so that as many errors fall together under every reach. -/
namespace Syllabus

def Diagnostic.report (d : Diagnostic) : String × Option Nat × String := (d.file, d.line, d.message)

def Artifact.reports (a : Artifact) : List (String × Option Nat × String) :=
  (a.found.filter Diagnostic.isError).map Diagnostic.report

/-- Two artifacts differ in warnings and in suggestions only. -/
structure Artifact.SameResult (a a' : Artifact) : Prop where
  modules : a.modules = a'.modules
  courses : a.courses = a'.courses
  reports : a.reports = a'.reports
  blocking : a.blocking = a'.blocking

theorem Remark.unlikenedInFile (file : String) (r : Remark) :
    (r.inFile file).unlikened = (r.unlikened.inFile file).unlikened := by
  obtain ⟨line, problem⟩ := r
  cases problem with
  | unknownHeading what heading nearest expected =>
    have bare (nearest : Option String) :
        (inFile file ⟨line, .unknownHeading what heading nearest expected⟩).unlikened =
          ⟨file, line, "Unknown " ++ what ++ " type '" ++ heading ++ "'", none, .error⟩ :=
      if_pos (unknownGuesses what heading)
    exact (bare nearest).trans (bare none).symm
  | _ => rfl

theorem Remark.severeInFile (file : String) (rs : List Remark) :
    Diagnostic.severe (rs.map (inFile file)) = (severe rs).map fun r => (r.inFile file).unlikened := by
  rw [Diagnostic.severe, severe, List.filter_map, List.map_map, List.map_map]
  exact List.map_congr_left fun r _ => unlikenedInFile file r

namespace Build

theorem identitiesPlain {documents : List (String × Document)} {d : Diagnostic} (found : d ∈ Uniqueness.identities documents) :
    guesses d.message = false := by
  obtain ⟨⟨again, first⟩, _, rfl⟩ := List.mem_map.mp found
  open Text in
  exact otherwiseHeaded (c := 'D') (headOfAppend (headOfAppend (headOfAppend (headOfAppend (headOfAppend (headOfAppend
    (headOfAppend rfl))))))) (by decide) (by decide)

theorem slugsPlain {documents : List (String × Document)} {d : Diagnostic} (found : d ∈ Uniqueness.slugs documents) :
    guesses d.message = false := by
  obtain ⟨⟨again, first⟩, _, rfl⟩ := List.mem_map.mp found
  open Text in
  exact otherwiseHeaded (c := 'D') (headOfAppend (headOfAppend (headOfAppend (headOfAppend (headOfAppend rfl)))))
    (by decide) (by decide)

theorem reportsSevere (a : Artifact) : a.reports = (Diagnostic.severe a.found).map Diagnostic.report := by
  rw [Artifact.reports, Diagnostic.severe, List.map_map]
  refine List.map_congr_left fun d _ => ?_
  simp only [Function.comp_apply, Diagnostic.unlikenedEq, Diagnostic.report]

theorem blockingReports (a : Artifact) : a.blocking = !a.reports.isEmpty := by
  rw [Artifact.blocking, Diagnostic.blocking, Artifact.reports, List.isEmpty_map, Bool.eq_iff_iff]
  simp

variable [Library]

section Runs

variable (files : FileMap String) (layout : Layout) (reach reach' : Reach)

theorem indexReach : (expansion files ⟨layout, reach⟩).index = (expansion files ⟨layout, reach'⟩).index := by
  have look : indexed? ⟨layout, reach⟩ = indexed? ⟨layout, reach'⟩ := by
    funext path text
    unfold indexed? Document.parse
    dsimp only
    congr 1
    funext kind
    rw [(Document.readAgree kind reach.fields reach'.fields text).value]
  have same : (expansion files ⟨layout, reach⟩).index.files = (expansion files ⟨layout, reach'⟩).index.files := by
    rw [indexFiles, indexFiles, look]
  exact congrArg (Index.mk · (sidecars files)) same

theorem readingsReach : Diagnostic.severe (readFindings (readFiles files ⟨layout, reach⟩)) =
    Diagnostic.severe (readFindings (readFiles files ⟨layout, reach'⟩)) := by
  have entries (reach : Reach) : Diagnostic.severe (readFindings (readFiles files ⟨layout, reach⟩)) =
      files.entries.flatMap fun entry => Diagnostic.severe (entryFindings ⟨layout, reach⟩ entry) := by
    rw [readFindingsEntries, Diagnostic.severe, List.filter_flatMap, List.map_flatMap]
    rfl
  rw [entries, entries]
  congr 1
  funext entry
  unfold entryFindings
  dsimp only
  split
  · rfl
  · rename_i kind _
    split
    · rfl
    · rw [Document.parse, Document.parse, Remark.severeInFile, Remark.severeInFile,
        (Document.readAgree kind reach.fields reach'.fields entry.2).errors]

def Product.bare : Product × List Diagnostic → Product × List Diagnostic := Prod.map id (List.map Diagnostic.unlikened)

theorem productReach (index : Index) (most most' : Nat) (entry : String × Document) :
    (product? ⟨index, most⟩ entry).map Product.bare = (product? ⟨index, most'⟩ entry).map Product.bare := by
  obtain ⟨path, d⟩ := entry
  cases d with
  | module m =>
    have steps := Expansion.moduleStepsUnlikened index most most' path m
    simp [product?, Product.bare, Expansion.expandModule, Expansion.unlikenedSections steps,
      Expansion.unlikenedFindings steps]
  | course c =>
    have steps := Expansion.courseStepsUnlikened index most most' path c
    simp [product?, Product.bare, Expansion.expandCourse, Expansion.unlikenedSlugs steps,
      Expansion.unlikenedFindings steps]
  | _ => rfl

def products (config : Config) : List (Product × List Diagnostic) :=
  (kept (active (expansion files config).index)).filterMap (product? (expansion files config))

theorem productsReach : (products files ⟨layout, reach⟩).map Product.bare = (products files ⟨layout, reach'⟩).map Product.bare := by
  unfold products
  rw [List.map_filterMap, List.map_filterMap, indexReach files layout reach reach']
  congr 1
  funext entry
  have same : (expansion files ⟨layout, reach⟩) = ⟨(expansion files ⟨layout, reach'⟩).index, reach.files⟩ :=
    congrArg (Expansion.mk · reach.files) (indexReach files layout reach reach')
  rw [same]
  exact productReach ..

theorem productsFound (config : Config) : stages files config =
    readFindings (readFiles files config) ++ (Uniqueness.identities (active (expansion files config).index) ++
      Uniqueness.slugs (active (expansion files config).index)) ++ (products files config).flatMap Prod.snd := rfl

theorem stagesReach : Diagnostic.severe (stages files ⟨layout, reach⟩) = Diagnostic.severe (stages files ⟨layout, reach'⟩) := by
  have walks (reach : Reach) : ((products files ⟨layout, reach⟩).flatMap Prod.snd).map Diagnostic.unlikened =
      ((products files ⟨layout, reach⟩).map Product.bare).flatMap Prod.snd := by
    simp only [List.map_flatMap, List.flatMap_map, Product.bare, Prod.map_snd]
  rw [productsFound, productsFound]
  simp only [Diagnostic.severeAppend, readingsReach files layout reach reach', indexReach files layout reach reach']
  rw [Diagnostic.severeEq ((products files ⟨layout, reach⟩).flatMap Prod.snd), walks, productsReach files layout reach reach',
    ← walks, ← Diagnostic.severeEq]

end Runs

variable {files : FileMap String} {config : Config}

def Asked (files : FileMap String) (config : Config) (d : Diagnostic) : Prop :=
  ∃ text kind x n what heading expected, files.get? d.file = some text ∧ config.layout.kindOf? d.file = some kind ∧
    Frontmatter.extract text = .ok x ∧ d.line = some n ∧ Document.Expects x kind n what expected ∧
    d.message = "Unknown " ++ what ++ " type '" ++ heading ++ "'" ∧
    d.suggestion =
      (Problem.unknownHeading what heading (likened config.reach.fields heading expected) expected).suggestion

theorem askedOnce {d d' : Diagnostic} (asked : Asked files config d) (asked' : Asked files config d')
    (file : d.file = d'.file) (line : d.line = d'.line) (message : d.message = d'.message) : d.suggestion = d'.suggestion := by
  obtain ⟨text, kind, x, n, what, heading, expected, present, placed, extracted, here, expects, worded, suggested⟩ := asked
  obtain ⟨text', kind', x', n', what', heading', expected', present', placed', extracted', here', expects', worded',
    suggested'⟩ := asked'
  rw [← file] at present' placed'
  cases present.symm.trans present'
  cases placed.symm.trans placed'
  cases extracted.symm.trans extracted'
  cases here.symm.trans (line.trans here')
  rw [worded, worded'] at message
  obtain ⟨rfl, rfl⟩ := unknownOnce (Document.expectsWhat expects) (Document.expectsWhat expects') message
  rw [suggested, suggested', Document.expectsOnce expects expects']

theorem readAsked {d : Diagnostic} (found : d ∈ readFindings (readFiles files config)) (severe : d.severity = .error)
    (suggests : guesses d.message = true) : Asked files config d := by
  rw [readFindingsEntries] at found
  obtain ⟨⟨path, text⟩, inside, found⟩ := List.mem_flatMap.mp found
  unfold entryFindings at found
  split at found
  · cases found
  · split at found
    · cases found
    · rename_i kind placed _
      obtain ⟨r, remark, rfl⟩ := List.mem_map.mp found
      have unknown : ∃ what heading nearest expected, r.problem = .unknownHeading what heading nearest expected := by
        by_contra known
        simp only [not_exists] at known
        cases (Problem.plain severe known).symm.trans suggests
      obtain ⟨what, heading, nearest, expected, problem⟩ := unknown
      cases extracted : Frontmatter.extract text with
      | error cause =>
        have none : Remark.Asks config.reach.fields (fun _ _ _ => False) (Document.read kind config.reach.fields text).remarks :=
          Document.readUnreadable extracted
        obtain ⟨_, _, _, never⟩ := none r remark what heading nearest expected problem
        exact never.elim
      | ok x =>
        obtain ⟨rfl, n, line, expects⟩ := Document.readAsks extracted r remark what heading nearest expected problem
        exact ⟨text, kind, x, n, what, heading, expected, FileMap.get?Iff.mpr inside, placed, extracted, line, expects,
          congrArg Problem.message problem, congrArg Problem.suggestion problem⟩

theorem productMisses {d : Diagnostic} (found : d ∈ (products files config).flatMap Prod.snd)
    (suggests : guesses d.message = true) : (expansion files config).Misses d := by
  obtain ⟨product, member, inside⟩ := List.mem_flatMap.mp found
  obtain ⟨⟨path, document⟩, _, made⟩ := List.mem_filterMap.mp member
  cases document with
  | module m =>
    cases made
    exact Expansion.findingsMiss (Expansion.moduleStepsMade _ path m) inside suggests
  | course c =>
    cases made
    exact Expansion.findingsMiss (Expansion.courseStepsMade _ path c) inside suggests
  | _ => cases made

theorem stagesGuess {d : Diagnostic} (found : d ∈ stages files config) (severe : d.severity = .error)
    (suggests : guesses d.message = true) : Asked files config d ∨ (expansion files config).Misses d := by
  rcases List.mem_append.mp found with early | walk
  · rcases List.mem_append.mp early with reading | name
    · exact .inl (readAsked reading severe suggests)
    · rcases List.mem_append.mp name with identity | slug
      · cases (identitiesPlain identity).symm.trans suggests
      · cases (slugsPlain slug).symm.trans suggests
  · exact .inr (productMisses walk suggests)

theorem askedNoMiss {d d' : Diagnostic} (asked : Asked files config d) (misses : (expansion files config).Misses d') :
    d.message ≠ d'.message := by
  obtain ⟨_, _, _, _, what, heading, _, _, _, _, _, _, worded, _⟩ := asked
  obtain ⟨target, missing, _⟩ := misses
  intro same
  have head : d.message.toList.head? = some 'U' := by
    rw [worded]
    exact Text.headOfAppend (Text.headOfAppend (Text.headOfAppend (Text.headOfAppend rfl)))
  rw [same, missing, Text.headOfAppend (c := 'R') (Text.headOfAppend rfl)] at head
  exact absurd (Option.some.inj head) (by decide)

theorem stagesApart {d d' : Diagnostic} (found : d ∈ stages files config) (found' : d' ∈ stages files config)
    (severe : d.severity = .error) (same : d.unlikened = d'.unlikened) : d = d' := by
  rw [Diagnostic.unlikenedEq, Diagnostic.unlikenedEq, Diagnostic.mk.injEq] at same
  obtain ⟨file, line, message, suggestion, severity⟩ := same
  have suggestions : d.suggestion = d'.suggestion := by
    cases suggests : guesses d.message with
    | false => simpa [← message, suggests] using suggestion
    | true =>
      rcases stagesGuess found severe suggests with asked | misses
      · rcases stagesGuess found' (severity ▸ severe) (message ▸ suggests) with asked' | misses'
        · exact askedOnce asked asked' file line message
        · exact (askedNoMiss asked misses' message).elim
      · rcases stagesGuess found' (severity ▸ severe) (message ▸ suggests) with asked' | misses'
        · exact (askedNoMiss asked' misses message.symm).elim
        · exact Expansion.missesOnce misses misses' file message
  cases d
  cases d'
  cases file
  cases line
  cases message
  cases suggestions
  cases severity
  rfl

theorem errorsTold (files : FileMap String) (config : Config) :
    Diagnostic.severe (run files config).found = (Diagnostic.severe (stages files config)).eraseDups := by
  rw [runFound, Diagnostic.severe, eraseDupsFilter, Diagnostic.severe, eraseDupsMap]
  intro d left d' right same
  simp only [List.mem_filter, Diagnostic.isError, beq_iff_eq] at left right
  exact stagesApart left.1 right.1 left.2 same

theorem sameAtAnyReach (files : FileMap String) (layout : Layout) (reach reach' : Reach) :
    Artifact.SameResult (run files ⟨layout, reach⟩) (run files ⟨layout, reach'⟩) := by
  have made {β : Type} (f : Product → Option β) (reach : Reach) :
      (products files ⟨layout, reach⟩).filterMap (fun product => f product.1) =
        ((products files ⟨layout, reach⟩).map Product.bare).filterMap fun product => f product.1 := by
    rw [List.filterMap_map]
    rfl
  have reports : (run files ⟨layout, reach⟩).reports = (run files ⟨layout, reach'⟩).reports := by
    rw [reportsSevere, errorsTold, stagesReach files layout reach reach', ← errorsTold, ← reportsSevere]
  constructor
  · exact (made Product.module? reach).trans (productsReach files layout reach reach' ▸ (made Product.module? reach').symm)
  · exact (made Product.course? reach).trans (productsReach files layout reach reach' ▸ (made Product.course? reach').symm)
  · exact reports
  · rw [blockingReports, blockingReports, reports]

end Build
end Syllabus
