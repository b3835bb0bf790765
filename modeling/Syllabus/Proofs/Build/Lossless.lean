import Syllabus.Proofs.Build.Entries
import Syllabus.Proofs.Document.Rejection
import Syllabus.Proofs.Expansion.Complete
import Syllabus.Proofs.Related

/-! A build without errors loses nothing. Every module and every course of the vault that takes part is
in the artifact, in the order of the paths, with all that it refers to and all that its sections hold;
what is left out is ignored. A document that cannot be read, a slug that repeats, a reference that
leads nowhere or an excerpt that cannot be taken is an error. -/
namespace Syllabus

namespace Diagnostic

theorem quietOfSubset {ds es : List Diagnostic} (quiet : blocking ds = false) (inside : ∀ d ∈ es, d ∈ ds) :
    blocking es = false := by
  rw [← Bool.not_eq_true, blockingIff] at quiet ⊢
  rintro ⟨d, member, severe⟩
  exact quiet ⟨d, inside d member, severe⟩

end Diagnostic

namespace Build

theorem keptAll {documents : List (String × Document)}
    (quiet : Diagnostic.blocking (Uniqueness.slugs documents) = false) : kept documents = documents := by
  have none : Uniqueness.slugRepeats documents = [] := by
    cases repeats : Uniqueness.slugRepeats documents with
    | nil => rfl
    | cons place more =>
      rw [Uniqueness.slugs, repeats] at quiet
      cases quiet
  simp [kept, Uniqueness.dropped, none]

section Complete

variable [Library]

structure ReadFrom (config : Config) (path text : String) (file : IndexedFile) (d : Document) : Prop where
  kind : config.layout.kindOf? path = some file.kind
  tier : file.tier = tierOfText text
  parsed : (Document.parse file.kind config.reach.fields path text).value = some d
  written : ∃ x, Frontmatter.extract text = .ok x ∧ d.Written x

def sources (files : FileMap String) (config : Config) (kind : Kind) : List (String × String) :=
  files.entries.filter fun entry => config.layout.kindOf? entry.1 == some kind && !(tierOfText entry.2).isIgnored

def ModuleBuilt (files : FileMap String) (config : Config) (entry : String × String) (made : Artifact.Module) : Prop :=
  ∃ m, (Document.parse .module config.reach.fields entry.1 entry.2).value = some (.module m) ∧
    m.Shown (expansion files config) entry.1 made

def CourseBuilt (files : FileMap String) (config : Config) (entry : String × String) (made : Artifact.Course) : Prop :=
  ∃ c, (Document.parse .course config.reach.fields entry.1 entry.2).value = some (.course c) ∧
    c.Shown (expansion files config) entry.1 made

/-- An artifact that holds all that a vault shows. -/
structure Complete (files : FileMap String) (config : Config) (a : Artifact) : Prop where
  modules : List.Forall₂ (ModuleBuilt files config) (sources files config .module) a.modules
  courses : List.Forall₂ (CourseBuilt files config) (sources files config .course) a.courses
  texts : ∀ path file d, (expansion files config).index.get? path = some file → file.document = some d →
    ∃ text, files.get? path = some text ∧ ReadFrom config path text file d

variable {files : FileMap String} {config : Config}

theorem indexedRead {path : String} {file : IndexedFile} {d : Document}
    (found : (expansion files config).index.get? path = some file) (read : file.document = some d) :
    ∃ text, files.get? path = some text ∧ ReadFrom config path text file d := by
  obtain ⟨text, present, made⟩ := getIndexed.mp found
  obtain ⟨kind, placed, rfl⟩ := Option.map_eq_some_iff.mp made
  obtain ⟨x, source⟩ := Document.readSource read
  exact ⟨text, present, placed, rfl, read, x, source.extracted, Document.bodyWritten source.value source.quiet⟩

theorem expansionProper (files : FileMap String) (config : Config) : (expansion files config).Proper where
  filed := indexFiled files config
  kept path file d found read := by
    obtain ⟨text, _, source⟩ := indexedRead found read
    obtain ⟨x, _, written⟩ := source.written
    exact Document.keptOfWritten written

theorem parseLoud {kind : Kind} (named : kind = .module ∨ kind = .course) {most : Nat} {path text : String}
    (quiet : (Document.parse kind most path text).blocking = false) :
    ∃ d, (Document.parse kind most path text).value = some d ∧ d.kind = kind := by
  rw [Document.parseBlocking] at quiet
  cases value : (Document.parse kind most path text).value with
  | some d => exact ⟨d, rfl, parseKind value⟩
  | none =>
    obtain ⟨identified, _⟩ := (Document.readSilentIff kind most text).mp ⟨value, quiet⟩
    rcases named with rfl | rfl <;> rcases identified with same | same <;> cases same

def product (files : FileMap String) (config : Config) (entry : String × String) :
    Option (Product × List Diagnostic) :=
  (activeDocument? config entry).bind (product? (expansion files config))

theorem sourceActive {kind : Kind} (named : kind = .module ∨ kind = .course) {entry : String × String}
    (source : entry ∈ sources files config kind) (quiet : Diagnostic.blocking (entryFindings config entry) = false) :
    ∃ d, d.kind = kind ∧ (Document.parse kind config.reach.fields entry.1 entry.2).value = some d ∧
      activeDocument? config entry = some (entry.1, d) := by
  obtain ⟨member, chosen⟩ := List.mem_filter.mp source
  simp only [Bool.and_eq_true, beq_iff_eq, Bool.not_eq_true'] at chosen
  obtain ⟨placed, active⟩ := chosen
  simp only [entryFindings, placed, active, Bool.false_eq_true, if_false] at quiet
  obtain ⟨d, read, same⟩ := parseLoud named quiet
  refine ⟨d, same, read, ?_⟩
  simp only [activeDocument?, placed, Option.bind_some, active, Bool.false_eq_true, if_false, read, Option.map_some]

theorem otherKind {kind : Kind} {entry : String × String} {path : String} {d : Document}
    (other : (config.layout.kindOf? entry.1 == some kind && !(tierOfText entry.2).isIgnored) = false)
    (active : activeDocument? config entry = some (path, d)) : d.kind ≠ kind := by
  obtain ⟨found, placed, made⟩ := Option.bind_eq_some_iff.mp active
  rintro rfl
  split at made
  · cases made
  · rename_i kept
    obtain ⟨d, read, same⟩ := Option.map_eq_some_iff.mp made
    cases same
    have kind := parseKind read
    subst kind
    simp [placed, kept] at other

structure Clean (files : FileMap String) (config : Config) : Prop where
  read : ∀ entry ∈ files.entries, Diagnostic.blocking (entryFindings config entry) = false
  slugs : Diagnostic.blocking (Uniqueness.slugs (active (expansion files config).index)) = false
  products : ∀ product ∈ (kept (active (expansion files config).index)).filterMap (product? (expansion files config)),
    Diagnostic.blocking product.2 = false

theorem cleanOfRun (quiet : (run files config).blocking = false) : Clean files config := by
  have whole : Diagnostic.blocking (stages files config) = false := by
    refine Diagnostic.quietOfSubset quiet fun d found => ?_
    rw [runFound]
    exact List.mem_eraseDups.mpr found
  refine ⟨fun entry member => Diagnostic.quietOfSubset whole fun d found => ?_,
    Diagnostic.quietOfSubset whole fun d found => ?_,
    fun product member => Diagnostic.quietOfSubset whole fun d found => ?_⟩
  · have inside : d ∈ readFindings (readFiles files config) := by
      rw [readFindingsEntries]
      exact List.mem_flatMap.mpr ⟨entry, member, found⟩
    exact List.mem_append_left _ (List.mem_append_left _ inside)
  · exact List.mem_append_left _ (List.mem_append_right _ (List.mem_append_right _ found))
  · exact List.mem_append_right _ (List.mem_flatMap.mpr ⟨product, member, found⟩)

theorem cleanProducts (clean : Clean files config) :
    (kept (active (expansion files config).index)).filterMap (product? (expansion files config)) =
      files.entries.filterMap (product files config) := by
  rw [keptAll clean.slugs, activeEntries, List.filterMap_filterMap]
  rfl

theorem productQuiet (clean : Clean files config) {entry : String × String} (member : entry ∈ files.entries)
    {made : Product × List Diagnostic} (here : product files config entry = some made) :
    Diagnostic.blocking made.2 = false := by
  apply clean.products made
  rw [cleanProducts clean]
  exact List.mem_filterMap.mpr ⟨entry, member, here⟩

theorem sourcesBuilt {β : Type} {R : String × String → β → Prop} {pick : Product → Option β} {kind : Kind}
    (clean : Clean files config) (named : kind = .module ∨ kind = .course)
    (makes : ∀ entry d, d.kind = kind →
      (Document.parse kind config.reach.fields entry.1 entry.2).value = some d →
      ∃ made b, product? (expansion files config) (entry.1, d) = some made ∧ pick made.1 = some b ∧
        (Diagnostic.blocking made.2 = false → R entry b))
    (others : ∀ path d, d.kind ≠ kind →
      ((product? (expansion files config) (path, d)).bind fun made => pick made.1) = none) :
    List.Forall₂ R (sources files config kind)
      ((files.entries.filterMap (product files config)).filterMap fun product => pick product.1) := by
  rw [List.filterMap_filterMap]
  refine filterMapOfChosen ?_ ?_
  · intro entry member chosen
    have source : entry ∈ sources files config kind := List.mem_filter.mpr ⟨member, chosen⟩
    obtain ⟨d, same, read, active⟩ := sourceActive named source (clean.read entry member)
    obtain ⟨made, b, here, picked, related⟩ := makes entry d same read
    have here : product files config entry = some made := by rw [product, active, Option.bind_some, here]
    exact ⟨b, by rw [here, Option.bind_some, picked], related (productQuiet clean member here)⟩
  · intro entry member other
    cases active : activeDocument? config entry with
    | none => rw [product, active, Option.bind_none, Option.bind_none]
    | some pair =>
      rw [product, active, Option.bind_some]
      exact others pair.1 pair.2 (otherKind other active)

theorem modulesBuilt (clean : Clean files config) :
    List.Forall₂ (ModuleBuilt files config) (sources files config .module)
      ((files.entries.filterMap (product files config)).filterMap fun product => product.1.module?) := by
  refine sourcesBuilt clean (.inl rfl) ?_ ?_
  · intro entry d kind read
    cases d with
    | module m =>
      refine ⟨_, _, rfl, rfl, fun quiet => ⟨m, read, ?_⟩⟩
      exact Expansion.moduleShown (expansionProper files config) (Document.parsedKept read) quiet
    | _ => cases kind
  · intro path d other
    cases d with
    | module m => exact absurd rfl other
    | _ => rfl

theorem coursesBuilt (clean : Clean files config) :
    List.Forall₂ (CourseBuilt files config) (sources files config .course)
      ((files.entries.filterMap (product files config)).filterMap fun product => product.1.course?) := by
  refine sourcesBuilt clean (.inr rfl) ?_ ?_
  · intro entry d kind read
    cases d with
    | course c =>
      refine ⟨_, _, rfl, rfl, fun quiet => ⟨c, read, ?_⟩⟩
      exact Expansion.courseShown (expansionProper files config) quiet
    | _ => cases kind
  · intro path d other
    cases d with
    | course c => exact absurd rfl other
    | _ => rfl

theorem cleanBuildComplete (clean : (run files config).blocking = false) :
    Complete files config (run files config) := by
  have clean := cleanOfRun clean
  have products := cleanProducts clean
  simp only [expansion] at products
  refine ⟨?_, ?_, fun path file d found read => indexedRead found read⟩
  · simp only [run, products]
    exact modulesBuilt clean
  · simp only [run, products]
    exact coursesBuilt clean

end Complete

def primerArticle : String := "---\ntitle: A\nauthor: B\nsource_url: u\n---\nx y.\n"

def primerLens : String :=
  "---\nid: 6ba7b810-9dad-11d1-80b4-00c04fd430c8\n---\n### Article:\nsource:: [[a]]\n#### Article Excerpt\nfrom:: y\n"

def primerOutcome : String := "---\nid: 550e8400-e29b-41d4-a716-446655440000\n---\n## Lens:\nsource:: [[l]]\n"

def primerModule : String := "---\nslug: m\ntitle: M\n---\n# Learning Outcome:\nsource:: [[o]]\n"

def primerVault : FileMap String :=
  ⟨[("articles/a.md", primerArticle), ("courses/c.md", "---\nslug: c\ntitle: C\n---\n# Module: [[m]]\n"),
      ("learning outcomes/o.md", primerOutcome), ("lenses/l.md", primerLens), ("modules/m.md", primerModule)],
    by simp only [List.map_cons, List.map_nil]; decide⟩

def primerArtifact : Artifact where
  modules :=
    [⟨"m", "M", none, none, .production,
      [⟨.article, "", none, some "550e8400-e29b-41d4-a716-446655440000", some "6ba7b810-9dad-11d1-80b4-00c04fd430c8",
        false, some (.article "A" "B" "u" none), [.articleExcerpt "y." (some "x") none false]⟩]⟩]
  courses := [⟨"c", "C", ["m"]⟩]
  found := []

theorem primerVaultComplete : run primerVault .standard = primerArtifact ∧
    (run primerVault .standard).blocking = false ∧ Complete primerVault .standard (run primerVault .standard) := by
  have made : run primerVault .standard = primerArtifact := by decide +kernel
  have clean : (run primerVault .standard).blocking = false := by
    rw [made]
    rfl
  exact ⟨made, clean, cleanBuildComplete clean⟩

end Build
end Syllabus
