import Syllabus.Proofs.Build.Entries
import Syllabus.Proofs.Expansion.Alike
import Syllabus.Proofs.Related

/-! Ignored files take no part in a build. Two vaults with the same paths whose texts differ only in
documents that are ignored in both give one artifact, whether or not the ignored texts can be read:
they are known by path, kind and tier alone, and none of these differs. -/
namespace Syllabus.Build

theorem productEq {x x' : Expansion} (alike : Expansion.Alike Eq x x') (entry : String × Document) :
    product? x entry = product? x' entry := by
  obtain ⟨path, d⟩ := entry
  cases d with
  | module m =>
    have steps := Expansion.stepsEq (Expansion.moduleStepsAlike alike path m rfl)
    simp only [product?, Expansion.expandModule, steps]
  | course c =>
    have steps := Expansion.stepsEq (Expansion.courseStepsAlike alike path c rfl)
    simp only [product?, Expansion.expandCourse, steps]
  | _ => rfl

section Masked

variable [Library]

/-- Texts at a path that are equal or both those of an ignored document. -/
def Masked (config : Config) (path text text' : String) : Prop :=
  text = text' ∨
    (config.layout.kindOf? path).isSome ∧ (tierOfText text).isIgnored ∧ (tierOfText text').isIgnored

def EntryMasked (config : Config) (entry entry' : String × String) : Prop :=
  entry.1 = entry'.1 ∧ Masked config entry.1 entry.2 entry'.2

theorem activeMasked {config : Config} {entry entry' : String × String} (masked : EntryMasked config entry entry') :
    activeDocument? config entry = activeDocument? config entry' := by
  obtain ⟨path, text⟩ := entry
  obtain ⟨path', text'⟩ := entry'
  obtain ⟨rfl, rfl | ⟨_, left, right⟩⟩ := masked
  · rfl
  · simp only [activeDocument?, if_pos left, if_pos right]

theorem findingsMasked {config : Config} {entry entry' : String × String} (masked : EntryMasked config entry entry') :
    entryFindings config entry = entryFindings config entry' := by
  obtain ⟨path, text⟩ := entry
  obtain ⟨path', text'⟩ := entry'
  obtain ⟨rfl, rfl | ⟨_, left, right⟩⟩ := masked
  · rfl
  · simp only [entryFindings, if_pos left, if_pos right]

theorem indexedMasked {config : Config} {entry entry' : String × String} (masked : EntryMasked config entry entry') :
    Option.Rel (IndexedFile.Alike Eq) (indexed? config entry.1 entry.2) (indexed? config entry'.1 entry'.2) := by
  obtain ⟨path, text⟩ := entry
  obtain ⟨path', text'⟩ := entry'
  obtain ⟨rfl, same⟩ := masked
  simp only [indexed?]
  cases config.layout.kindOf? path with
  | none => exact .none
  | some kind =>
    refine .some ?_
    rcases same with rfl | ⟨_, left, right⟩
    · exact IndexedFile.alikeRefl (fun _ => rfl) _
    · refine ⟨rfl, left.trans right.symm, fun active => ?_, fun active => ?_⟩
      · rw [left] at active
        cases active
      · rw [left] at active
        cases active

theorem sidecarMasked {config : Config} {entry entry' : String × String} (masked : EntryMasked config entry entry')
    (sidecar : VaultPath.isSidecar entry.1 = true) : entry = entry' := by
  obtain ⟨path, text⟩ := entry
  obtain ⟨path', text'⟩ := entry'
  obtain ⟨rfl, rfl | ⟨kind, _⟩⟩ := masked
  · rfl
  · simp [Layout.kindOf?, notMarkdown sidecar] at kind

theorem expansionMasked {files files' : FileMap String} {config : Config}
    (masked : List.Forall₂ (EntryMasked config) files.entries files'.entries) :
    Expansion.Alike Eq (expansion files config) (expansion files' config) := by
  refine ⟨⟨?_, ?_⟩, rfl, rfl⟩
  · rw [indexFiles, indexFiles]
    simp only [FileMap.filterMap, FileMap.filterMapEntries]
    refine List.rel_filterMap ?_ masked
    intro entry entry' same
    have related := indexedMasked same
    obtain ⟨path, text⟩ := entry
    obtain ⟨path', text'⟩ := entry'
    obtain ⟨rfl, _⟩ := same
    simp only at related ⊢
    generalize indexed? config path text = made, indexed? config path text' = made' at related ⊢
    cases related with
    | none => exact .none
    | some files => exact .some ⟨rfl, files⟩
  · apply FileMap.eqOfEntries
    simp only [expansion, indexOf, sidecars, FileMap.filterMap, FileMap.filterMapEntries]
    refine filterMapRelated masked ?_
    intro entry entry' same
    by_cases sidecar : VaultPath.isSidecar entry.1 = true
    · rw [sidecarMasked same sidecar]
    · have sidecar' : ¬VaultPath.isSidecar entry'.1 = true := same.1 ▸ sidecar
      simp only [if_neg sidecar, if_neg sidecar', Option.map_none]

theorem ignoredTextsInert {config : Config} {files files' : FileMap String} (paths : files.paths = files'.paths)
    (masked : ∀ path text text', files.get? path = some text → files'.get? path = some text' →
      Masked config path text text') :
    run files config = run files' config := by
  have entries : List.Forall₂ (EntryMasked config) files.entries files'.entries :=
    FileMap.entriesRelated paths masked
  have alike := expansionMasked entries
  have findings : readFindings (readFiles files config) = readFindings (readFiles files' config) := by
    rw [readFindingsEntries, readFindingsEntries]
    exact flatMapRelated entries fun _ _ same => findingsMasked same
  have documents : active (expansion files config).index = active (expansion files' config).index := by
    rw [activeEntries, activeEntries]
    exact filterMapRelated entries fun _ _ same => activeMasked same
  have products : product? (expansion files config) = product? (expansion files' config) :=
    funext (productEq alike)
  simp only [expansion] at documents products
  simp only [run, findings, documents, products]

end Masked

theorem introVaultsMasked :
    ∀ path text text', (introVault setAside).get? path = some text →
      (introVault setAsideBroken).get? path = some text' → Masked .standard path text text' := by
  intro path text text' left right
  rw [FileMap.get?Iff] at left right
  simp only [introVault, List.mem_cons, Prod.mk.injEq, List.not_mem_nil, or_false] at left right
  rcases left with ⟨rfl, rfl⟩ | ⟨rfl, rfl⟩
  · rcases right with ⟨_, rfl⟩ | ⟨other, _⟩
    · exact .inr ⟨by decide +kernel, setAsideIgnored, setAsideBrokenIgnored⟩
    · exact absurd other (by decide)
  · rcases right with ⟨other, _⟩ | ⟨_, rfl⟩
    · exact absurd other (by decide)
    · exact .inl rfl

theorem brokenOutcomeInert :
    (Document.parse .learningOutcome 2 "learning-outcomes/o.md" setAside).value.isSome = true ∧
      (Document.parse .learningOutcome 2 "learning-outcomes/o.md" setAsideBroken).value = none ∧
      run (introVault setAside) .standard = run (introVault setAsideBroken) .standard :=
  ⟨by decide +kernel, by decide +kernel, ignoredTextsInert rfl introVaultsMasked⟩

end Syllabus.Build
