import Syllabus.Build
import Syllabus.Proofs.Document.Accepted
import Syllabus.Proofs.Expansion.Verdict

/-! What a build takes from its files, entry by entry. A document that was read has the tier that its
text shows, so that one look at a file tells whether it takes part, whether or not it can be read. -/
namespace Syllabus.Build

theorem notMarkdown {path : String} (sidecar : VaultPath.isSidecar path = true) :
    VaultPath.isMarkdown path = false := by
  cases markdown : VaultPath.isMarkdown path with
  | false => rfl
  | true =>
    obtain ⟨before, ends⟩ := List.isSuffixOf_iff_suffix.mp sidecar
    obtain ⟨before', ends'⟩ := List.isSuffixOf_iff_suffix.mp markdown
    -- One ending has the last letter n, the other one d.
    have last := congrArg List.getLast? (ends.trans ends'.symm)
    simp [VaultPath.sidecarExtension, VaultPath.extension] at last

section Entries

variable [Library]

theorem parseTier {kind : Kind} {most : Nat} {path text : String} {d : Document}
    (read : (Document.parse kind most path text).value = some d) : d.tier = tierOfText text := by
  obtain ⟨x, source⟩ := Document.readSource read
  simp only [tierOfText, source.extracted, (Document.bodyValue source.value).2]

theorem parseKind {kind : Kind} {most : Nat} {path text : String} {d : Document}
    (read : (Document.parse kind most path text).value = some d) : d.kind = kind := by
  obtain ⟨x, source⟩ := Document.readSource read
  exact (Document.bodyValue source.value).1

theorem readFileEq (config : Config) (path text : String) :
    readFile config path text = (config.layout.kindOf? path).map fun kind =>
      ⟨kind, tierOfText text, Document.parse kind config.reach.fields path text⟩ := by
  unfold readFile
  congr 1
  funext kind
  simp only [ReadFile.mk.injEq, true_and, and_true]
  cases read : (Document.parse kind config.reach.fields path text).value with
  | none => rfl
  | some d => exact parseTier read

def indexed? (config : Config) (path text : String) : Option IndexedFile :=
  (config.layout.kindOf? path).map fun kind =>
    ⟨kind, tierOfText text, (Document.parse kind config.reach.fields path text).value⟩

def expansion (files : FileMap String) (config : Config) : Expansion :=
  ⟨indexOf (readFiles files config) (sidecars files), config.reach.files⟩

theorem indexFiles (files : FileMap String) (config : Config) :
    (expansion files config).index.files = files.filterMap (indexed? config) := by
  simp only [expansion, indexOf, readFiles, FileMap.filterMapTwice]
  congr 1
  funext path text
  rw [readFileEq, indexed?]
  cases config.layout.kindOf? path <;> rfl

theorem getIndexed {files : FileMap String} {config : Config} {path : String} {file : IndexedFile} :
    (expansion files config).index.get? path = some file ↔
      ∃ text, files.get? path = some text ∧ indexed? config path text = some file := by
  rw [Index.get?, indexFiles, FileMap.get?FilterMap]

theorem indexFiled (files : FileMap String) (config : Config) : (expansion files config).index.Filed := by
  intro path file d found read
  obtain ⟨text, _, made⟩ := getIndexed.mp found
  obtain ⟨kind, _, rfl⟩ := Option.map_eq_some_iff.mp made
  exact @parseKind _ kind config.reach.fields path text d read

def activeDocument? (config : Config) (entry : String × String) : Option (String × Document) :=
  (config.layout.kindOf? entry.1).bind fun kind =>
    if (tierOfText entry.2).isIgnored then none
    else (Document.parse kind config.reach.fields entry.1 entry.2).value.map fun d => (entry.1, d)

theorem activeEntries (files : FileMap String) (config : Config) :
    active (expansion files config).index = files.entries.filterMap (activeDocument? config) := by
  simp only [active, Index.documents, indexFiles, FileMap.filterMap, FileMap.filterMapEntries,
    List.filterMap_filterMap, List.filter_filterMap]
  congr 1
  funext entry
  obtain ⟨path, text⟩ := entry
  simp only [indexed?, activeDocument?]
  cases config.layout.kindOf? path with
  | none => rfl
  | some kind =>
    cases read : (Document.parse kind config.reach.fields path text).value with
    | none => simp [read]
    | some d =>
      cases ignored : (tierOfText text).isIgnored <;>
        simp [read, parseTier read, ignored, Option.filter]

def entryFindings (config : Config) (entry : String × String) : List Diagnostic :=
  match config.layout.kindOf? entry.1 with
  | none => []
  | some kind =>
    if (tierOfText entry.2).isIgnored then []
    else (Document.parse kind config.reach.fields entry.1 entry.2).found

theorem readFindingsEntries (files : FileMap String) (config : Config) :
    readFindings (readFiles files config) = files.entries.flatMap (entryFindings config) := by
  simp only [readFindings, readFiles, FileMap.filterMap, FileMap.filterMapEntries, readFileEq]
  induction files.entries with
  | nil => rfl
  | cons entry more ih =>
    obtain ⟨path, text⟩ := entry
    simp only [List.filterMap_cons, List.flatMap_cons, entryFindings]
    cases config.layout.kindOf? path with
    | none => simpa using ih
    | some kind => simpa using ih

def stages (files : FileMap String) (config : Config) : List Diagnostic :=
  let x := expansion files config
  let documents := active x.index
  readFindings (readFiles files config) ++ (Uniqueness.identities documents ++ Uniqueness.slugs documents)
    ++ ((kept documents).filterMap (product? x)).flatMap Prod.snd

theorem runFound (files : FileMap String) (config : Config) :
    (run files config).found = (stages files config).eraseDups := rfl

end Entries

def introText : String :=
  "---\nslug: a\ntitle: A\n---\n# Page: P\n## Text\ncontent:: Hi\n# Learning Outcome:\nsource:: [[o]]\n"

def introVault (outcome : String) : FileMap String :=
  ⟨[("learning-outcomes/o.md", outcome), ("modules/a.md", introText)],
    by simp only [List.map_cons, List.map_nil]; decide⟩

def setAside : String :=
  "---\nid: 6ba7b810-9dad-11d1-80b4-00c04fd430c8\ntags: [ignored]\n---\n## Lens:\nsource:: [[l]]\n"

def setAsideBroken : String := "---\ntags: [ignored]\n---\n"

theorem setAsideIgnored : (tierOfText setAside).isIgnored = true := by decide +kernel

theorem setAsideBrokenIgnored : (tierOfText setAsideBroken).isIgnored = true := by decide +kernel

end Syllabus.Build
