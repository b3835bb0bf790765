import Syllabus.Expansion
import Syllabus.Proofs.FileMap

/-! What comes of a reference. A link that is resolved leads to an indexed file, so that looking a
reference up ends in one of six ways, each with the checks that were passed before it. A reference
that is refused is reported; one that is skipped is not. -/
namespace Syllabus

theorem Index.resolveIndexed {index : Index} {origin : String} {link : WikiLink} {most : Nat} {path : String}
    (resolved : index.resolve origin link most = .ok path) : ∃ file, index.get? path = some file := by
  apply FileMap.containsIff.mp
  unfold resolve at resolved
  simp only at resolved
  split at resolved
  · rename_i beside
    rw [← Except.ok.inj resolved]
    exact beside
  · split at resolved
    · rename_i root
      rw [← Except.ok.inj resolved]
      exact root
    · split at resolved
      · cases resolved
      · rename_i one single
        have named : one ∈ index.named (VaultPath.withExtension (Text.trim link.target)) := by
          rw [single]
          exact List.mem_singleton_self one
        rw [← Except.ok.inj resolved]
        exact List.contains_iff_mem.mpr (List.mem_filter.mp named).1
      · cases resolved

def Index.Filed (index : Index) : Prop :=
  ∀ path file document, index.get? path = some file → file.document = some document → document.kind = file.kind

namespace Expansion

structure Leads (x : Expansion) (origin : Referrer) (reference : Reference) (expected : Kind)
    (path : String) (file : IndexedFile) : Prop where
  resolved : x.index.resolve origin.path reference.link x.most = .ok path
  fresh : path ∉ origin.chain
  found : x.index.get? path = some file
  kind : file.kind = expected

inductive Judged (x : Expansion) (origin : Referrer) (reference : Reference) (expected : Kind) : Verdict → Prop where
  | unresolved {cause} (failed : x.index.resolve origin.path reference.link x.most = .error cause) :
      Judged x origin reference expected (.refused (.unresolved cause))
  | circular {path} (resolved : x.index.resolve origin.path reference.link x.most = .ok path)
      (closed : path ∈ origin.chain) :
      Judged x origin reference expected (.refused (.circular origin.chain path))
  | wrongKind {path file} (resolved : x.index.resolve origin.path reference.link x.most = .ok path)
      (fresh : path ∉ origin.chain) (found : x.index.get? path = some file) (other : file.kind ≠ expected) :
      Judged x origin reference expected (.refused (.wrongKind path expected file.kind))
  | skipped {path file} (leads : Leads x origin reference expected path file)
      (ignored : file.tier.isIgnored = true) :
      Judged x origin reference expected (.skipped path)
  | rejected {path file} (leads : Leads x origin reference expected path file)
      (active : file.tier.isIgnored = false) (broken : file.document = none) :
      Judged x origin reference expected (.refused (.rejected path))
  | accepted {path file document} (leads : Leads x origin reference expected path file)
      (active : file.tier.isIgnored = false) (read : file.document = some document) :
      Judged x origin reference expected (.accepted path document (origin.tier.violatedBy file.tier))

theorem judged (x : Expansion) (origin : Referrer) (reference : Reference) (expected : Kind) :
    Judged x origin reference expected (x.verdict origin reference expected) := by
  unfold verdict
  cases resolved : x.index.resolve origin.path reference.link x.most with
  | error cause => exact .unresolved resolved
  | ok path =>
    obtain ⟨file, found⟩ := Index.resolveIndexed resolved
    simp only [found]
    split
    · rename_i closed
      exact .circular resolved (by simpa using closed)
    · rename_i fresh
      have fresh : path ∉ origin.chain := by simpa using fresh
      split
      · rename_i other
        exact .wrongKind resolved fresh found other
      · rename_i kind
        have leads : Leads x origin reference expected path file := ⟨resolved, fresh, found, not_not.mp kind⟩
        cases ignored : file.tier.isIgnored with
        | true => exact .skipped leads ignored
        | false =>
          cases read : file.document with
          | none => exact .rejected leads ignored read
          | some document => exact .accepted leads ignored read

end Expansion
end Syllabus
