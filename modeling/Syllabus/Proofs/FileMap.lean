import Mathlib.Data.List.Forall2
import Syllabus.FileMap

/-! Looking up in file maps. A path has at most one entry, so that looking up, being an entry and
being among the paths say the same, also after the values were mapped. -/
namespace Syllabus.FileMap

variable {α β : Type}

theorem uniqueValue {entries : List (String × α)} (ordered : (entries.map Prod.fst).Pairwise (· < ·))
    {path : String} {a b : α} (left : (path, a) ∈ entries) (right : (path, b) ∈ entries) : a = b := by
  induction entries with
  | nil => cases left
  | cons entry more ih =>
    simp only [List.map_cons, List.pairwise_cons] at ordered
    have later : ∀ {c : α}, (path, c) ∈ more → entry.1 ≠ path := by
      intro c member same
      exact String.lt_irrefl path (same ▸ ordered.1 path (List.mem_map.mpr ⟨_, member, rfl⟩))
    rcases List.mem_cons.mp left with rfl | leftMore
    · rcases List.mem_cons.mp right with same | rightMore
      · exact (Prod.mk.inj same).2.symm
      · exact absurd rfl (later rightMore)
    · rcases List.mem_cons.mp right with rfl | rightMore
      · exact absurd rfl (later leftMore)
      · exact ih ordered.2 leftMore rightMore

theorem get?Iff {m : FileMap α} {path : String} {a : α} :
    m.get? path = some a ↔ (path, a) ∈ m.entries := by
  constructor
  · intro found
    obtain ⟨⟨other, b⟩, hit, same⟩ := Option.map_eq_some_iff.mp found
    have key : other = path := by simpa using List.find?_some hit
    subst key
    cases same
    exact List.mem_of_find?_eq_some hit
  · intro member
    cases hit : m.entries.find? fun entry => entry.1 == path with
    | none => exact absurd (List.find?_eq_none.mp hit _ member) (by simp)
    | some entry =>
      obtain ⟨other, b⟩ := entry
      have key : other = path := by simpa using List.find?_some hit
      subst key
      have same : b = a := uniqueValue m.ordered (List.mem_of_find?_eq_some hit) member
      simp [get?, hit, same]

theorem containsIff {m : FileMap α} {path : String} :
    m.contains path = true ↔ ∃ a, m.get? path = some a := by
  simp [contains, paths, get?Iff]

theorem memInsertEntryOf (path : String) (a : α) {entries : List (String × α)} {x : String}
    (either : x = path ∨ x ∈ entries.map Prod.fst) : x ∈ (insertEntry path a entries).map Prod.fst := by
  induction entries with
  | nil => simpa [insertEntry] using either
  | cons entry more ih =>
    obtain ⟨first, b⟩ := entry
    simp only [insertEntry]
    split
    · simpa using either
    · split
      · simp only [List.map_cons, List.mem_cons] at either ih ⊢
        tauto
      · rename_i notBefore notAfter
        have same : first = path := String.le_antisymm (String.not_lt.mp notBefore) (String.not_lt.mp notAfter)
        simp only [List.map_cons, List.mem_cons, same] at either ⊢
        tauto

theorem memInsertPaths {m : FileMap α} {path other : String} {a : α} :
    other ∈ (m.insert path a).paths ↔ other = path ∨ other ∈ m.paths :=
  ⟨memInsertEntry, memInsertEntryOf path a⟩

theorem memFilterMap {f : String → α → Option β} {m : FileMap α} {path : String} {b : β} :
    (path, b) ∈ (m.filterMap f).entries ↔ ∃ a, (path, a) ∈ m.entries ∧ f path a = some b := by
  simp only [filterMap, filterMapEntries, List.mem_filterMap, Prod.exists, Option.map_eq_some_iff,
    Prod.mk.injEq]
  constructor
  · rintro ⟨other, a, member, c, made, rfl, rfl⟩
    exact ⟨a, member, made⟩
  · rintro ⟨a, member, made⟩
    exact ⟨path, a, member, b, made, rfl, rfl⟩

theorem get?FilterMap {f : String → α → Option β} {m : FileMap α} {path : String} {b : β} :
    (m.filterMap f).get? path = some b ↔ ∃ a, m.get? path = some a ∧ f path a = some b := by
  simp only [get?Iff, memFilterMap]

theorem eqOfEntries {m n : FileMap α} (same : m.entries = n.entries) : m = n := by
  cases m
  cases n
  cases same
  rfl

theorem filterMapTwice {γ : Type} (f : String → α → Option β) (g : String → β → Option γ) (m : FileMap α) :
    (m.filterMap f).filterMap g = m.filterMap fun path a => (f path a).bind (g path) := by
  apply eqOfEntries
  simp only [filterMap, filterMapEntries, List.filterMap_filterMap]
  congr 1
  funext entry
  cases f entry.1 entry.2 <;> simp

theorem entriesRelated {R : String → α → β → Prop} {m : FileMap α} {n : FileMap β} (paths : m.paths = n.paths)
    (related : ∀ path a b, m.get? path = some a → n.get? path = some b → R path a b) :
    List.Forall₂ (fun entry other => entry.1 = other.1 ∧ R entry.1 entry.2 other.2) m.entries n.entries := by
  simp only [get?Iff] at related
  unfold FileMap.paths at paths
  generalize m.entries = entries, n.entries = others at paths related ⊢
  induction entries generalizing others with
  | nil =>
    cases others with
    | nil => exact .nil
    | cons other more => cases paths
  | cons entry rest ih =>
    cases others with
    | nil => cases paths
    | cons other more =>
      obtain ⟨path, a⟩ := entry
      obtain ⟨path', b⟩ := other
      simp only [List.map_cons, List.cons.injEq] at paths
      obtain ⟨rfl, paths⟩ := paths
      refine .cons ⟨rfl, related path a b List.mem_cons_self List.mem_cons_self⟩ (ih more paths ?_)
      intro later c d left right
      exact related later c d (List.mem_cons_of_mem _ left) (List.mem_cons_of_mem _ right)

end Syllabus.FileMap
