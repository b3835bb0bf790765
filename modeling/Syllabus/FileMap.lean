/-! Files by path: at most one value for each path, in the order of the paths' characters. -/
namespace Syllabus

structure FileMap (α : Type) where
  entries : List (String × α)
  ordered : (entries.map Prod.fst).Pairwise (· < ·)

namespace FileMap

variable {α β : Type}

def empty : FileMap α := ⟨[], by simp⟩

def paths (m : FileMap α) : List String := m.entries.map Prod.fst

def get? (m : FileMap α) (path : String) : Option α :=
  (m.entries.find? fun entry => entry.1 == path).map Prod.snd

def contains (m : FileMap α) (path : String) : Bool := m.paths.contains path

def size (m : FileMap α) : Nat := m.entries.length

def insertEntry (path : String) (a : α) : List (String × α) → List (String × α)
  | [] => [(path, a)]
  | (other, b) :: more =>
    if path < other then (path, a) :: (other, b) :: more
    else if other < path then (other, b) :: insertEntry path a more
    else (path, a) :: more

theorem memInsertEntry {path : String} {a : α} {entries : List (String × α)} {x : String}
    (h : x ∈ (insertEntry path a entries).map Prod.fst) : x = path ∨ x ∈ entries.map Prod.fst := by
  induction entries with
  | nil => simpa [insertEntry] using h
  | cons entry more ih =>
    obtain ⟨other, b⟩ := entry
    simp only [insertEntry] at h
    split at h
    · simpa using h
    · split at h
      · simp only [List.map_cons, List.mem_cons] at h ⊢
        rcases h with rfl | h
        · exact .inr (.inl rfl)
        · exact (ih h).imp_right .inr
      · simp only [List.map_cons, List.mem_cons] at h ⊢
        exact h.imp_right .inr

theorem insertEntryOrdered (path : String) (a : α) {entries : List (String × α)}
    (h : (entries.map Prod.fst).Pairwise (· < ·)) :
    ((insertEntry path a entries).map Prod.fst).Pairwise (· < ·) := by
  induction entries with
  | nil => simp [insertEntry]
  | cons entry more ih =>
    obtain ⟨other, b⟩ := entry
    simp only [List.map_cons, List.pairwise_cons] at h
    simp only [insertEntry]
    split
    · rename_i before
      simp only [List.map_cons, List.pairwise_cons]
      refine ⟨fun x hx => ?_, h⟩
      rcases List.mem_cons.mp hx with rfl | hx
      · exact before
      · exact String.lt_trans before (h.1 x hx)
    · split
      · rename_i after
        simp only [List.map_cons, List.pairwise_cons]
        refine ⟨fun x hx => ?_, ih h.2⟩
        rcases memInsertEntry hx with rfl | hx
        · exact after
        · exact h.1 x hx
      · rename_i notBefore notAfter
        have same : other = path := String.le_antisymm (String.not_lt.mp notBefore) (String.not_lt.mp notAfter)
        simp only [List.map_cons, List.pairwise_cons]
        exact ⟨fun x hx => same ▸ h.1 x hx, h.2⟩

def insert (m : FileMap α) (path : String) (a : α) : FileMap α :=
  ⟨insertEntry path a m.entries, insertEntryOrdered path a m.ordered⟩

def erase (m : FileMap α) (path : String) : FileMap α :=
  ⟨m.entries.filter fun entry => entry.1 != path,
    m.ordered.sublist (List.filter_sublist.map Prod.fst)⟩

/-- Of entries with one path the last one stands. -/
def ofList (entries : List (String × α)) : FileMap α :=
  entries.foldl (fun m entry => m.insert entry.1 entry.2) empty

def filterMapEntries (f : String → α → Option β) (entries : List (String × α)) : List (String × β) :=
  entries.filterMap fun (path, a) => (f path a).map fun b => (path, b)

theorem filterMapPaths (f : String → α → Option β) (entries : List (String × α)) :
    ((filterMapEntries f entries).map Prod.fst).Sublist (entries.map Prod.fst) := by
  induction entries with
  | nil => simp [filterMapEntries]
  | cons entry more ih =>
    obtain ⟨path, a⟩ := entry
    simp only [filterMapEntries, List.filterMap_cons] at ih ⊢
    cases f path a with
    | none => simpa using ih.cons path
    | some b => simpa using ih.cons_cons path

def filterMap (f : String → α → Option β) (m : FileMap α) : FileMap β :=
  ⟨filterMapEntries f m.entries, m.ordered.sublist (filterMapPaths f m.entries)⟩

def sorted (names : List String) : List String := (ofList (names.map fun name => (name, ()))).paths

end FileMap
end Syllabus
