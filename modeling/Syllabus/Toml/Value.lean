/-! TOML values as far as a configuration can use them: strings, whole numbers, lists and tables.
Booleans, fractions, dates and whole numbers that cannot be read are told apart from these, not from
each other. -/
namespace Syllabus

inductive Toml where
  | text (value : String)
  | integer (value : Int)
  | other
  | list (items : List Toml)
  | table (entries : List (String × Toml))
  deriving Repr, Inhabited

namespace Toml

/-- How a table of a document came to be, which decides what may still be added to it. -/
inductive Origin where
  | implicit
  | header
  | dotted
  deriving DecidableEq, Repr

inductive Node where
  | value (value : Toml)
  | table (origin : Origin) (entries : List (String × Node))
  | tables (items : List (List (String × Node)))
  deriving Repr, Inhabited

abbrev Entries := List (String × Node)

namespace Entries

def get? (key : String) (entries : Entries) : Option Node :=
  (entries.find? fun entry => entry.1 == key).map Prod.snd

def put (key : String) (node : Node) : Entries → Entries
  | [] => [(key, node)]
  | entry :: more => if entry.1 == key then (key, node) :: more else entry :: put key node more

def addDotted (value : Toml) : List String → Entries → Option Entries
  | [], _ => none
  | [key], entries =>
    match get? key entries with
    | some _ => none
    | none => some (put key (.value value) entries)
  | key :: path, entries =>
    match get? key entries with
    | none => (addDotted value path []).map fun inner => put key (.table .dotted inner) entries
    | some (.table .header _) => none
    | some (.table origin inner) =>
      (addDotted value path inner).map fun inner => put key (.table origin inner) entries
    | some _ => none

def within (change : Entries → Option Entries) : List String → Entries → Option Entries
  | [], entries => change entries
  | key :: path, entries =>
    match get? key entries with
    | none => (within change path []).map fun inner => put key (.table .implicit inner) entries
    | some (.table origin inner) =>
      (within change path inner).map fun inner => put key (.table origin inner) entries
    | some (.tables (latest :: items)) =>
      (within change path latest).map fun inner => put key (.tables (inner :: items)) entries
    | some _ => none

def openTable (key : String) (entries : Entries) : Option Entries :=
  match get? key entries with
  | none => some (put key (.table .header []) entries)
  | some (.table .implicit inner) => some (put key (.table .header inner) entries)
  | some _ => none

def appendTable (key : String) (entries : Entries) : Option Entries :=
  match get? key entries with
  | none => some (put key (.tables [[]]) entries)
  | some (.tables items) => some (put key (.tables ([] :: items)) entries)
  | some _ => none

end Entries

mutual
def Node.finish : Node → Toml
  | .value value => value
  | .table _ entries => .table (finishEntries entries)
  | .tables items => .list (finishTables items).reverse

def finishEntries : List (String × Node) → List (String × Toml)
  | [] => []
  | (key, node) :: more => (key, node.finish) :: finishEntries more

def finishTables : List (List (String × Node)) → List Toml
  | [] => []
  | entries :: more => .table (finishEntries entries) :: finishTables more
end

end Toml
end Syllabus
