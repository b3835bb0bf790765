/-! Findings about the content of a vault, and results that come with findings.
A finding names its file, perhaps a line and perhaps a remedy. Errors block, warnings do not. What is said of a text that
is no YAML, or no list of words, is the word of the library that reads it: any function of the text will do. -/
namespace Syllabus

class Library where
  yaml : String → String
  words : String → String

instance Library.plain : Library := ⟨fun _ => "not one well-formed document", fun _ => "not a list of words with their starts"⟩

inductive Severity where
  | error
  | warning
  deriving DecidableEq, Repr, Inhabited

def Severity.label : Severity → String
  | .error => "error"
  | .warning => "warning"

structure Diagnostic where
  file : String
  line : Option Nat
  message : String
  suggestion : Option String
  severity : Severity
  deriving DecidableEq, Repr, Inhabited

namespace Diagnostic

def isError (d : Diagnostic) : Bool := d.severity == .error

def text (d : Diagnostic) : String :=
  d.severity.label ++ ": " ++ d.file ++ d.line.elim "" (fun n => ":" ++ toString n) ++ ": " ++ d.message
    ++ d.suggestion.elim "" fun s => " (" ++ s ++ ")"

def blocking (ds : List Diagnostic) : Bool := ds.any isError

def errorCount (ds : List Diagnostic) : Nat := ds.countP isError

def warningCount (ds : List Diagnostic) : Nat := ds.length - errorCount ds

theorem blockingIff (ds : List Diagnostic) :
    blocking ds = true ↔ ∃ d ∈ ds, d.severity = .error := by
  simp [blocking, isError]

end Diagnostic

structure Outcome (α : Type) where
  value : Option α
  found : List Diagnostic
  deriving DecidableEq, Repr, Inhabited

namespace Outcome

variable {α β : Type}

def of (value : Option α) : Outcome α := ⟨value, []⟩

def failed (found : List Diagnostic) : Outcome α := ⟨none, found⟩

def push (o : Outcome α) (d : Diagnostic) : Outcome α := { o with found := o.found ++ [d] }

def extend (o : Outcome α) (ds : List Diagnostic) : Outcome α := { o with found := o.found ++ ds }

def map (f : α → β) (o : Outcome α) : Outcome β := ⟨o.value.map f, o.found⟩

def blocking (o : Outcome α) : Bool := Diagnostic.blocking o.found

def errorCount (o : Outcome α) : Nat := Diagnostic.errorCount o.found

def warningCount (o : Outcome α) : Nat := Diagnostic.warningCount o.found

end Outcome
end Syllabus
