import Syllabus.Diagnostic

/-! Reasons why something has no result. A run ends without one when a file or directory cannot be read, a configuration or
a document does not parse, or a thing is not there; what is wrong with the content of a vault is never a reason for that.
An excerpt cannot be taken from its source for what is wrong with its two ends, or with the word times beside a
transcript. -/
namespace Syllabus

inductive Failure where
  | io (path : Option String) (cause : String)
  | config (reason : String)
  | malformed (reason : String)
  | notFound (what name : String)
  deriving DecidableEq, Repr

def Failure.message : Failure → String
  | .io path cause => "I/O error" ++ path.elim "" (fun p => " at " ++ p) ++ ": " ++ cause
  | .config reason => "Configuration error: " ++ reason
  | .malformed reason => "Parse error: " ++ reason
  | .notFound what name => what ++ " not found: " ++ name

def Failure.invalidConfig (reason : String) : Failure := .config ("Invalid configuration: " ++ reason)

inductive ExcerptFailure where
  | anchorNotFound (anchor : String)
  | endNotFound (start stop : String)
  | ambiguousAnchor (anchor : String) (count : Nat)
  | invalidTime (text : String)
  | outOfOrder (start stop : String)
  | timeNotFound (time : String)
  | emptyExcerpt (start stop : String)
  | untimed (time : String)
  | invalidWords {reason : String}
  deriving DecidableEq, Repr

namespace ExcerptFailure

def message : ExcerptFailure → String
  | .anchorNotFound anchor => "Anchor not found in article: '" ++ anchor ++ "'"
  | .endNotFound start stop => "End anchor '" ++ stop ++ "' not found after start anchor '" ++ start ++ "'"
  | .ambiguousAnchor anchor count =>
    "Ambiguous anchor '" ++ anchor ++ "': found " ++ toString count ++ " times"
  | .invalidTime text => "Invalid timestamp '" ++ text ++ "'"
  | .outOfOrder start stop => "Excerpt start " ++ start ++ " is after its end " ++ stop
  | .timeNotFound time => "Timestamp " ++ time ++ " not found in transcript"
  | .emptyExcerpt start stop => "No transcript text between " ++ start ++ " and " ++ stop
  | .untimed time => "Cannot start an excerpt at " ++ time ++ ": transcript has no timestamps"
  | @invalidWords reason => "Invalid word timestamps file: " ++ reason

def suggestion : ExcerptFailure → Option String
  | .anchorNotFound _ | .endNotFound .. => some "Copy the anchor text exactly from the article"
  | .ambiguousAnchor .. => some "Extend the anchor with surrounding words until it is unique"
  | .invalidTime _ => some "Use M:SS, H:MM:SS or M:SS.ms"
  | .timeNotFound _ => some "Use a timestamp that starts a line in the transcript"
  | .untimed _ => some "Add timestamps to the transcript or start at 0:00"
  | _ => none

def inFile (file : String) (line : Nat) (e : ExcerptFailure) : Diagnostic :=
  ⟨file, some line, e.message, e.suggestion, .error⟩

end ExcerptFailure
end Syllabus
