import Syllabus.Failure
import Syllabus.Layout
import Syllabus.Toml.Reader

/-! The configuration as a TOML document with two tables, the layout and the reach of suggestions.
Everything may be left out and nothing else may be there. A table may also be given as a list of
its values in order. -/
namespace Syllabus.ConfigFile

def texts? : Toml → Option (List String)
  | .list items => items.mapM fun item => match item with
    | .text s => some s
    | _ => none
  | _ => none

def natural? : Toml → Option Nat
  | .integer n => if 0 ≤ n ∧ n.toNat < UInt64.size then some n.toNat else none
  | _ => none

structure Setting (α : Type) where
  name : String
  apply : Toml → α → Option α

def layoutSettings : List (Setting Layout) :=
  [⟨"modules", fun v l => (texts? v).map fun dirs => { l with modules := dirs }⟩,
   ⟨"courses", fun v l => (texts? v).map fun dirs => { l with courses := dirs }⟩,
   ⟨"learning_outcomes", fun v l => (texts? v).map fun dirs => { l with learningOutcomes := dirs }⟩,
   ⟨"lenses", fun v l => (texts? v).map fun dirs => { l with lenses := dirs }⟩,
   ⟨"articles", fun v l => (texts? v).map fun dirs => { l with articles := dirs }⟩,
   ⟨"video_transcripts", fun v l => (texts? v).map fun dirs => { l with videoTranscripts := dirs }⟩]

def reachSettings : List (Setting Reach) :=
  [⟨"field_max_distance", fun v r => (natural? v).map fun n => { r with fields := n }⟩,
   ⟨"file_max_distance", fun v r => (natural? v).map fun n => { r with files := n }⟩]

def applyEntry {α : Type} (settings : List (Setting α)) (a : α) (entry : String × Toml) : Option α :=
  (settings.find? fun s => s.name == entry.1).bind fun s => s.apply entry.2 a

def record? {α : Type} (settings : List (Setting α)) (standard : α) : Toml → Option α
  | .table entries => entries.foldlM (applyEntry settings) standard
  | .list items => (settings.zip items).foldlM (fun a (s, item) => s.apply item a) standard
  | _ => none

def configSettings : List (Setting Config) :=
  [⟨"layout", fun v c => (record? layoutSettings .standard v).map fun l => { c with layout := l }⟩,
   ⟨"suggestions", fun v c => (record? reachSettings .standard v).map fun r => { c with reach := r }⟩]

def read (text : String) : Except Failure Config :=
  match Toml.read? text with
  | none => .error (.invalidConfig "not a TOML document")
  | some entries =>
    match record? configSettings .standard (.table entries) with
    | some config => .ok config
    | none => .error (.invalidConfig "unknown key or unexpected value")

end Syllabus.ConfigFile
