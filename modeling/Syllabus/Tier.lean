import Syllabus.Text.Basic

/-! How finished a document is. Tags decide it: any tag that ignores a document wins, else any tag
that marks work in progress. Finished content may not rest on unfinished content. -/
namespace Syllabus

inductive Tier where
  | production
  | wip
  | ignored
  deriving DecidableEq, Repr, Inhabited

namespace Tier

def label : Tier → String
  | .production => "production"
  | .wip => "wip"
  | .ignored => "ignored"

def tagName (tag : String) : String :=
  Text.lower (.ofList ((Text.trim tag).toList.dropWhile (· == '#')))

def ofTags (tags : List String) : Tier :=
  let names := tags.map tagName
  if names.any fun n => n == "ignore" || n == "ignored" then .ignored
  else if names.contains "wip" then .wip
  else .production

def violatedBy (parent child : Tier) : Bool := parent == .production && child == .wip

def isIgnored (t : Tier) : Bool := t == .ignored

theorem violatedByIff (parent child : Tier) :
    parent.violatedBy child = true ↔ parent = .production ∧ child = .wip := by
  simp [violatedBy]

end Tier
end Syllabus
