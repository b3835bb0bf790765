import Syllabus.Text.Lowercase

/-! The same operations on strings. Each is the list operation of that name between `toList` and
`ofList`; what is proved of lists carries over by `String.toList_ofList`. -/
namespace Syllabus.Text

def trim (s : String) : String := .ofList (Chars.trim s.toList)

def trimEnd (s : String) : String := .ofList (Chars.trimEnd s.toList)

def trimStart (s : String) : String := .ofList (Chars.trimStart s.toList)

def lower (s : String) : String := .ofList (Chars.lower s.toList)

def blank (s : String) : Bool := Chars.blank s.toList

def lines (s : String) : List String := (Chars.lines s.toList).map .ofList

def words (s : String) : List String := (Chars.words s.toList).map .ofList

def joinWith (sep : String) (pieces : List String) : String :=
  .ofList (Chars.joinWith sep.toList (pieces.map String.toList))

def splitOn (sep : Char) (s : String) : List String :=
  (Chars.splitOn (· == sep) s.toList).map .ofList

def cut? (needle s : String) : Option (String × String) :=
  (Chars.cut? needle.toList s.toList).map fun (before, tail) => (.ofList before, .ofList tail)

def contains (needle s : String) : Bool := Chars.contains needle.toList s.toList

def startsWith (head s : String) : Bool := head.toList.isPrefixOf s.toList

def endsWith (tail s : String) : Bool := tail.toList.isSuffixOf s.toList

def after? (head s : String) : Option String := (head.toList.isPrefixOf? s.toList).map .ofList

def before? (tail s : String) : Option String := (tail.toList.isSuffixOf? s.toList).map .ofList

def dropSuffix (tail s : String) : String := (before? tail s).getD s

def filled? (s : String) : Option String := if blank s then none else some s

theorem trimToList (s : String) : (trim s).toList = Chars.trim s.toList := by
  simp [trim]

end Syllabus.Text
