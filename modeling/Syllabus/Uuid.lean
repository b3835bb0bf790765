import Syllabus.Text.Basic

/-! UUIDs in their hyphenated form, eight, four, four, four and twelve hexadecimal digits. Two texts
name the same one when they differ only in case and surrounding blanks. -/
namespace Syllabus.Uuid

def isHexDigit (c : Char) : Bool :=
  ('0' ≤ c && c ≤ '9') || ('a' ≤ c && c ≤ 'f') || ('A' ≤ c && c ≤ 'F')

def groups : List Nat := [8, 4, 4, 4, 12]

def valid (s : String) : Bool :=
  let pieces := Chars.splitOn (· == '-') s.toList
  pieces.map List.length == groups && pieces.all fun piece => piece.all isHexDigit

def key (s : String) : String := Text.lower (Text.trim s)

def hexValue (c : Char) : Nat :=
  if '0' ≤ c && c ≤ '9' then c.toNat - 48
  else if 'a' ≤ c && c ≤ 'f' then c.toNat - 87
  else c.toNat - 55

def bits (s : String) : Nat :=
  (s.toList.filter isHexDigit).foldl (fun n c => 16 * n + hexValue c) 0

end Syllabus.Uuid
