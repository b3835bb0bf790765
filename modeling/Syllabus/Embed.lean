import Syllabus.Heading

/-! Embedded files in double brackets behind an exclamation mark, as some editors write images.
Lines of code fences hold none. -/
namespace Syllabus.Embed

def unfenced : (fenced : Bool) → List (String × Nat) → List (String × Nat)
  | _, [] => []
  | fenced, (line, number) :: more =>
    if isFence line then unfenced (!fenced) more
    else if fenced then unfenced fenced more
    else (line, number) :: unfenced fenced more

def opening : List Char := ['!', '[', '[']

def inLine (s : List Char) : List (List Char) :=
  match Chars.cut? opening s with
  | none => []
  | some (_, inside) =>
    match Chars.cut? [']', ']'] inside with
    | none => [opening ++ inside]
    | some (inner, rest) =>
      let embed := opening ++ inner ++ [']', ']']
      if rest.length < s.length then embed :: inLine rest else [embed]
termination_by s.length

def find (text : String) (first : Nat) : List (Nat × String) :=
  (unfenced false ((Text.lines text).zipIdx first)).flatMap fun (line, number) =>
    (inLine line.toList).map fun embed => (number, .ofList embed)

end Syllabus.Embed
