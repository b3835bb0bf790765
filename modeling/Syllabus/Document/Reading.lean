import Syllabus.Document.Basic
import Syllabus.FieldCheck

/-! The steps that the readers of all kinds share. A reading is a value, if one could be made, with
the remarks made on the way. Nothing is read from a body whose frontmatter has errors, and a
document with errors is no value. -/
namespace Syllabus

structure Reading (α : Type) where
  value : Option α
  remarks : List Remark
  deriving Repr

namespace Reading

variable {α β : Type}

def settle (value : Option α) (remarks : List Remark) : Reading α :=
  ⟨if Remark.blocking remarks then none else value, remarks⟩

def map (f : α → β) (r : Reading α) : Reading β := ⟨r.value.map f, r.remarks⟩

def values (rs : List (Reading α)) : List α := rs.filterMap Reading.value

def allRemarks (rs : List (Reading α)) : List Remark := rs.flatMap Reading.remarks

def ofText [Library] (schema : Schema) (most : Nat) (text : String) (body : Frontmatter.Extracted → Reading α) :
    Reading α :=
  match Frontmatter.extract text with
  | .error cause => ⟨none, [.onLine 1 (.frontmatter cause)]⟩
  | .ok extracted =>
    let found := FieldCheck.fields schema 1 most extracted.frontmatter.fields
    if Remark.blocking found then ⟨none, found⟩
    else
      let rest := body extracted
      settle rest.value (found ++ rest.remarks)

end Reading

namespace Frontmatter

def trimmed (f : Frontmatter) (key : String) : String := Text.trim ((f.text? key).getD "")

def filled? (f : Frontmatter) (key : String) : Option String := (f.text? key).bind Text.filled?

def lineOf (f : Frontmatter) (key : String) : Nat := (f.lineOf? key).getD 1

def slug (f : Frontmatter) : (String × Nat) × List Remark :=
  let value := f.trimmed "slug"
  let line := f.lineOf "slug"
  ((value, line), FieldCheck.slug value line)

def identity (f : Frontmatter) (key : String) : Reading Identity :=
  let (value, remarks) := FieldCheck.frontmatterUuid f key
  ⟨value.map fun id => ⟨id, f.lineOf key⟩, remarks⟩

end Frontmatter

namespace FieldBlock

def flag (b : FieldBlock) (key : String) : Bool := ((b.value? key).bind readBool?).getD false

def filled? (b : FieldBlock) (key : String) : Option String :=
  ((b.value? key).bind Text.filled?).map Text.trim

end FieldBlock

namespace WikiLink

def read (text : String) (line : Nat) : Reading WikiLink :=
  match WikiLink.parse text with
  | .ok link => ⟨some link, []⟩
  | .error cause => ⟨none, [.onLine line (.link cause)]⟩

def ofField (b : FieldBlock) (key : String) : Reading WikiLink :=
  match b.get? key with
  | none => ⟨none, []⟩
  | some field =>
    match Text.lines field.value with
    | [] => ⟨none, []⟩
    | first :: more =>
      let first := Text.trim first
      if first.isEmpty then ⟨none, []⟩
      else
        let after := if more.all Text.blank then [] else [Remark.onLine field.line (.textAfterLink key)]
        let link := WikiLink.read first field.line
        ⟨link.value, after ++ link.remarks⟩

end WikiLink

namespace Reference

def ofLink (link : WikiLink) (b : FieldBlock) (line : Nat) : Reference :=
  ⟨link, b.flag "optional", ((b.get? "source").map Field.line).getD line⟩

def ofBlock (schema : Schema) (most : Nat) (b : FieldBlock) (line : Nat) : Reading Reference :=
  let link := WikiLink.ofField b "source"
  ⟨link.value.map fun l => ofLink l b line, FieldCheck.block schema line most b ++ link.remarks⟩

def ofSection (schema : Schema) (most : Nat) (s : Section) : Reading Reference :=
  ofBlock schema most (FieldBlock.parse s.content s.contentLine) s.line

end Reference

def unknownHeading (most : Nat) (what : String) (expected : List String) (s : Section) : Remark :=
  let nearest := (Suggestion.closest? s.keyword (expected.map Keyword.ofText) most).bind fun keyword =>
    expected.find? fun name => Keyword.ofText name == keyword
  .onLine s.line (.unknownHeading what s.heading nearest expected)

def misplacedHeadings (rules : List (String × Nat)) (body : String) (first : Nat) : List Remark :=
  (headings body first).filterMap fun h =>
    (rules.find? fun rule => Keyword.ofText rule.1 == (Heading.label h.heading.text).1).bind fun (_, wanted) =>
      if h.heading.level = wanted then none else some (.onLine h.line (.misplacedHeading h.heading wanted))

def textBefore (what : String) (s : Sections) : List Remark :=
  match ((Text.lines s.preamble).zipIdx s.preambleLine).find? fun entry => !Text.blank entry.1 with
  | some (_, line) => [.onLine line (.textBefore what)]
  | none => []

end Syllabus
