import Syllabus.Markdown.Escape
import Syllabus.Markdown.Line

/-! What may stand behind a less-than sign: tags, comments and other markup of HTML, and addresses
in angle brackets. The readers give the text that is left, and take what tells them where a text goes
on behind a line end. -/
namespace Syllabus.Markdown

def isTagChar (c : Char) : Bool := isAlphanumeric c || c = '-'

def isAttributeStart (c : Char) : Bool := c.isAlpha || c = '_' || c = ':'

def isAttributeChar (c : Char) : Bool := isAlphanumeric c || c = '_' || c = ':' || c = '.' || c = '-'

def isUnquoted (c : Char) : Bool :=
  !(c = ' ' || isLineEnd c || c = '"' || c = '\'' || c = '=' || c = '<' || c = '>' || c = '\x60')

def afterGap? (next : Continuation) : Nat → List Char → Option (List Char)
  | 0, _ => none
  | n + 1, s =>
    let s := skipSpaces s
    match lineEndLength s with
    | 0 => some s
    | length => (next (s.drop length)).bind (afterGap? next n)

def afterQuote? (next : Continuation) (quote : Char) : Nat → List Char → Option (List Char)
  | 0, _ => none
  | _, [] => none
  | n + 1, c :: rest =>
    if c = quote then some rest
    else match lineEndLength (c :: rest) with
      | 0 => afterQuote? next quote n rest
      | length => (next ((c :: rest).drop length)).bind (afterQuote? next quote n)

def afterValue? (next : Continuation) (s : List Char) : Option (List Char) :=
  match s with
  | '"' :: rest => afterQuote? next '"' s.length rest
  | '\'' :: rest => afterQuote? next '\'' s.length rest
  | s => if s.head?.any isUnquoted then some (s.dropWhile isUnquoted) else none

def afterAttribute? (next : Continuation) (s : List Char) : Option (List Char) :=
  if s.head?.any isAttributeStart then
    let rest := s.dropWhile isAttributeChar
    (afterGap? next (s.length + 1) rest).bind fun sign =>
      match sign with
      | '=' :: value => (afterGap? next (s.length + 1) value).bind (afterValue? next)
      | _ => some rest
  else none

def afterAttributes? (next : Continuation) : Nat → List Char → Option (List Char)
  | 0, _ => none
  | n + 1, s =>
    (afterGap? next (s.length + 1) s).bind fun inside =>
      match inside with
      | '>' :: rest => some rest
      | '/' :: rest => if rest.head? = some '>' then some (rest.drop 1) else none
      | _ =>
        if s.head?.any fun c => isSpace c || isLineEnd c then
          (afterAttribute? next inside).bind (afterAttributes? next n)
        else none

def afterTag? (next : Continuation) : List Char → Option (List Char)
  | '/' :: s =>
    if s.head?.any Char.isAlpha then
      match skipSpaces (s.dropWhile isTagChar) with
      | '>' :: rest => some rest
      | _ => none
    else none
  | s => if s.head?.any Char.isAlpha then afterAttributes? next (s.length + 1) (s.dropWhile isTagChar) else none

def afterText? (needle : String) (s : List Char) : Option (List Char) := (Chars.cut? needle.toList s).map Prod.snd

def afterSection? (s : List Char) : Option (List Char) :=
  match (s.dropWhile (· != ']')).dropWhile (· == ']') with
  | '>' :: rest => some rest
  | _ => none

def afterComment? (s : List Char) : Option (List Char) :=
  match s.dropWhile (· == '-') with
  | '>' :: rest => some rest
  | s => afterText? "-->" s

def afterMarkup? (next : Continuation) (s : List Char) : Option (List Char) :=
  match s with
  | '!' :: '-' :: '-' :: rest => afterComment? rest
  | '?' :: rest => afterText? "?>" rest
  | '!' :: rest =>
    match "[CDATA[".toList.isPrefixOf? rest with
    | some inside => afterSection? inside
    | none => if rest.head?.any Char.isAlpha then afterText? ">" rest else none
  | _ => afterTag? next s

def isSchemeChar (c : Char) : Bool := isAlphanumeric c || c = '.' || c = '-' || c = '+'

def absoluteAddress? (s : List Char) : Option (List Char × List Char) :=
  let scheme := s.takeWhile isSchemeChar
  match s.drop scheme.length with
  | ':' :: rest =>
    if scheme.head?.any Char.isAlpha && 2 ≤ scheme.length && scheme.length ≤ 32 then
      let path := rest.takeWhile fun c => ' ' < c && c != '<' && c != '>'
      match rest.drop path.length with
      | '>' :: tail => some (scheme ++ ':' :: path, tail)
      | _ => none
    else none
  | _ => none

def isMailChar (c : Char) : Bool := isAlphanumeric c || ".!#$%&'*+/=?^_\x60\x7b|\x7d~-".toList.contains c

def isHostLabel (label : List Char) : Bool :=
  !label.isEmpty && label.length ≤ 63 && label.head? != some '-' && label.getLast? != some '-'

def mailAddress? (s : List Char) : Option (List Char × List Char) :=
  let name := s.takeWhile isMailChar
  match s.drop name.length with
  | '@' :: rest =>
    let host := rest.takeWhile fun c => isTagChar c || c = '.'
    match rest.drop host.length with
    | '>' :: tail =>
      if !name.isEmpty && (Chars.splitOn (· == '.') host).all isHostLabel then some (name ++ '@' :: host, tail)
      else none
    | _ => none
  | _ => none

def address? (s : List Char) : Option (List Char × List Char) := (absoluteAddress? s).or (mailAddress? s)

def blockTags : List String :=
  ["address", "article", "aside", "base", "basefont", "blockquote", "body", "caption", "center", "col",
   "colgroup", "dd", "details", "dialog", "dir", "div", "dl", "dt", "fieldset", "figcaption", "figure",
   "footer", "form", "frame", "frameset", "h1", "h2", "h3", "h4", "h5", "h6", "head", "header", "hr",
   "html", "iframe", "legend", "li", "link", "main", "menu", "menuitem", "nav", "noframes", "ol",
   "optgroup", "option", "p", "param", "search", "section", "summary", "table", "tbody", "td", "tfoot",
   "th", "thead", "title", "tr", "track", "ul"]

def rawTags : List (String × String) :=
  [("pre", "</pre>"), ("style", "</style>"), ("script", "</script>"), ("textarea", "</textarea>")]

def rawOpenings : List (String × String) := [("!--", "-->"), ("?", "?>"), ("![CDATA[", "]]>")]

def asciiLower (s : List Char) : List Char := s.map Char.toLower

def rawBlockEnd? (s : List Char) : Option String :=
  let tag := rawTags.find? fun (name, _) =>
    asciiLower (s.take name.length) == name.toList
      && (s.drop name.length).head?.all fun c => isSpace c || isLineEnd c || c = '>'
  let opening := rawOpenings.find? fun (start, _) => start.toList.isPrefixOf s
  match tag.or opening with
  | some (_, stop) => some stop
  | none =>
    match s with
    | '!' :: c :: _ => if c.isAlpha then some ">" else none
    | _ => none

def startsBlockTag (s : List Char) : Bool :=
  let s := match s with
    | '/' :: rest => rest
    | _ => s
  let name := s.takeWhile isAlphanumeric
  blockTags.contains (.ofList (asciiLower name)) &&
    match s.drop name.length with
    | [] => true
    | '/' :: '>' :: _ => true
    | c :: _ => c = ' ' || c = '\t' || c = '>' || isLineEnd c

def isLoneTag (s : List Char) : Bool :=
  (afterTag? (fun _ => none) s).any fun rest => (afterBlankLine? rest).isSome

end Syllabus.Markdown
