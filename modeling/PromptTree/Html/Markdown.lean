import PromptTree.Html.Tree
import PromptTree.Text.Digit

/-!
Pages as Markdown: two levels of underlined headings, fenced code, lists with bullets that change with
their depth, tables with a header row.
-/

namespace PromptTree.Html.Markdown

open PromptTree.Html (Node)

/-- An element that encloses a place. -/
structure Frame where
  name : String
  attributes : List (String × String)
  children : List Node
  /-- Another element stands before it in the element around it. -/
  follows : Bool

/-- Where a node stands: the elements around it, the innermost first, and its neighbours, the nearest
first. -/
structure Place where
  above : List Frame
  before : List Node
  after : List Node

/-! ### Kinds of elements -/

def headingLevel? (name : String) : Option Nat :=
  match name.toList with
  | 'h' :: rest =>
    let digits := rest.takeWhile Text.isDigit
    if digits.isEmpty then none
    else some (Text.numberOfDigits 10 (digits.filterMap Text.digitValue?))
  | _ => none

/-- Elements whose edges swallow blanks. -/
def isBlock (name : String) : Bool :=
  (headingLevel? name).isSome ||
    ["p", "blockquote", "article", "div", "section", "ol", "ul", "li", "dl", "dt", "dd", "table", "thead",
      "tbody", "tfoot", "tr", "td", "th"].contains name

def swallowsBeside (node : Option Node) : Bool :=
  match node.bind Node.name? with
  | some name => isBlock name || name == "pre"
  | none => false

def Place.isIn (place : Place) (names : List String) : Bool :=
  place.above.any (names.contains ·.name)

/-- The place is on one line: in a heading or in a cell of a table. -/
def Place.isInline (place : Place) : Bool :=
  place.above.any fun f => (headingLevel? f.name).isSome || f.name == "td" || f.name == "th"

def Place.isVerbatim (place : Place) : Bool := place.isIn ["pre", "code", "kbd", "samp"]

/-! ### Text -/

def isSourceBlank (c : Char) : Bool := c ∈ ['\t', ' ', '\r', '\n']

def trimSource (cs : List Char) : List Char := Text.trimWhile isSourceBlank cs

def trim (cs : List Char) : List Char := Text.trimWhile Text.isBlank cs

/-- Each run of blanks becomes one blank, or one line end if there is one in it; `run` says whether a run
is going on and whether it has a line end. -/
def squeeze (run : Option Bool) : List Char → List Char
  | [] => mark run
  | c :: rest =>
    if isSourceBlank c then squeeze (some (run.getD false || c = '\n' || c = '\r')) rest
    else mark run ++ c :: squeeze none rest
where
  mark : Option Bool → List Char
    | none => []
    | some true => ['\n']
    | some false => [' ']

def squeezeAll (cs : List Char) : List Char :=
  (squeeze none cs).map fun c => if c = '\n' then ' ' else c

def escape (cs : List Char) : List Char :=
  cs.flatMap fun c => if c = '*' || c = '_' then ['\\', c] else [c]

/-- Blank outer characters, kept apart: a blank before, a blank after, and the trimmed text. -/
def chomp (cs : List Char) : List Char × List Char × List Char :=
  let blank (c : Option Char) := if c = some ' ' then [' '] else []
  (blank cs.head?, blank cs.getLast?, trim cs)

/-- The text between marks; the marks touch it. -/
def between (mark : List Char) (place : Place) (text : List Char) : List Char :=
  if place.isVerbatim then text
  else
    let (before, after, text) := chomp text
    if text.isEmpty then [] else before ++ mark ++ text ++ mark ++ after

def mapLines (f : List Char → List Char) (cs : List Char) : List Char :=
  Text.joinWith '\n' ((Text.splitOn '\n' cs).map f)

def indent (width : Nat) (cs : List Char) : List Char :=
  mapLines (fun line => if line.isEmpty then [] else List.replicate width ' ' ++ line) cs

def paragraph (cs : List Char) : List Char :=
  "\n\n".toList ++ cs ++ "\n\n".toList

def paragraph? (cs : List Char) : List Char :=
  if cs.isEmpty then [] else paragraph cs

def inline (cs : List Char) : List Char := ' ' :: cs ++ [' ']

/-- The parts of an element, one after the other: where one ends and the next begins with line ends,
the greater number of them counts, up to two. `ended` is how many line ends the parts so far end
with. -/
def joinParts (ended : Nat) : List (List Char) → List Char
  | [] => List.replicate ended '\n'
  | part :: parts =>
    let started := (part.takeWhile (· = '\n')).length
    let rest := part.dropWhile (· = '\n')
    let content := Text.dropEndWhile (· = '\n') rest
    let gap := if ended > 0 && started > 0 then min 2 (max ended started) else ended + started
    List.replicate gap '\n' ++ content ++ joinParts (rest.length - content.length) parts

/-! ### Elements -/

/-- The value of an attribute; an empty one counts as absent. -/
def attribute? (attributes : List (String × String)) (name : String) : Option (List Char) :=
  ((attributes.lookup name).map String.toList).filter (!·.isEmpty)

def titlePart (attributes : List (String × String)) : List Char :=
  match attribute? attributes "title" with
  | none => []
  | some title => " \"".toList ++ title.flatMap (fun c => if c = '"' then ['\\', '"'] else [c]) ++ ['"']

/-- A link; an address that is its own text is written once. -/
def link (place : Place) (attributes : List (String × String)) (text : List Char) : List Char :=
  if place.isVerbatim then text
  else
    let (before, after, text) := chomp text
    if text.isEmpty then []
    else
      match attribute? attributes "href" with
      | none => text
      | some href =>
        if plainUnderscores text = href && (attribute? attributes "title").isNone then
          '<' :: href ++ ['>']
        else
          before ++ '[' :: text ++ "](".toList ++ href ++ titlePart attributes ++ ')' :: after
where
  plainUnderscores : List Char → List Char
    | '\\' :: '_' :: rest => '_' :: plainUnderscores rest
    | c :: rest => c :: plainUnderscores rest
    | [] => []

/-- An image; on one line, what is shown in its place. -/
def image (place : Place) (attributes : List (String × String)) : List Char :=
  let alt := (attribute? attributes "alt").getD []
  if place.isInline then alt
  else
    "![".toList ++ alt ++ "](".toList ++ (attribute? attributes "src").getD [] ++
      titlePart attributes ++ [')']

def video (place : Place) (attributes : List (String × String)) (children : List Node)
    (text : List Char) : List Char :=
  if place.isInline then text
  else
    let ofSource := (Node.elementsOfAll (Node.isNamed ["source"]) children).filterMap fun
      | .element _ attributes _ => attributes.lookup "src"
      | _ => none
    let source := match attribute? attributes "src" with
      | some source => source
      | none => (ofSource.head?.getD "").toList
    let poster := (attribute? attributes "poster").getD []
    let bracketed (content address : List Char) := '[' :: content ++ "](".toList ++ address ++ [')']
    if !source.isEmpty && !poster.isEmpty then bracketed ('!' :: bracketed text poster) source
    else if !source.isEmpty then bracketed text source
    else if !poster.isEmpty then '!' :: bracketed text poster
    else text

def longestTicks (run longest : Nat) : List Char → Nat
  | [] => max run longest
  | c :: rest => if c = '`' then longestTicks (run + 1) longest rest else longestTicks 0 (max run longest) rest

/-- Code in running text, between one backtick more than there are in it. -/
def code (place : Place) (text : List Char) : List Char :=
  if place.isVerbatim then text
  else
    let (before, after, text) := chomp text
    if text.isEmpty then []
    else
      let ticks := longestTicks 0 0 text
      let mark := List.replicate (ticks + 1) '`'
      let text := if ticks > 0 then inline text else text
      before ++ mark ++ text ++ mark ++ after

def codeBlock (text : List Char) : List Char :=
  if text.isEmpty then []
  else
    let isPad (c : Char) : Bool := c = ' ' || c = '\n'
    let pad := text.takeWhile isPad
    let kept := (pad.reverse.takeWhile (· ≠ '\n')).reverse
    let text := (if '\n' ∈ pad then kept else pad) ++ text.dropWhile isPad
    paragraph ("```\n".toList ++ Text.dropEndWhile isPad text ++ "\n```".toList)

def quotation (place : Place) (text : List Char) : List Char :=
  let text := trimSource text
  if place.isInline then inline text
  else if text.isEmpty then ['\n']
  else
    '\n' :: mapLines (fun line => if line.isEmpty then ['>'] else '>' :: ' ' :: line) text ++
      "\n\n".toList

def heading (place : Place) (level : Nat) (text : List Char) : List Char :=
  if place.isInline then text
  else
    let level := max 1 (min 6 level)
    let text := trim text
    if level ≤ 2 then
      let line := List.replicate text.length (if level = 1 then '=' else '-')
      if text.isEmpty then [] else paragraph (text ++ '\n' :: line)
    else paragraph (List.replicate level '#' ++ ' ' :: squeezeAll text)

def division (place : Place) (text : List Char) : List Char :=
  let text := trim text
  if place.isInline then inline text else paragraph? text

def term (place : Place) (text : List Char) : List Char :=
  let text := squeezeAll (trim text)
  if place.isInline then inline text
  else if text.isEmpty then ['\n']
  else "\n\n".toList ++ text ++ ['\n']

def explanation (place : Place) (text : List Char) : List Char :=
  let text := trim text
  if place.isInline then inline text
  else if text.isEmpty then ['\n']
  else ':' :: (indent 4 text).drop 1 ++ ['\n']

def isContent : Node → Bool
  | .element _ _ _ => true
  | .note .comment _ | .note .doctype _ => false
  | .note _ content | .text content _ => !(trim content.toList).isEmpty

def list (place : Place) (text : List Char) : List Char :=
  if place.isIn ["li"] then '\n' :: Text.dropEndWhile Text.isBlank text
  else
    let next := place.after.find? isContent
    let beforeParagraph := next.any fun n => !Node.isNamed ["ul", "ol"] n
    "\n\n".toList ++ text ++ if beforeParagraph then ['\n'] else []

/-- The mark of an item: its number, or a bullet that depends on how many lists it is in. -/
def itemMark (place : Place) : List Char :=
  match place.above with
  | ⟨"ol", attributes, _, _⟩ :: _ =>
    let start := match attribute? attributes "start" with
      | some digits =>
        if digits.all Text.isDigit then Text.numberOfDigits 10 (digits.filterMap Text.digitValue?) else 1
      | none => 1
    let earlier := (place.before.filter (Node.isNamed ["li"])).length
    (toString (start + earlier)).toList ++ ['.']
  | above =>
    match (above.filter (·.name == "ul")).length % 3 with
    | 1 => ['*']
    | 2 => ['+']
    | _ => ['-']

def item (place : Place) (text : List Char) : List Char :=
  let text := trim text
  if text.isEmpty then ['\n']
  else
    let mark := itemMark place ++ [' ']
    mark ++ (indent mark.length text).drop mark.length ++ ['\n']

def columns (attributes : List (String × String)) : Nat :=
  match attributes.lookup "colspan" with
  | some digits =>
    if !digits.isEmpty && digits.toList.all Text.isDigit then
      max 1 (min 1000 (Text.numberOfDigits 10 (digits.toList.filterMap Text.digitValue?)))
    else 1
  | none => 1

def cell (attributes : List (String × String)) (text : List Char) : List Char :=
  ' ' :: (trim text).map (fun c => if c = '\n' then ' ' else c) ++
    (List.replicate (columns attributes) " |".toList).flatten

def ruler (content : String) (count : Nat) : List Char :=
  ("| " ++ String.intercalate " | " (List.replicate count content) ++ " |\n").toList

/-- A row of a table. The first row of a table is followed by a line if it is a header; if it is not, an
empty header comes before it. -/
def row (place : Place) (children : List Node) (text : List Char) : List Char :=
  let cells := Node.elementsOfAll (Node.isNamed ["td", "th"]) children
  let isFirst := !place.before.any fun n => n.name?.isSome
  let parent := place.above.head?
  let parentName := (parent.map (·.name)).getD ""
  let headers := cells.all (Node.isNamed ["th"])
  let rowsOfParent := (parent.map fun f => (Node.elementsOfAll (Node.isNamed ["tr"]) f.children).length).getD 0
  let isHeader := headers || (parentName == "thead" && rowsOfParent == 1)
  let tableHasHead := (place.above[1]?.map fun f =>
    !(Node.elementsOfAll (Node.isNamed ["thead"]) f.children).isEmpty).getD false
  let lacksHeader := isFirst && (parentName != "tbody" || !tableHasHead)
  let count := cells.foldl (fun count cell => count + match cell with
    | .element _ attributes _ => columns attributes
    | _ => 0) 0
  let opensTable := isFirst &&
    (parentName == "table" || (parentName == "tbody" && !parent.any (·.follows)))
  let line := '|' :: text ++ ['\n']
  if isHeader && isFirst then line ++ ruler "---" count
  else if lacksHeader || opensTable then ruler "" count ++ ruler "---" count ++ line
  else line

/-- What an element comes to, given what its content comes to. -/
def finish (place : Place) (name : String) (attributes : List (String × String)) (children : List Node)
    (text : List Char) : List Char :=
  match name with
  | "a" => link place attributes text
  | "b" | "strong" => between "**".toList place text
  | "em" | "i" => between ['*'] place text
  | "del" | "s" => between "~~".toList place text
  | "sub" | "sup" => between [] place text
  | "blockquote" => quotation place text
  | "br" => if place.isInline then [' '] else "  \n".toList
  | "code" | "kbd" | "samp" => code place text
  | "div" | "article" | "section" | "dl" => division place text
  | "dd" => explanation place text
  | "dt" => term place text
  | "hr" => paragraph "---".toList
  | "img" => image place attributes
  | "video" => video place attributes children text
  | "ul" | "ol" | "list" => list place text
  | "li" => item place text
  | "p" => if place.isInline then inline (trimSource text) else paragraph? (trimSource text)
  | "pre" => codeBlock text
  | "q" => '"' :: text ++ ['"']
  | "script" | "style" => []
  | "table" => paragraph (trim text)
  | "caption" => trim text ++ "\n\n".toList
  | "figcaption" => paragraph (trim text)
  | "td" | "th" => cell attributes text
  | "tr" => row place children text
  | name =>
    match headingLevel? name with
    | some level => heading place level text
    | none => text

/-- Text that does not count: a comment, or blanks beside the edge of a block. -/
def isIgnored (place : Place) : Node → Bool
  | .element _ _ _ => false
  | .note .comment _ | .note .doctype _ => true
  | .note _ content | .text content _ =>
    if !(trim content.toList).isEmpty then false
    else
      ((place.above.head?.any fun f => isBlock f.name) &&
        (place.before.isEmpty || place.after.isEmpty)) ||
        swallowsBeside place.before.head? || swallowsBeside place.after.head?

def plain (place : Place) (content : String) : List Char :=
  let cs := if place.isIn ["pre"] then content.toList else squeeze none content.toList
  let cs := if place.isVerbatim then cs else escape cs
  let inBlock := place.above.head?.any fun f => isBlock f.name
  let cs :=
    if swallowsBeside place.before.head? || (inBlock && place.before.isEmpty) then
      cs.dropWhile isSourceBlank
    else cs
  if swallowsBeside place.after.head? || (inBlock && place.after.isEmpty) then
    Text.dropEndWhile Text.isBlank cs
  else cs

def joinContent (place : Place) (name : String) (parts : List (List Char)) : List Char :=
  let parts := parts.filter (!·.isEmpty)
  if name == "pre" || place.isIn ["pre"] then parts.flatten else joinParts 0 parts

mutual

def convert (place : Place) : Node → List Char
  | .text content _ => plain place content
  | .note _ content => plain place content
  | .element name attributes children =>
    let frame : Frame := ⟨name, attributes, children, place.before.any fun n => n.name?.isSome⟩
    let parts := convertAll (frame :: place.above) [] children
    finish place name attributes children (joinContent place name parts)
termination_by structural n => n

def convertAll (above : List Frame) (before : List Node) : List Node → List (List Char)
  | [] => []
  | n :: ns =>
    let place : Place := ⟨above, before, ns⟩
    let rest := convertAll above (n :: before) ns
    if isIgnored place n then rest else convert place n :: rest
termination_by structural ns => ns

end

def pageName : String := "[document]"

def ofNodes (page : List Node) : List Char :=
  let parts := convertAll [⟨pageName, [], page, false⟩] [] page
  Text.trimWhile (· = '\n') (joinContent ⟨[], [], []⟩ pageName parts)

end PromptTree.Html.Markdown

namespace PromptTree.Html

/-- What a page is about, as Markdown. It is written as a page first, so that a document type ends its
line. -/
def markdown (page : String) : Except Rejected String := do
  let content := Node.renderAll (Node.mainContent (← Node.read page))
  return .ofList (Markdown.trim (Markdown.ofNodes (Node.ofTokens (← tokens content))))

end PromptTree.Html
