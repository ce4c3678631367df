import Gatehouse.Base64
/-!
# PEM — keys as text

A block is a label and a content between a BEGIN and an END line.  There are two readers.  `Pem.first?` looks for the
first block in any text and is lenient about its lines; `Pem.only?` wants the block to be laid out strictly, with
nothing after it.  `Pem.write` lays a block out in lines of 64 characters.
-/
namespace Gatehouse
namespace Pem

/-- A labelled content. -/
structure Block where
  label : List Char
  content : List UInt8
  deriving DecidableEq, Repr

/-- What a BEGIN line starts with. -/
def beginMark : List Char := "-----BEGIN ".toList

/-- What an END line starts with. -/
def endMark : List Char := "-----END ".toList

/-- What both lines end with. -/
def dashes : List Char := "-----".toList

/-! ## Writing -/

/-- A text in lines of a given width; `fuel` bounds their number. -/
def wrap (width : Nat) : Nat → List Char → List (List Char)
  | 0, _ => []
  | _ + 1, [] => []
  | fuel + 1, c :: cs => (c :: cs).take width :: wrap width fuel ((c :: cs).drop width)

/-- The lines of a content. -/
def bodyLines (content : List UInt8) : List (List Char) :=
  let text := Base64.encodePadded .standard content
  wrap 64 text.length text

/-- A block in lines of 64 characters. -/
def write (label : List Char) (content : List UInt8) : List Char :=
  beginMark ++ label ++ dashes ++ '\n' :: ((bodyLines content).flatMap fun line => line ++ ['\n']) ++
    endMark ++ label ++ dashes ++ ['\n']

/-! ## The first block of a text -/

/-- The text before a mark and the text after it.  The mark is followed character by character: where one does not fit,
the search starts over behind that character, so a mark that begins inside a failed attempt is not seen. -/
def cutAt? (mark : List Char) : List Char → List Char → List Char → Option (List Char × List Char)
  | [], before, rest => some ((before.drop mark.length).reverse, rest)
  | _ :: _, _, [] => none
  | m :: ms, before, c :: cs => if c = m then cutAt? mark ms (c :: before) cs else cutAt? mark mark (c :: before) cs

/-- The text before the first mark found and the text after it. -/
def cut? (mark text : List Char) : Option (List Char × List Char) := cutAt? mark mark [] text

/-- Blanks between the BEGIN line and the content. -/
def isLineBlank (c : Char) : Bool := c = ' ' || c = '\t' || c = '\n' || c = '\r'

/-- The header lines before an empty line, and the text after it. -/
def headers (body : List Char) : List Char × List Char :=
  match cut? ['\n', '\n'] body with
  | some parts => parts
  | none => (cut? ['\r', '\n', '\r', '\n'] body).getD ([], body)

/-- The lines of a text, each ended by a line feed; the last may stand without one, and an empty last one is none. -/
def lines (text : List Char) : List (List Char) :=
  let all := Text.splitOn '\n' text
  if all.getLast? = some [] then all.dropLast else all

/-- The first block of a text.  Text before it and behind it is passed over, header lines need a colon, and the END
line must have the label of the BEGIN line. -/
def first? (text : List Char) : Option Block := do
  let (_, text) ← cut? beginMark text
  let (label, text) ← cut? dashes text
  let (body, text) ← cut? endMark (text.dropWhile isLineBlank)
  let (endLabel, _) ← cut? dashes text
  let (head, data) := headers body
  if label.isEmpty || label ≠ endLabel then none
  else
    let content ← Base64.decodePadded? .standard (data.filter fun c => !Text.isBlank c)
    if (lines head).all (·.contains ':') then some ⟨label, content⟩ else none

/-! ## A strictly laid out block -/

/-- The text after a line end: a line feed, a carriage return, or both in this order. -/
def dropLineEnd? : List Char → Option (List Char)
  | '\r' :: '\n' :: rest => some rest
  | '\n' :: rest => some rest
  | '\r' :: rest => some rest
  | _ => none

/-- The text from the first BEGIN mark on that starts the text or follows a line feed.  No zero character may precede
it. -/
def fromBegin? : List Char → Option (List Char)
  | [] => none
  | c :: rest =>
    if c.toNat = 0 then none
    else if c = '\n' && (Text.dropPrefix? beginMark rest).isSome then Text.dropPrefix? beginMark rest
    else fromBegin? rest

/-- The text without an ending. -/
def dropSuffix? (suffix text : List Char) : Option (List Char) :=
  (Text.dropPrefix? suffix.reverse text.reverse).map List.reverse

/-- The text without a line end at its end. -/
def dropLastLineEnd? (text : List Char) : Option (List Char) :=
  match text.reverse with
  | '\n' :: '\r' :: rest => some rest.reverse
  | '\n' :: rest => some rest.reverse
  | '\r' :: rest => some rest.reverse
  | _ => none

/-- The lines of a body, at line ends of any kind. -/
def bodyLinesOf (line : List Char) : List Char → List (List Char)
  | [] => [line.reverse]
  | '\r' :: '\n' :: rest => line.reverse :: bodyLinesOf [] rest
  | c :: rest =>
    if c = '\n' || c = '\r' then line.reverse :: bodyLinesOf [] rest else bodyLinesOf (c :: line) rest

/-- Whether all lines but the last have a width, and the last is not longer. -/
def hasWidth (width : Nat) : List (List Char) → Bool
  | [] => true
  | [last] => last.length ≤ width && !last.isEmpty
  | line :: rest => line.length = width && hasWidth width rest

/-- The one block of a text with a given label: lines of one width between the BEGIN and END lines, with nothing
behind, and before only lines of other text. -/
def only? (label text : List Char) : Option (List UInt8) := do
  let text ← match Text.dropPrefix? beginMark text with
    | some rest => some rest
    | none => fromBegin? text
  let text ← Text.dropPrefix? (label ++ dashes) text
  let text ← dropLineEnd? text
  let text := (dropLastLineEnd? text).getD text
  let text ← dropSuffix? (endMark ++ label ++ dashes) text
  let body ← dropLastLineEnd? text
  let ls := bodyLinesOf [] body
  if hasWidth ((ls.head?.map List.length).getD 0) ls then Base64.decodePadded? .standard ls.flatten else none

end Pem
end Gatehouse
