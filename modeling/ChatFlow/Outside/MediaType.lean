import ChatFlow.Failure
import ChatFlow.Outside.Query
import ChatFlow.Text.Base64
import ChatFlow.Text.Blank
import ChatFlow.Text.Charset
import ChatFlow.Text.Letter

/-!
# What the body of a reply is

The header that names the kind of a body may also name its character set, as a
parameter after a semicolon.  `HttpReply.text` is the body read in that set; a
set that nobody knows counts as none, and without one the body is UTF-8.
-/

namespace ChatFlow.Http

/-- The parts of a header between its semicolons; one inside quotes parts nothing.  `quoted` says
whether a quote is open, `last` is the character before, and `acc` holds the part begun, the last
character first. -/
def headerParts (quoted : Bool) (last : Char) (acc : List Char) : List Char → List (List Char)
  | [] => [acc.reverse]
  | c :: rest =>
    if c = ';' && !quoted then acc.reverse :: headerParts false c [] rest
    else headerParts (if c = '"' && last ≠ '\\' then !quoted else quoted) c (c :: acc) rest

/-- A text without the quotes or the angles around it. -/
def unquotedPart (s : List Char) : List Char :=
  if 1 < s.length && s.head? = some '"' && s.getLast? = some '"' then
    (s.drop 1).dropLast
  else if 1 < s.length && s.head? = some '<' && s.getLast? = some '>' then (s.drop 1).dropLast
  else s

/-- The name of a parameter in lower case and its value. -/
def parameterOf (part : List Char) : String × String :=
  let name := Text.stripChars (part.takeWhile (· ≠ '='))
  let value := Text.stripChars ((part.dropWhile (· ≠ '=')).drop 1)
  (Text.lower (String.ofList name), String.ofList (unquotedPart value))

/-- The character set that a header names. -/
def charsetOf? (header : String) : Option String :=
  ((headerParts false ' ' [] header.toList).map parameterOf).find? (·.1 = "charset") |>.map (·.2)

end ChatFlow.Http

namespace ChatFlow

/-- A header of a reply by its name in lower case; those with one name are joined. -/
def HttpReply.header? (r : HttpReply) (name : String) : Option String :=
  match (r.headers.filter fun e => Text.lower e.1 = name).map Prod.snd with
  | [] => none
  | values => some (String.intercalate ", " values)

/-- The body of a reply as text, in the character set that its header names. -/
def HttpReply.text (r : HttpReply) : Except Failure String :=
  match ((r.header? "content-type").bind Http.charsetOf?).bind Text.Charset.named? with
  | none => .ok r.body
  | some set =>
    match set.read (Text.bytesOf r.body), set with
    | some text, _ => .ok text
    | none, .utf32 _ => .error (.noByteOrder 32)
    | none, _ => .error (.noByteOrder 16)

end ChatFlow
