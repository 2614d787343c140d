import ChatFlow.Entries
import ChatFlow.Json.Reader
import ChatFlow.Text.Base64
import ChatFlow.Text.Split
import ChatFlow.Text.Utf8

/-!
# The query of an address

The part of an address after the question mark: names and values, parted by
ampersands and equality signs, in percent encoding, a plus sign being a blank.
What is encoded is UTF-8.  A query is ASCII; a byte that stands in it plainly and
is not ASCII is the character of its number, as it is in a header.
-/

namespace ChatFlow.Web

/-- The characters of the bytes that are sent for a text, each byte being one character. -/
def sentChars (s : String) : List Char := (Text.bytesOf s).map Char.ofNat

/-- A text of a header as it arrives. -/
def headerText (s : String) : String := String.ofList (sentChars s)

/-- The bytes of an ASCII text in percent encoding; a percent sign without two digits after it stands
for itself. -/
def encodedBytes : List Char → List Nat
  | '%' :: a :: b :: rest =>
    match Json.hexValue? a, Json.hexValue? b with
    | some m, some n => (m * 16 + n) :: encodedBytes rest
    | _, _ => 37 :: encodedBytes (a :: b :: rest)
  | c :: rest => c.toNat :: encodedBytes rest
  | [] => []
termination_by s => s.length

/-- The characters that a text in percent encoding stands for: each run of ASCII is decoded by itself,
and what is not ASCII stands for itself.  `run` holds the run begun, the last character first. -/
def percentDecoded (run : List Char) : List Char → List Char
  | [] => (Text.ofBytes (encodedBytes run.reverse)).toList
  | c :: rest =>
    if c.toNat < 128 then percentDecoded (c :: run) rest
    else (Text.ofBytes (encodedBytes run.reverse)).toList ++ c :: percentDecoded [] rest

/-- A name or a value in a query, where a plus sign is a blank. -/
def queryText (s : List Char) : String :=
  String.ofList (percentDecoded [] (s.map fun c => if c = '+' then ' ' else c))

/-- One name with its value, which is empty if it is left out. -/
def queryPair (s : List Char) : String × String :=
  (queryText (s.takeWhile (· ≠ '=')), queryText ((s.dropWhile (· ≠ '=')).drop 1))

/-- The names of a query with their values: of two with one name the later value counts. -/
def queryEntries (query : String) : Entries String :=
  let parts := (Text.pieces '&' (sentChars query)).filter fun s => !s.isEmpty
  Entries.ofPairs (parts.map queryPair)

end ChatFlow.Web
