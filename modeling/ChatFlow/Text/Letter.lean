import ChatFlow.Text.CaseTable

/-!
# Upper and lower case

Case mapping of whole texts.  A letter maps by the tables of the standard; two
mappings look further than one letter: the dotted capital I becomes an i with a
dot above, and the capital sigma takes its final form at the end of a word.
-/

namespace ChatFlow.Text

/-- The character that a table of case mappings gives for `c`; characters without a row stay. -/
def mapCase (rows : List (Nat × Nat × Nat × Int)) (c : Char) : Char :=
  match rows.find? fun r => r.1 ≤ c.toNat && c.toNat ≤ r.2.1 && (c.toNat - r.1) % r.2.2.1 == 0 with
  | some r => Char.ofNat (Int.toNat (c.toNat + r.2.2.2))
  | none => c

private def inRanges (ranges : List (Nat × Nat)) (c : Char) : Bool :=
  ranges.any fun r => r.1 ≤ c.toNat && c.toNat ≤ r.2

/-- Whether the first character that is not passed over has case. -/
def meetsCased (s : List Char) : Bool :=
  match s.find? fun c => !inRanges caseIgnorableRanges c with
  | some c => inRanges casedRanges c
  | none => false

/-- A text in lower case; `before` holds the characters already read, the last one first. -/
def lowerChars (before : List Char) : List Char → List Char
  | [] => []
  | c :: rest =>
    let mapped :=
      if c.toNat < 128 then [c.toLower]
      else if c.toNat = 0x130 then ['i', Char.ofNat 0x307]
      else if c.toNat = 0x3A3 then
        [Char.ofNat (if meetsCased before && !meetsCased rest then 0x3C2 else 0x3C3)]
      else [mapCase lowerRows c]
    mapped ++ lowerChars (c :: before) rest

/-- A character in upper case; a few become several characters. -/
def upperChar (c : Char) : List Char :=
  if c.toNat < 128 then [c.toUpper]
  else match upperExpansions.find? fun r => r.1 = c.toNat with
    | some r => r.2.map Char.ofNat
    | none => [mapCase upperRows c]

/-- The text in lower case. -/
def lower (s : String) : String := String.ofList (lowerChars [] s.toList)

/-- The text in upper case. -/
def upper (s : String) : String := String.ofList (s.toList.flatMap upperChar)

end ChatFlow.Text
