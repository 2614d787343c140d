/-!
# Blank characters

The characters that separate words in any script: the controls from tab to
carriage return and from file to unit separator, the space, the next-line and
no-break characters, and the spaces and separators of the general punctuation
block.  `strip` takes them from both ends of a text and leaves the middle
alone.
-/

namespace ChatFlow.Text

/-- A blank is a character of the class "space" of the Unicode standard, or one
of the four separator controls. -/
def isBlank (c : Char) : Bool :=
  let n := c.toNat
  (9 ≤ n && n ≤ 13) || (28 ≤ n && n ≤ 32) || n == 0x85 || n == 0xA0 || n == 0x1680
    || (0x2000 ≤ n && n ≤ 0x200A) || n == 0x2028 || n == 0x2029 || n == 0x202F
    || n == 0x205F || n == 0x3000

/-- A blank that the Unicode standard counts as white space, so not a separator control. -/
def isWhiteSpace (c : Char) : Bool := isBlank c && !(28 ≤ c.toNat && c.toNat ≤ 31)

/-- The text without the characters of a class at its end. -/
def dropEnd (drop : Char → Bool) : List Char → List Char
  | [] => []
  | c :: rest =>
    match dropEnd drop rest with
    | [] => if drop c then [] else [c]
    | kept => c :: kept

/-- The text without the characters of a class at either end. -/
def trim (drop : Char → Bool) (s : List Char) : List Char := dropEnd drop (s.dropWhile drop)

/-- The text without the blanks at either end. -/
def stripChars (s : List Char) : List Char := trim isBlank s

/-- The text without the blanks at either end. -/
def strip (s : String) : String := String.ofList (stripChars s.toList)

theorem isBlank_space : isBlank ' ' = true := by decide

/-- Every character that core calls white space is a blank. -/
theorem isBlank_of_isWhitespace {c : Char} (h : c.isWhitespace = true) : isBlank c = true := by
  simp only [Char.isWhitespace, Bool.or_eq_true, decide_eq_true_eq] at h
  rcases h with ((rfl | rfl) | rfl) | rfl <;> decide

end ChatFlow.Text
