import ChatFlow.Text.Blank

/-!
# Templates

A template is text with placeholders: two opening braces, a name without
closing braces, two closing braces.  `pieces` cuts a template into single
characters and placeholders from left to right, and `fill` puts a text in the
place of every placeholder that has one.  A placeholder without a text stays as
it is written, and what is filled in is not looked at again.
-/

namespace ChatFlow.Template

/-- A character of the template, or the name between the braces of a placeholder. -/
inductive Piece where
  | plain (c : Char)
  | hole (name : List Char)
  deriving DecidableEq, Repr

/-- The name of the placeholder at the start of the text, and the text after it. -/
def hole? : List Char → Option (List Char × List Char)
  | '\x7b' :: '\x7b' :: rest =>
    match rest.takeWhile (· ≠ '\x7d'), rest.dropWhile (· ≠ '\x7d') with
    | c :: name, '\x7d' :: '\x7d' :: after => some (c :: name, after)
    | _, _ => none
  | _ => none

theorem length_dropWhile_le (p : Char → Bool) (s : List Char) : (s.dropWhile p).length ≤ s.length :=
  (List.dropWhile_sublist p).length_le

theorem length_of_hole? {s name after : List Char} (h : hole? s = some (name, after)) :
    after.length < s.length := by
  unfold hole? at h
  split at h
  · next rest =>
    split at h
    · next hd =>
      have hl := length_dropWhile_le (· ≠ '\x7d') rest
      rw [hd] at hl
      simp only [Option.some.injEq, Prod.mk.injEq] at h
      obtain ⟨-, rfl⟩ := h
      simp only [List.length_cons] at hl ⊢
      omega
    · cases h
  · cases h

/-- The pieces of a template. -/
def pieces (s : List Char) : List Piece :=
  match s with
  | [] => []
  | c :: rest =>
    match _h : hole? (c :: rest) with
    | some (name, after) => .hole name :: pieces after
    | none => .plain c :: pieces rest
termination_by s.length
decreasing_by
  · exact length_of_hole? (by assumption)
  · simp

/-- The names of the placeholders of a template. -/
def holes (s : List Char) : List (List Char) :=
  (pieces s).filterMap fun p =>
    match p with
    | .hole name => some name
    | .plain _ => none

/-- The text of a piece, given the texts that stand for names. -/
def Piece.fill (find : List Char → Option (List Char)) : Piece → List Char
  | plain c => [c]
  | hole name => (find name).getD ('\x7b' :: '\x7b' :: name ++ ['\x7d', '\x7d'])

/-- The template with the texts that `find` gives in the places of its placeholders. -/
def fill (find : List Char → Option (List Char)) (s : List Char) : List Char :=
  (pieces s).flatMap (Piece.fill find)

@[simp] theorem pieces_nil : pieces [] = [] := by rw [pieces]

theorem pieces_of_hole? {c : Char} {rest name after : List Char}
    (h : hole? (c :: rest) = some (name, after)) :
    pieces (c :: rest) = .hole name :: pieces after := by
  rw [pieces]
  split
  · next h' => rw [h] at h'; cases h'; rfl
  · next h' => rw [h] at h'; cases h'

theorem pieces_of_no_hole {c : Char} {rest : List Char} (h : hole? (c :: rest) = none) :
    pieces (c :: rest) = .plain c :: pieces rest := by
  rw [pieces]
  split
  · next h' => rw [h] at h'; cases h'
  · rfl

@[simp] theorem fill_nil (find : List Char → Option (List Char)) : fill find [] = [] := by
  simp [fill]

end ChatFlow.Template
