import ChatFlow.Variables.Scope

/-!
# Filling a template part by part

A template is written as literals and placeholders one after the other.  Where no literal
has two opening braces in a row or an opening brace at its end, the template is cut at
the bounds of these parts again, whatever braces stand elsewhere (`pieces_written`).
So each part is filled by itself, and neither another part nor a value that is filled in
has any influence on it (`parts_filled_alone`).
-/

namespace ChatFlow

namespace Template

/-- A part of a template as it is written: text that stands for itself, or the braces of a placeholder
around a path. -/
inductive Part where
  | literal (text : String)
  | placeholder (path : String)
  deriving DecidableEq, Repr

namespace Part

/-- The text of a part in the template. -/
def written : Part → String
  | literal text => text
  | placeholder path => "\x7b\x7b" ++ path ++ "\x7d\x7d"

/-- No placeholder begins in a literal, not even together with the text after it, and a placeholder
ends only at its end. -/
def WellFormed : Part → Prop
  | literal text =>
    ¬ ['\x7b', '\x7b'] <:+: text.toList ∧ text.toList.getLast? ≠ some '\x7b'
  | placeholder path => path ≠ "" ∧ '\x7d' ∉ path.toList

instance : DecidablePred WellFormed
  | literal text => inferInstanceAs <| Decidable <|
      ¬ ['\x7b', '\x7b'] <:+: text.toList ∧ text.toList.getLast? ≠ some '\x7b'
  | placeholder path => inferInstanceAs <| Decidable <| path ≠ "" ∧ '\x7d' ∉ path.toList

/-- The pieces that a part is cut into. -/
def pieces : Part → List Piece
  | literal text => text.toList.map .plain
  | placeholder path => [.hole path.toList]

/-- The path of a placeholder. -/
def path? : Part → Option (List Char)
  | literal _ => none
  | placeholder path => some path.toList

/-- What a part becomes: a literal stays, and a placeholder gives way to the value that its path has,
if it has one. -/
def shown (scope : Scope) : Part → String
  | literal text => text
  | placeholder path =>
    match scope.lookup (Text.strip path) with
    | some v => v.render
    | none => "\x7b\x7b" ++ path ++ "\x7d\x7d"

/-- Whether a part is a placeholder that asks for a system variable. -/
def asksClock : Part → Bool
  | literal _ => false
  | placeholder path => Scope.asksClock path

end Part

/-- The template that is written with these parts, one after the other. -/
def written (parts : List Part) : String := String.join (parts.map Part.written)

/-! ### Cutting -/

theorem hole?_eq_none {s : List Char} (h : ¬ ['\x7b', '\x7b'] <+: s) : hole? s = none := by
  unfold hole?
  split
  · exact absurd ⟨_, rfl⟩ h
  · rfl

/-- The name of a placeholder reaches up to its first closing brace. -/
theorem hole?_placeholder {name : List Char} (hne : name ≠ []) (hname : '\x7d' ∉ name)
    (rest : List Char) :
    hole? ('\x7b' :: '\x7b' :: name ++ '\x7d' :: '\x7d' :: rest) = some (name, rest) := by
  have hopen : ∀ c ∈ name, decide (c ≠ '\x7d') = true := fun c hc =>
    decide_eq_true fun heq => hname (heq ▸ hc)
  have htake : (name ++ '\x7d' :: '\x7d' :: rest).takeWhile (· ≠ '\x7d') = name := by
    rw [List.takeWhile_append_of_pos hopen]
    simp
  have hdrop : (name ++ '\x7d' :: '\x7d' :: rest).dropWhile (· ≠ '\x7d') =
      '\x7d' :: '\x7d' :: rest := by
    rw [List.dropWhile_append_of_pos hopen]
    simp
  obtain ⟨c, name, rfl⟩ := List.exists_cons_of_ne_nil hne
  simp only [hole?, List.cons_append] at htake hdrop ⊢
  rw [htake, hdrop]
  rfl

theorem pieces_placeholder {name : List Char} (hne : name ≠ []) (hname : '\x7d' ∉ name)
    (rest : List Char) :
    pieces ('\x7b' :: '\x7b' :: name ++ '\x7d' :: '\x7d' :: rest) = .hole name :: pieces rest :=
  pieces_of_hole? (hole?_placeholder hne hname rest)

/-- Text in which no placeholder begins is cut into its characters. -/
theorem pieces_literal {text : List Char} (hopen : ¬ ['\x7b', '\x7b'] <:+: text)
    (hend : text.getLast? ≠ some '\x7b') (rest : List Char) :
    pieces (text ++ rest) = text.map .plain ++ pieces rest := by
  induction text with
  | nil => rfl
  | cons c text ih =>
    have hno : hole? (c :: (text ++ rest)) = none := by
      refine hole?_eq_none fun hbraces => ?_
      obtain ⟨rfl, hbrace⟩ := List.cons_prefix_cons.mp hbraces
      cases text with
      | nil => exact hend rfl
      | cons d text =>
        obtain ⟨rfl, -⟩ := List.cons_prefix_cons.mp hbrace
        exact hopen ⟨[], text, rfl⟩
    have htext : pieces (text ++ rest) = text.map .plain ++ pieces rest := by
      refine ih (fun hbraces => hopen (hbraces.trans (List.suffix_cons c text).isInfix))
        fun hlast => hend ?_
      rw [List.getLast?_cons, hlast]
      rfl
    rw [List.cons_append, pieces_of_no_hole hno, htext]
    rfl

/-- A part is cut off by itself, whatever comes after it. -/
theorem pieces_part {part : Part} (h : part.WellFormed) (rest : List Char) :
    pieces (part.written.toList ++ rest) = part.pieces ++ pieces rest := by
  cases part with
  | literal text => exact pieces_literal h.1 h.2 rest
  | placeholder path =>
    have hne : path.toList ≠ [] := fun hnil => h.1 (String.toList_eq_nil_iff.mp hnil)
    have hlist : (Part.placeholder path).written.toList ++ rest =
        '\x7b' :: '\x7b' :: path.toList ++ '\x7d' :: '\x7d' :: rest := by
      simp [Part.written, String.toList_append]
    rw [hlist, pieces_placeholder hne h.2]
    rfl

theorem toList_written_cons (part : Part) (parts : List Part) :
    (written (part :: parts)).toList = part.written.toList ++ (written parts).toList := by
  simp [written, String.toList_append]

/-- A template is cut at the bounds of its parts. -/
theorem pieces_written {parts : List Part} (h : ∀ part ∈ parts, part.WellFormed) :
    pieces (written parts).toList = parts.flatMap Part.pieces := by
  induction parts with
  | nil => exact pieces_nil
  | cons part parts ih =>
    have hrest : pieces (written parts).toList = parts.flatMap Part.pieces :=
      ih fun p hp => h p (List.mem_cons_of_mem part hp)
    rw [toList_written_cons, pieces_part (h part List.mem_cons_self), hrest]
    rfl

theorem holes_written {parts : List Part} (h : ∀ part ∈ parts, part.WellFormed) :
    holes (written parts).toList = parts.filterMap Part.path? := by
  unfold holes
  rw [pieces_written h]
  clear h
  induction parts with
  | nil => rfl
  | cons part parts ih =>
    rw [List.flatMap_cons, List.filterMap_append, ih]
    cases part with
    | literal text =>
      rw [List.filterMap_cons_none (show (Part.literal text).path? = none from rfl)]
      simp [Part.pieces]
    | placeholder path => rfl

end Template

open Template

namespace Scope

variable (scope : Scope)

theorem fill_pieces (part : Part) :
    part.pieces.flatMap (Piece.fill scope.holeText) = (part.shown scope).toList := by
  cases part with
  | literal text => simp [Part.pieces, Part.shown, Piece.fill, List.flatMap_map]
  | placeholder path =>
    have hfind : scope.holeText path.toList =
        (scope.lookup (Text.strip path)).map fun v => v.render.toList := by
      rw [holeText, String.ofList_toList, get?]
    simp only [Part.pieces, Part.shown, List.flatMap_singleton, Piece.fill, hfind]
    cases scope.lookup (Text.strip path) with
    | none => simp [String.toList_append]
    | some v => rfl

/-- A template becomes what its parts become, one after the other. -/
theorem interpolate_written {parts : List Part} (h : ∀ part ∈ parts, part.WellFormed) :
    scope.interpolate (written parts) = String.join (parts.map (Part.shown scope)) := by
  have hfill : Template.fill scope.holeText (written parts).toList =
      parts.flatMap fun part => (part.shown scope).toList :=
    calc Template.fill scope.holeText (written parts).toList
        = (parts.flatMap Part.pieces).flatMap (Piece.fill scope.holeText) := by
          rw [Template.fill, pieces_written h]
      _ = parts.flatMap fun part => part.pieces.flatMap (Piece.fill scope.holeText) :=
        List.flatMap_assoc
      _ = parts.flatMap fun part => (part.shown scope).toList := by simp only [fill_pieces]
  apply String.toList_injective
  rw [interpolate, hfill, String.toList_ofList, String.toList_join, List.flatMap_map]

theorem templateAsksClock_written {parts : List Part} (h : ∀ part ∈ parts, part.WellFormed) :
    templateAsksClock (written parts) = parts.any Part.asksClock := by
  rw [templateAsksClock, holes_written h, List.any_filterMap]
  refine congrArg parts.any (funext fun part => ?_)
  cases part with
  | literal text => rfl
  | placeholder path =>
    show asksClock (String.ofList path.toList) = asksClock path
    rw [String.ofList_toList]

/-- **A template is filled part by part.**  Literals stay as they are, and in the place of each
placeholder stands the value of its path, blanks around it ignored, or the placeholder itself if there is
no value.  This is the whole text, so no part changes how another one is read, and a value with braces in
it is not read again.  Only where a placeholder asks for a system variable and the clock shows no date,
there is no text at all. -/
theorem parts_filled_alone (parts : List Part) (h : ∀ part ∈ parts, part.WellFormed) :
    ((∀ part ∈ parts, part.asksClock = true → scope.locale.isDated = true) →
      scope.fill (written parts) = .ok (String.join (parts.map (Part.shown scope)))) ∧
    ∀ part ∈ parts, part.asksClock = true → scope.locale.isDated = false →
      scope.fill (written parts) = .error .noDate := by
  unfold fill checked
  rw [templateAsksClock_written h, interpolate_written scope h]
  constructor
  · intro hdated
    cases hasks : parts.any Part.asksClock with
    | false => rfl
    | true =>
      obtain ⟨part, hpart, hasks⟩ := List.any_eq_true.mp hasks
      rw [hdated part hpart hasks]
      rfl
  · intro part hpart hasks hundated
    rw [List.any_eq_true.mpr ⟨part, hpart, hasks⟩, hundated]
    rfl

/-- A variable whose text looks like a placeholder of another one. -/
def braced : Scope :=
  ⟨[("name", .str "\x7b\x7bsecret\x7d\x7d"), ("secret", .str "42")], ⟨⟨0⟩, "UTC", ""⟩⟩

/-- Its text is delivered as it is, between braces that belong to the template. -/
theorem parts_filled_alone_braced :
    braced.fill "\x7d\x7b\x7d\x7b\x7b name \x7d\x7d\x7d, \x7b\x7b\x7b\x7d\x7d" =
      .ok "\x7d\x7b\x7d\x7b\x7bsecret\x7d\x7d\x7d, \x7b\x7b\x7b\x7d\x7d" := by
  have h := parts_filled_alone braced
    [.literal "\x7d\x7b\x7d", .placeholder " name ", .literal "\x7d, ", .placeholder "\x7b"] (by decide)
  exact h.1 (by decide)

/-- The circumstances of a local clock that has gone past the last year. -/
def pastYears : Scope :=
  ⟨[], ⟨.ofSeconds 253402300799, "Africa/Addis_Ababa", ""⟩⟩

/-- There a placeholder without a value does not stay, since asking for it fails. -/
theorem undated_placeholder_unfilled :
    (∀ part ∈ [Part.placeholder "system.start"], part.WellFormed) ∧
      pastYears.lookup (Text.strip "system.start") = none ∧
      pastYears.fill (written [.placeholder "system.start"]) = .error .noDate :=
  ⟨by decide, by with_unfolding_all rfl, by with_unfolding_all rfl⟩

end Scope

end ChatFlow
