/-!
# Named entries in the order of their arrival

A collection of named things that remembers when each name first came: reading
takes the first entry of a name, writing to a known name changes it in place,
and a new name goes to the end.  Variables, the fields of an object, stored
flows, runs and pauses are all kept this way.

The two laws of writing are `find?_put_self` and `find?_put_ne`; `keys_put`
says what writing does to the order.
-/

namespace ChatFlow

/-- Named things in the order in which the names first came. -/
abbrev Entries (α : Type) := List (String × α)

namespace Entries

variable {α : Type}

/-- The entry of this name. -/
def find? (entries : Entries α) (name : String) : Option α :=
  match entries with
  | [] => none
  | (k, v) :: rest => if k = name then some v else find? rest name

/-- Whether there is an entry of this name. -/
def has (entries : Entries α) (name : String) : Bool := (entries.find? name).isSome

/-- The names in their order. -/
def keys (entries : Entries α) : List String := entries.map (·.1)

/-- Writes an entry: in place if the name is known, else at the end. -/
def put (entries : Entries α) (name : String) (value : α) : Entries α :=
  match entries with
  | [] => [(name, value)]
  | (k, v) :: rest => if k = name then (k, value) :: rest else (k, v) :: put rest name value

/-- Drops the entry of this name. -/
def erase (entries : Entries α) (name : String) : Entries α :=
  entries.filter fun e => e.1 ≠ name

/-- Writes every entry of `new`, one after the other. -/
def merge (entries new : Entries α) : Entries α :=
  new.foldl (fun acc e => put acc e.1 e.2) entries

/-- The entries of a list of pairs: of two with one name the later value stands at the earlier
place. -/
def ofPairs (pairs : List (String × α)) : Entries α := merge [] pairs

/-! ### Reading and writing -/

@[simp] theorem find?_nil (name : String) : find? ([] : Entries α) name = none := rfl

theorem find?_cons (k : String) (v : α) (rest : Entries α) (name : String) :
    find? ((k, v) :: rest) name = if k = name then some v else find? rest name := rfl

@[simp] theorem find?_put_self (entries : Entries α) (name : String) (value : α) :
    find? (put entries name value) name = some value := by
  induction entries with
  | nil => simp [put, find?]
  | cons e rest ih =>
    obtain ⟨k, v⟩ := e
    by_cases h : k = name
    · simp [put, find?, h]
    · simpa [put, find?, h] using ih

theorem find?_put_ne (entries : Entries α) {name other : String} (value : α) (h : other ≠ name) :
    find? (put entries name value) other = find? entries other := by
  induction entries with
  | nil => simp [put, find?, Ne.symm h]
  | cons e rest ih =>
    obtain ⟨k, v⟩ := e
    by_cases hk : k = name
    · subst hk; simp [put, find?, Ne.symm h]
    · simp only [put, if_neg hk, find?_cons, ih]

theorem find?_put (entries : Entries α) (name other : String) (value : α) :
    find? (put entries name value) other = if other = name then some value else find? entries other := by
  by_cases h : other = name
  · subst h; simp
  · rw [find?_put_ne entries value h, if_neg h]

@[simp] theorem find?_erase_self (entries : Entries α) (name : String) :
    find? (erase entries name) name = none := by
  induction entries with
  | nil => rfl
  | cons e rest ih =>
    obtain ⟨k, v⟩ := e
    by_cases h : k = name
    · simpa [erase, h] using ih
    · simpa [erase, h, find?_cons] using ih

theorem find?_erase_ne (entries : Entries α) {name other : String} (h : other ≠ name) :
    find? (erase entries name) other = find? entries other := by
  induction entries with
  | nil => rfl
  | cons e rest ih =>
    obtain ⟨k, v⟩ := e
    by_cases hk : k = name
    · subst hk
      simpa [erase, find?_cons, Ne.symm h] using ih
    · by_cases ho : k = other
      · subst ho; simp [erase, hk, find?_cons]
      · simpa [erase, hk, find?_cons, ho] using ih

/-- Of two values written under one name the later one stays. -/
@[simp] theorem put_put (entries : Entries α) (name : String) (v w : α) :
    put (put entries name v) name w = put entries name w := by
  induction entries with
  | nil => simp [put]
  | cons e rest ih =>
    obtain ⟨k, u⟩ := e
    by_cases h : k = name
    · simp [put, h]
    · simp [put, h, ih]

/-- Writing what is there already changes nothing. -/
theorem put_of_find? {entries : Entries α} {name : String} {value : α}
    (h : find? entries name = some value) : put entries name value = entries := by
  induction entries with
  | nil => cases h
  | cons e rest ih =>
    obtain ⟨k, v⟩ := e
    rw [find?_cons] at h
    by_cases hk : k = name
    · rw [if_pos hk] at h
      simp [put, hk, Option.some.inj h]
    · rw [if_neg hk] at h
      simp [put, hk, ih h]

/-- Writing keeps the names and their order; a new name goes to the end. -/
theorem keys_put (entries : Entries α) (name : String) (value : α) :
    keys (put entries name value) = if name ∈ keys entries then keys entries else keys entries ++ [name] := by
  induction entries with
  | nil => simp [put, keys]
  | cons e rest ih =>
    obtain ⟨k, v⟩ := e
    by_cases h : k = name
    · subst h; simp [put, keys]
    · have h' : name ≠ k := Ne.symm h
      simp only [put, if_neg h]
      by_cases hm : name ∈ keys rest
      · simp only [if_pos hm] at ih
        simp [keys] at ih hm ⊢
        simp [ih, hm]
      · simp only [if_neg hm] at ih
        simp [keys] at ih hm ⊢
        simp [ih, hm, h']

end Entries

end ChatFlow
