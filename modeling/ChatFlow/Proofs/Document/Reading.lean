import ChatFlow.Document.Parse

/-!
# Stored documents that cannot be read

A stored document with a fault is read as the empty one.  What remains are values of
a wrong kind where the shape of the document is put right: edges that cannot be gone
through, and types that cannot be looked up (`Document.ofStored_error`).
-/

namespace ChatFlow

/-- Where steps fail, one of them fails. -/
theorem error_of_bind {ε α β : Type} {x : Except ε α} {f : α → Except ε β} {e : ε}
    (h : (x >>= f) = .error e) : x = .error e ∨ ∃ a, x = .ok a ∧ f a = .error e := by
  cases x with
  | error e' => exact Or.inl (congrArg _ (Except.error.inj h))
  | ok a => exact Or.inr ⟨a, rfl, h⟩

theorem error_of_mapM {ε α β : Type} {f : α → Except ε β} {l : List α} {e : ε}
    (h : l.mapM f = .error e) : ∃ a ∈ l, f a = .error e := by
  induction l with
  | nil => cases h
  | cons a rest ih =>
    rw [List.mapM_cons] at h
    rcases error_of_bind h with h | ⟨b, -, h⟩
    · exact ⟨a, List.mem_cons_self, h⟩
    rcases error_of_bind h with h | ⟨bs, -, h⟩
    · obtain ⟨a', ha', h⟩ := ih h
      exact ⟨a', List.mem_cons_of_mem a ha', h⟩
    · cases h

namespace Document

variable {e : Failure}

theorem isWrapper_error {type : Value} (h : isWrapper type = .error e) :
    ∃ reason, e = .wrongKind reason := by
  cases type with
  | list items => exact ⟨_, (Except.error.inj h).symm⟩
  | object fs => exact ⟨_, (Except.error.inj h).symm⟩
  | _ => cases h

theorem nodeFields_error {fields : Entries Value} (h : nodeFields fields = .error e) :
    ∃ reason, e = .wrongKind reason := by
  unfold nodeFields at h
  dsimp only at h
  split at h
  · rcases error_of_bind h with h | ⟨fs, -, h⟩
    · rcases error_of_bind h with h | ⟨wrapped, -, h⟩
      · exact isWrapper_error h
      · cases h
    · cases h
  · cases h

theorem edgesOf_error {edges : Value} (h : edgesOf edges = .error e) :
    ∃ reason, e = .wrongKind reason := by
  unfold edgesOf at h
  split at h
  · cases h
  · cases h
  · cases h
  · split at h
    · exact ⟨_, (Except.error.inj h).symm⟩
    · cases h

theorem partsOf_error {raw : Entries Value} (h : partsOf raw = .error e) :
    (∃ fault, e = .document fault) ∨ ∃ reason, e = .wrongKind reason := by
  unfold partsOf at h
  split at h
  · cases h
  · rcases error_of_bind h with h | ⟨edges, -, h⟩
    · exact Or.inr (edgesOf_error h)
    rcases error_of_bind h with h | ⟨nodes, -, h⟩
    · obtain ⟨fields, -, h⟩ := error_of_mapM h
      exact Or.inr (nodeFields_error h)
    · cases h
  · exact Or.inl ⟨_, (Except.error.inj h).symm⟩

theorem ofValue_error {v : Value} (h : ofValue v = .error e) :
    (∃ fault, e = .document fault) ∨ ∃ reason, e = .wrongKind reason := by
  unfold ofValue at h
  split at h
  · rcases error_of_bind h with h | ⟨parts, -, h⟩
    · exact partsOf_error h
    · unfold ofParts at h
      split at h
      · cases h
      · exact Or.inl ⟨_, (Except.error.inj h).symm⟩
  · exact Or.inl ⟨_, (Except.error.inj h).symm⟩

theorem parse_error {v : Value} (h : parse v = .error e) :
    (∃ fault, e = .document fault) ∨ ∃ reason, e = .wrongKind reason := by
  unfold parse at h
  split at h
  · cases h
  · rename_i s
    unfold ofText ofRead at h
    split at h
    · exact ofValue_error h
    · exact Or.inl ⟨_, (Except.error.inj h).symm⟩
  · exact ofValue_error h

/-- A stored document that cannot be read has a value of a wrong kind in it. -/
theorem ofStored_error {v : Value} (h : ofStored v = .error e) : ∃ reason, e = .wrongKind reason := by
  unfold ofStored orEmpty at h
  split at h
  · cases h
  · rename_i hfault
    rcases parse_error h with ⟨fault, rfl⟩ | hkind
    · exact absurd h (hfault fault)
    · exact hkind

end Document

end ChatFlow
