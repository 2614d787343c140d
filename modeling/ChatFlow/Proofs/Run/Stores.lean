import ChatFlow.Engine.State

/-!
# The stores of flows, records and pauses

What can be read after each way to write: saving changes the flow of one id, every
operation on the records changes the record of one run, every operation on the
pauses that of one conversation, and nothing else.
-/

namespace ChatFlow

/-! ### Flows -/

namespace Flows

theorem find?_save (flows : Flows) (flow : FlowRecord) (id : String) :
    (flows.save flow).find? id = if id = flow.id then some flow else flows.find? id :=
  Entries.find?_put ..

/-- Every flow is kept under its own id. -/
def Keyed (flows : Flows) : Prop := ∀ id flow, flows.find? id = some flow → flow.id = id

theorem Keyed.save {flows : Flows} (h : flows.Keyed) (flow : FlowRecord) :
    (flows.save flow).Keyed := by
  intro id f hf
  rw [find?_save] at hf
  split at hf
  · rename_i hid
    obtain rfl := Option.some.inj hf
    exact hid.symm
  · exact h id f hf

end Flows

/-! ### Records -/

/-- The record after some more nodes. -/
def RunRecord.loggedAll (entries : List LogEntry) (r : RunRecord) : RunRecord :=
  entries.foldl (fun r e => r.logged e) r

namespace RunRecord

variable (r : RunRecord) (entries : List LogEntry)

@[simp] theorem loggedAll_nil : r.loggedAll [] = r := rfl

@[simp] theorem loggedAll_cons (e : LogEntry) :
    r.loggedAll (e :: entries) = (r.logged e).loggedAll entries := rfl

theorem loggedAll_eq : r.loggedAll entries =
    { r with
      currentNode := ((entries.map LogEntry.node).getLast?).or r.currentNode
      log := r.log ++ entries } := by
  induction entries generalizing r with
  | nil => simp
  | cons e rest ih =>
    rw [loggedAll_cons, ih, List.map_cons, List.getLast?_cons]
    cases (rest.map LogEntry.node).getLast? <;> simp [logged]

theorem loggedAll_id : (r.loggedAll entries).id = r.id := by
  rw [loggedAll_eq]

end RunRecord

namespace Runs

variable (runs : Runs)

theorem madeId_ne_empty (n : Nat) : madeId n ≠ "" := by
  intro h
  have hl : (madeId n).toList = [] := by rw [h]; rfl
  simp [madeId] at hl

theorem madeId_inj {m n : Nat} : madeId m = madeId n ↔ m = n := by
  constructor
  · intro h
    have hd : Nat.toDigits 10 m = Nat.toDigits 10 n :=
      String.ofList_injective ((String.append_right_inj _).mp h)
    have hread (k : Nat) : Nat.ofDigitChars 10 (Nat.toDigits 10 k) 0 = k :=
      Nat.ofDigitChars_toDigits (by decide) (by decide)
    rw [← hread m, hd, hread n]
  · rintro rfl
    rfl

@[simp] theorem find?_empty (id : String) : empty.find? id = none := by
  unfold find?
  split <;> rfl

theorem find?_update (id other : String) (f : RunRecord → RunRecord) :
    (runs.update id f).find? other =
      if other = id then (runs.find? other).map f else runs.find? other := by
  unfold update
  cases h : runs.records.find? id with
  | none =>
    by_cases ho : other = id
    · subst ho
      simp [find?, h]
    · rw [if_neg ho]
  | some r =>
    by_cases ho : other = id
    · subst ho
      by_cases he : other = "" <;> simp [find?, h, he]
    · simp [find?, Entries.find?_put_ne _ _ ho, ho]

@[simp] theorem find?_update_self (id : String) (f : RunRecord → RunRecord) :
    (runs.update id f).find? id = (runs.find? id).map f := by
  rw [find?_update, if_pos rfl]

theorem find?_update_ne {id other : String} (h : other ≠ id) (f : RunRecord → RunRecord) :
    (runs.update id f).find? other = runs.find? other := by
  rw [find?_update, if_neg h]

@[simp] theorem update_made (id : String) (f : RunRecord → RunRecord) :
    (runs.update id f).made = runs.made := by
  unfold update
  split <;> rfl

@[simp] theorem update_update (id : String) (f g : RunRecord → RunRecord) :
    (runs.update id f).update id g = runs.update id fun r => g (f r) := by
  unfold update
  cases h : runs.records.find? id with
  | none => simp [h]
  | some r => simp

@[simp] theorem update_same (id : String) : (runs.update id fun r => r) = runs := by
  unfold update
  cases h : runs.records.find? id with
  | none => rfl
  | some r => simp [Entries.put_of_find? h]

/-! ### New records -/

section

variable {runs rest : Runs} {flow conversation : String} {id : Option String} {now : Float}
  {record : RunRecord}

theorem create_eq_start (h : runs.create flow conversation id now = (record, rest)) :
    record = RunRecord.start record.id flow conversation now := by
  obtain ⟨rfl, -⟩ := Prod.mk.inj h
  rfl

/-- A record begins under the id given, or under a new one. -/
theorem create_id (h : runs.create flow conversation id now = (record, rest)) :
    record.id = if id.getD "" = "" then madeId (runs.made + 1) else id.getD "" := by
  obtain ⟨rfl, -⟩ := Prod.mk.inj h
  simp only [RunRecord.start]
  split <;> rfl

theorem create_made (h : runs.create flow conversation id now = (record, rest)) :
    rest.made = if id.getD "" = "" then runs.made + 1 else runs.made := by
  obtain ⟨-, rfl⟩ := Prod.mk.inj h
  rfl

theorem create_id_ne_empty (h : runs.create flow conversation id now = (record, rest)) :
    record.id ≠ "" := by
  obtain ⟨rfl, -⟩ := Prod.mk.inj h
  by_cases hid : id.getD "" = ""
  · simpa [RunRecord.start, hid] using madeId_ne_empty (runs.made + 1)
  · simp [RunRecord.start, hid]

theorem find?_create (h : runs.create flow conversation id now = (record, rest))
    (other : String) :
    rest.find? other = if other = record.id then some record else runs.find? other := by
  have hid := create_id_ne_empty h
  obtain ⟨rfl, rfl⟩ := Prod.mk.inj h
  unfold find?
  rw [Entries.find?_put]
  by_cases ho : other = ""
  · subst ho
    rw [if_pos rfl, if_pos rfl, if_neg hid.symm]
  · rw [if_neg ho, if_neg ho]

end

/-- Every record is kept under its own id. -/
def Keyed (runs : Runs) : Prop := ∀ id r, runs.find? id = some r → r.id = id

theorem Keyed.update {runs : Runs} (h : runs.Keyed) (id : String) {f : RunRecord → RunRecord}
    (hf : ∀ r, (f r).id = r.id) : (runs.update id f).Keyed := by
  intro other r hr
  rw [find?_update] at hr
  split at hr
  · obtain ⟨r', hr', rfl⟩ := Option.map_eq_some_iff.mp hr
    rw [hf, h other r' hr']
  · exact h other r hr

theorem Keyed.create {runs rest : Runs} (h : runs.Keyed) {flow conversation : String}
    {id : Option String} {now : Float} {record : RunRecord}
    (hr : runs.create flow conversation id now = (record, rest)) : rest.Keyed := by
  intro other r ho
  rw [find?_create hr] at ho
  split at ho
  · rename_i he
    obtain rfl := Option.some.inj ho
    exact he.symm
  · exact h other r ho

end Runs

/-! ### Pauses -/

namespace Pauses

variable (pauses : Pauses)

theorem lookup_pause (p : Pause) (conversation : String) :
    (pauses.pause p).lookup conversation =
      if conversation = p.conversation then some p else pauses.lookup conversation :=
  Entries.find?_put ..

/-- Taking out a pause that is there removes it, and leaves those of other conversations. -/
theorem take_of_lookup {conversation : String} {p : Pause}
    (h : pauses.lookup conversation = some p) :
    pauses.take conversation (some p.flow) = (some p, Entries.erase pauses conversation) := by
  simp [take, h]

theorem lookup_erase (conversation other : String) :
    Pauses.lookup (Entries.erase pauses conversation) other =
      if other = conversation then none else pauses.lookup other := by
  by_cases h : other = conversation
  · subst h
    simp [lookup]
  · rw [if_neg h]
    exact Entries.find?_erase_ne pauses h

/-- A pause is taken out only for its own flow. -/
theorem take_of_ne {conversation flow : String}
    (h : ∀ p, pauses.lookup conversation = some p → p.flow ≠ flow) :
    pauses.take conversation (some flow) = (none, pauses) := by
  unfold take
  cases hl : pauses.lookup conversation with
  | none => rfl
  | some p => simp [(h p hl).symm]

end Pauses

end ChatFlow
