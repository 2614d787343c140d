import ChatFlow.Proofs.Engine.Opening

/-!
# What an opening leaves as it is

However a call begins, it leaves the flows and the address of the database as they
are, and the records are kept under their ids.  A run that sets out has the id that
is given for it, and if none is given the next one that is made up; no other id is
made up (`Call.Opens.frame`).
-/

namespace ChatFlow

open Engine

/-- The id of a run for which this id is given; the empty id means that one is made up. -/
def Runs.idFor (runs : Runs) (given : String) : String :=
  if given = "" then madeId (runs.made + 1) else given

/-- The id that is given for the run of a call. -/
def Call.givenId (s : EngineState) : Call → String
  | run _ _ _ _ id => id.getD ""
  | webhook _ _ _ _ id => id.getD ""
  | resume conversation _ _ => ((s.pauses.lookup conversation).bind Pause.run).getD ""
  | receive m => ((s.pauses.lookup m.phone).bind Pause.run).getD ""

theorem Runs.idFor_ne_empty (runs : Runs) (given : String) : runs.idFor given ≠ "" := by
  unfold idFor
  split
  · exact madeId_ne_empty _
  · assumption

section

variable {service : Service} {s s₁ : EngineState} {flow conversation : String}
  {vars further : Entries Value} {start id : Option String} {o : Opening} {call : Call}

/-- What an opening leaves as it is, and which id it gives to a run that sets out. -/
structure Opening.Frame (o : Opening) (given : String) (s s₁ : EngineState) : Prop where
  flows : s₁.flows = s.flows
  database : s₁.database = s.database
  keyed : s.runs.Keyed → s₁.runs.Keyed
  made : s₁.runs.made =
    if o.departure?.isSome ∧ given = "" then s.runs.made + 1 else s.runs.made
  id : s.runs.Keyed → ∀ d, o.departure? = some d → d.journey.run = s.runs.idFor given

/-- An opening of which no run sets out leaves flows and records as they are. -/
theorem Opening.Frame.of_stays {given : String} (ho : o.departure? = none)
    (conversation : String) (hs : s₁ = s ∨ s₁ = s.unpause conversation) : o.Frame given s s₁ := by
  have hmade : s.runs.made =
      if o.departure?.isSome ∧ given = "" then s.runs.made + 1 else s.runs.made := by
    simp [ho]
  have hid : s.runs.Keyed → ∀ d, o.departure? = some d → d.journey.run = s.runs.idFor given := by
    rintro - d hd
    rw [ho] at hd
    cases hd
  rcases hs with rfl | rfl
  · exact ⟨rfl, rfl, fun h => h, hmade, hid⟩
  · exact ⟨rfl, rfl, fun h => h, hmade, hid⟩

theorem Starts.frame (h : Starts service s flow conversation vars start id o s₁) :
    o.Frame (id.getD "") s s₁ := by
  cases h with
  | unknown hf => exact .of_stays rfl conversation (Or.inl rfl)
  | unreadable hf hd => exact .of_stays rfl conversation (Or.inl rfl)
  | starts hf hd hr =>
    refine ⟨rfl, rfl, fun h => h.create hr, ?_, ?_⟩
    · simpa [Opening.departure?] using Runs.create_made hr
    · rintro - d ⟨⟩
      exact Runs.create_id hr

theorem Resumes.frame (h : Resumes service s conversation flow further o s₁) :
    o.Frame (((s.pauses.lookup conversation).bind Pause.run).getD "") s s₁ := by
  cases h with
  | idle hp => exact .of_stays rfl conversation (Or.inl rfl)
  | unknown hp hpf hf => exact .of_stays rfl conversation (Or.inr rfl)
  | unreadable hp hpf hf hd => exact .of_stays rfl conversation (Or.inr rfl)
  | @reopens p stored document record hp hpf hf hd hr =>
    have hne : p.run.getD "" ≠ "" := by
      intro he
      rw [he] at hr
      cases hr
    rw [hp, Option.bind_some]
    refine ⟨rfl, rfl, fun h => h.update _ fun _ => rfl, ?_, ?_⟩
    · simp [Opening.departure?, hne, EngineState.updateRun, EngineState.unpause]
    · rintro hk d ⟨⟩
      rw [Runs.idFor, if_neg hne]
      exact hk _ _ hr
  | renews hp hpf hf hd hn hr =>
    rw [hp, Option.bind_some]
    refine ⟨rfl, rfl, fun h => h.create hr, ?_, ?_⟩
    · simpa [Opening.departure?] using Runs.create_made hr
    · rintro - d ⟨⟩
      exact Runs.create_id hr

theorem Call.Opens.frame (h : call.Opens service s o s₁) : o.Frame (call.givenId s) s s₁ := by
  have hs := h.eq_or_unpause
  cases h with
  | run h => exact h.frame
  | webhook h => exact h.frame
  | resume h => exact h.frame
  | unread hp he => exact .of_stays rfl _ (hs rfl)
  | reply hp hv h => exact h.frame
  | unmatched hp hm => exact .of_stays rfl _ (hs rfl)
  | unmatchable hp hm => exact .of_stays rfl _ (hs rfl)
  | keyword hp hm h =>
    rw [Call.givenId, hp]
    exact h.frame

end

end ChatFlow
