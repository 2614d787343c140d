import Mathlib.Data.List.Basic
import Mathlib.Data.String.Basic
import ChatFlow.Proofs.Flow.Ranking

/-!
# What loading a directory leaves

However the files of a directory fail, loading it does not: it saves the records that stand in each
file before its first failure (`FileContents.records`), file after file in the order of the names,
and nothing else, and it counts them (`directory_loaded`).

A part of loading is described by the records that it adds to what has been saved
(`Loading.saving`), whether it fails or not: `run_saveItem` for one item, `run_saveItems` by
induction for the items of a file, and, once failures are passed over, `run_tryFile` and
`run_loadFiles`.
-/

namespace ChatFlow

/-- An item is no flow for one reason only: fields that cannot be read. -/
theorem FlowRecord.exists_fields_of_ofValue {item : Value} {f : Failure}
    (h : ofValue item = .error f) : ∃ names, f = .fields names := by
  unfold ofValue at h
  split at h
  · unfold ofFields at h
    split at h
    · cases h
    · exact ⟨_, (Except.error.inj h).symm⟩
  · exact ⟨_, (Except.error.inj h).symm⟩

namespace Flows

/-- The records of items, up to the first item that is no flow. -/
def readable (items : List Value) : List FlowRecord :=
  ((items.map fun item => (FlowRecord.ofValue item).toOption).takeWhile Option.isSome).reduceOption

theorem readable_cons_ok {item : Value} {r : FlowRecord} (h : FlowRecord.ofValue item = .ok r)
    (rest : List Value) : readable (item :: rest) = r :: readable rest := by
  rw [readable, List.map_cons, h]
  rfl

theorem readable_cons_error {item : Value} {f : Failure} (h : FlowRecord.ofValue item = .error f)
    (rest : List Value) : readable (item :: rest) = [] := by
  rw [readable, List.map_cons, h]
  rfl

end Flows

/-- The records in a file before its first failure. -/
def FileContents.records (c : FileContents) : List FlowRecord :=
  match c.payload with
  | .ok v => Flows.readable (Flows.itemsOf v)
  | .error _ => []

/-- The records of a directory in the order in which they are saved. -/
def Directory.records (files : Directory) : List FlowRecord :=
  files.flowFiles.flatMap fun f => f.2.records

theorem FileContents.isPassedOver_of_payload {c : FileContents} {f : LoadFailure}
    (h : c.payload = .error f) : f.isPassedOver = true := by
  unfold payload at h
  split at h
  · split at h
    · cases h
    · obtain rfl := Except.error.inj h
      rfl
  · obtain rfl := Except.error.inj h
    rfl
  · obtain rfl := Except.error.inj h
    rfl

namespace Flows

/-! ### Loading step by step -/

/-- What has been loaded once these records are saved too. -/
def Loading.saving (l : Loading) (records : List FlowRecord) : Loading :=
  ⟨records.foldl save l.flows, l.count + records.length⟩

theorem Loading.saving_append (l : Loading) (records more : List FlowRecord) :
    l.saving (records ++ more) = (l.saving records).saving more := by
  rw [saving, saving, saving, List.foldl_append, List.length_append, Nat.add_assoc]

/-- What a part of loading comes to, and what has been loaded then. -/
def Loader.outcome {α : Type} (x : Loader α) (l : Loading) : Except LoadFailure α × Loading :=
  (x.run.run l : Id _)

theorem outcome_bind {α β : Type} (x : Loader α) (f : α → Loader β) (l : Loading) :
    (x >>= f).outcome l = match x.outcome l with
      | (.ok a, l') => (f a).outcome l'
      | (.error e, l') => (.error e, l') := by
  unfold Loader.outcome
  rw [ExceptT.run_bind, StateT.run_bind]
  rcases hx : x.run.run l with ⟨⟨e⟩ | a, l'⟩ <;> rfl

theorem outcome_tryCatch {α : Type} (x : Loader α) (f : LoadFailure → Loader α) (l : Loading) :
    (tryCatch x f : Loader α).outcome l = match x.outcome l with
      | (.ok a, l') => (.ok a, l')
      | (.error e, l') => (f e).outcome l' := by
  unfold Loader.outcome
  rw [ExceptT.run_tryCatch, StateT.run_bind]
  rcases hx : x.run.run l with ⟨⟨e⟩ | a, l'⟩ <;> rfl

theorem outcome_saveItem_of_ok {item : Value} {r : FlowRecord} (h : FlowRecord.ofValue item = .ok r)
    (l : Loading) : (saveItem item).outcome l = (.ok (), l.saving [r]) := by
  rw [saveItem, h]
  rfl

theorem outcome_saveItem_of_error {item : Value} {f : Failure}
    (h : FlowRecord.ofValue item = .error f) (l : Loading) :
    (saveItem item).outcome l = (.error (.failed f), l) := by
  rw [saveItem, h]
  rfl

/-- Of items those before the first that is no flow are saved, and a failure there is passed over. -/
theorem outcome_saveItems (items : List Value) (l : Loading) :
    ∃ outcome, (saveItems items).outcome l = (outcome, l.saving (readable items)) ∧
      ∀ f, outcome = .error f → f.isPassedOver = true := by
  induction items generalizing l with
  | nil => exact ⟨.ok (), rfl, fun f h => nomatch h⟩
  | cons item rest ih =>
    rw [saveItems, outcome_bind]
    cases hitem : FlowRecord.ofValue item with
    | ok r =>
      obtain ⟨outcome, hrest, hpassed⟩ := ih (l.saving [r])
      refine ⟨outcome, ?_, hpassed⟩
      rw [outcome_saveItem_of_ok hitem, readable_cons_ok hitem]
      exact hrest.trans (by rw [← Loading.saving_append]; rfl)
    | error f =>
      obtain ⟨names, rfl⟩ := FlowRecord.exists_fields_of_ofValue hitem
      refine ⟨.error (.failed (.fields names)), ?_, fun f hf => ?_⟩
      · rw [outcome_saveItem_of_error hitem, readable_cons_error hitem]
        rfl
      · obtain rfl := Except.error.inj hf
        rfl

/-- The records of a file before its first failure are saved, and the failure is passed over. -/
theorem outcome_loadFile (c : FileContents) (l : Loading) :
    ∃ outcome, (loadFile c).outcome l = (outcome, l.saving c.records) ∧
      ∀ f, outcome = .error f → f.isPassedOver = true := by
  unfold loadFile FileContents.records
  cases hc : c.payload with
  | ok v => exact outcome_saveItems (itemsOf v) l
  | error f =>
    refine ⟨.error f, rfl, fun g hg => ?_⟩
    obtain rfl := Except.error.inj hg
    exact FileContents.isPassedOver_of_payload hc

theorem outcome_tryFile (c : FileContents) (l : Loading) :
    (tryFile c).outcome l = (.ok (), l.saving c.records) := by
  obtain ⟨outcome, hfile, hpassed⟩ := outcome_loadFile c l
  rw [tryFile, outcome_tryCatch, hfile]
  cases outcome with
  | ok u => rfl
  | error f =>
    dsimp only
    rw [if_pos (hpassed f rfl)]
    rfl

/-- File after file the records before the first failure are saved. -/
theorem outcome_loadFiles (files : Directory) (l : Loading) :
    (loadFiles files).outcome l = (.ok (), l.saving (files.flatMap fun f => f.2.records)) := by
  induction files generalizing l with
  | nil => rfl
  | cons f rest ih =>
    rw [loadFiles, outcome_bind, outcome_tryFile, List.flatMap_cons, Loading.saving_append]
    exact ih _

/-- Loading a directory saves its records and counts them. -/
theorem loadDirectory_eq (flows : Flows) (files : Directory) :
    flows.loadDirectory (some files) =
      (.ok files.records.length, files.records.foldl save flows) := by
  have h := outcome_loadFiles files.flowFiles ⟨flows, 0⟩
  unfold Loader.outcome at h
  rw [loadDirectory, h]
  dsimp only [Loading.saving]
  rw [Nat.zero_add]
  rfl

end Flows

/-! ### Directories -/

theorem Directory.flowFiles_perm (files : Directory) :
    files.flowFiles.Perm (files.filter fun f => isFlowFile f.1) := List.mergeSort_perm _ _

/-- Where no two files have one name, the names increase. -/
theorem Directory.pairwise_flowFiles {files : Directory} (h : (Entries.keys files).Nodup) :
    files.flowFiles.Pairwise fun f g => f.1 < g.1 := by
  have hle : files.flowFiles.Pairwise fun f g => f.1 ≤ g.1 := by
    refine (List.pairwise_mergeSort ?_ ?_ _).imp of_decide_eq_true
    · exact fun a b c hab hbc =>
        decide_eq_true (le_trans (of_decide_eq_true hab) (of_decide_eq_true hbc))
    · exact fun a b => by simpa using le_total a.1 b.1
  have hne : files.flowFiles.Pairwise fun f g => f.1 ≠ g.1 := by
    have hnames : files.Pairwise fun f g => f.1 ≠ g.1 := List.pairwise_map.mp h
    exact (files.flowFiles_perm.pairwise_iff fun hab => hab.symm).mpr
      (hnames.sublist List.filter_sublist)
  exact hle.imp₂ (fun _ _ => lt_of_le_of_ne) hne

/-- A list of flows that has something else in the middle. -/
def FileContents.damaged : FileContents :=
  .text "[\x7b\"id\": \"1\", \"name\": \"one\"\x7d, 5, \x7b\"id\": \"3\", \"name\": \"three\"\x7d]"

/-- A directory with this file, files that cannot be read, and one that is not of flows. -/
def Directory.damaged : Directory :=
  [("b.json", .text "\x7b\"id\": \"2\", \"name\": \"two\"\x7d"), ("c.json", .refused),
    ("a.json", .damaged), ("d.json", .undecodable), ("e.json", .text "["), ("notes.txt", .text "5")]

end ChatFlow
