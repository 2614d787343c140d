import ChatFlow.Expression.Datum
import ChatFlow.Proofs.Value.Parts

/-!
# Values that an expression can compute with

Whole numbers have 64 bits in an expression and any size in the variables of a run.  A value is
bounded if every whole number in it, at any depth, fits.  A bounded value becomes a datum
(`exists_ofValue`), and any other is out of range (`ofValue_of_unbounded`).
-/

namespace ChatFlow

open Expression

namespace Value

mutual

/-- Whether every whole number in a value, at any depth, fits into 64 bits. -/
def isBounded : Value → Bool
  | int n => fits n
  | list items => areBounded items
  | object fields => areBoundedFields fields
  | _ => true

/-- Whether all of these values are bounded. -/
def areBounded : List Value → Bool
  | [] => true
  | v :: rest => v.isBounded && areBounded rest

/-- Whether the values of all of these fields are bounded. -/
def areBoundedFields : List (String × Value) → Bool
  | [] => true
  | (_, v) :: rest => v.isBounded && areBoundedFields rest

end

theorem areBoundedFields_iff {fields : Entries Value} :
    areBoundedFields fields = true ↔ ∀ e ∈ fields, e.2.isBounded = true := by
  induction fields with
  | nil => simp [areBoundedFields]
  | cons e rest ih =>
    obtain ⟨k, v⟩ := e
    rw [areBoundedFields, Bool.and_eq_true, ih, List.forall_mem_cons]

theorem isBounded_object {fields : Entries Value} :
    (object fields).isBounded = true ↔ ∀ e ∈ fields, e.2.isBounded = true := by
  rw [isBounded, areBoundedFields_iff]

end Value

namespace Expression.Datum

open Value

mutual

/-- A bounded value becomes a datum. -/
theorem exists_ofValue (v : Value) (h : v.isBounded = true) : ∃ d, ofValue v = .ok d := by
  match v with
  | .null | .bool _ | .float _ | .str _ => exact ⟨_, rfl⟩
  | .int n =>
    have hfits : fits n = true := h
    exact ⟨.int n .given, by rw [ofValue, fitted, if_pos hfits]; rfl⟩
  | .list items =>
    obtain ⟨ds, hds⟩ := exists_ofItems items h
    exact ⟨.list ds .given, by rw [ofValue, hds]; rfl⟩
  | .object fields =>
    obtain ⟨es, hes⟩ := exists_ofFields fields h
    exact ⟨.map es, by rw [ofValue, hes]; rfl⟩

theorem exists_ofItems (items : List Value) (h : areBounded items = true) :
    ∃ ds, ofItems items = .ok ds := by
  match items with
  | [] => exact ⟨[], rfl⟩
  | v :: rest =>
    obtain ⟨hv, hrest⟩ := Bool.and_eq_true_iff.mp h
    obtain ⟨d, hd⟩ := exists_ofValue v hv
    obtain ⟨ds, hds⟩ := exists_ofItems rest hrest
    exact ⟨d :: ds, by rw [ofItems, hd, hds]; rfl⟩

theorem exists_ofFields (fields : List (String × Value)) (h : areBoundedFields fields = true) :
    ∃ es, ofFields fields = .ok es := by
  match fields with
  | [] => exact ⟨[], rfl⟩
  | (k, v) :: rest =>
    obtain ⟨hv, hrest⟩ := Bool.and_eq_true_iff.mp h
    obtain ⟨d, hd⟩ := exists_ofValue v hv
    obtain ⟨es, hes⟩ := exists_ofFields rest hrest
    exact ⟨(.text k .given, d) :: es, by rw [ofFields, hd, hes]; rfl⟩

end

mutual

/-- A value with a whole number that does not fit is out of range: what stands before the first
such number becomes data, and nothing after it is looked at. -/
theorem ofValue_of_unbounded (v : Value) (h : v.isBounded = false) :
    ofValue v = .error .outOfRange := by
  match v with
  | .null | .bool _ | .float _ | .str _ => cases h
  | .int n =>
    have hfits : ¬ fits n = true := by
      rw [show fits n = false from h]
      exact Bool.false_ne_true
    rw [ofValue, fitted, if_neg hfits]
    rfl
  | .list items =>
    rw [ofValue, ofItems_of_unbounded items h]
    rfl
  | .object fields =>
    rw [ofValue, ofFields_of_unbounded fields h]
    rfl

theorem ofItems_of_unbounded (items : List Value) (h : areBounded items = false) :
    ofItems items = .error .outOfRange := by
  match items with
  | [] => cases h
  | v :: rest =>
    rw [areBounded] at h
    cases hv : v.isBounded with
    | false =>
      rw [ofItems, ofValue_of_unbounded v hv]
      rfl
    | true =>
      rw [hv, Bool.true_and] at h
      obtain ⟨d, hd⟩ := exists_ofValue v hv
      rw [ofItems, hd, ofItems_of_unbounded rest h]
      rfl

theorem ofFields_of_unbounded (fields : List (String × Value))
    (h : areBoundedFields fields = false) : ofFields fields = .error .outOfRange := by
  match fields with
  | [] => cases h
  | (k, v) :: rest =>
    rw [areBoundedFields] at h
    cases hv : v.isBounded with
    | false =>
      rw [ofFields, ofValue_of_unbounded v hv]
      rfl
    | true =>
      rw [hv, Bool.true_and] at h
      obtain ⟨d, hd⟩ := exists_ofValue v hv
      rw [ofFields, hd, ofFields_of_unbounded rest h]
      rfl

end

end Expression.Datum

end ChatFlow
