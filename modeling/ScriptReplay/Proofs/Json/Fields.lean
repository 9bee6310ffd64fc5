import Mathlib.Data.List.Nodup
import ScriptReplay.Json.Basic

/-!
# Fields that replace each other

Where no key occurs twice, setting a field keeps it so (`nodup_keys_set`), and updating fields with
changes gives them the values that they have in the fields with the changes behind them, where the
last one counts (`get?_update`).
-/

namespace ScriptReplay.Fields

variable {fields changes : Fields} {key k : String} {value : Json}

/-- The keys of fields, in their order. -/
def keys (fields : Fields) : List String :=
  fields.map Prod.fst

@[simp] theorem keys_cons (field : String × Json) (fields : Fields) :
    keys (field :: fields) = field.1 :: keys fields := rfl

/-! ## Looking up -/

theorem get?_nil (key : String) : get? [] key = none := rfl

theorem get?_append (fields changes : Fields) (key : String) :
    get? (fields ++ changes) key = (get? changes key).or (get? fields key) := by
  unfold get?
  rw [List.reverse_append, List.find?_append]
  cases changes.reverse.find? (·.1 == key) <;> rfl

theorem get?_cons (k : String) (value : Json) (fields : Fields) (key : String) :
    get? ((k, value) :: fields) key = (get? fields key).or (if k = key then some value else none) := by
  rw [← List.singleton_append, get?_append]
  by_cases hkey : k = key <;> simp [get?, hkey]

theorem get?_eq_none (h : key ∉ keys fields) : get? fields key = none := by
  unfold get?
  rw [Option.map_eq_none_iff, List.find?_eq_none]
  intro field hfield heq
  exact h (List.mem_map.2 ⟨field, List.mem_reverse.1 hfield, beq_iff_eq.1 heq⟩)

/-! ## Setting a field -/

theorem set_cons (k : String) (v : Json) (fields : Fields) (key : String) (value : Json) :
    set ((k, v) :: fields) key value =
      if k = key then (k, value) :: fields else (k, v) :: set fields key value := by
  rw [set]
  simp only [beq_iff_eq]

theorem keys_set (fields : Fields) (key : String) (value : Json) :
    keys (set fields key value) = if key ∈ keys fields then keys fields else keys fields ++ [key] := by
  induction fields with
  | nil => rfl
  | cons field fields ih =>
    obtain ⟨k, v⟩ := field
    rw [set_cons]
    by_cases hkey : k = key
    · simp [hkey]
    · rw [if_neg hkey, keys_cons, ih]
      by_cases hmem : key ∈ keys fields <;> simp [hmem, Ne.symm hkey]

theorem nodup_keys_set (h : (keys fields).Nodup) (key : String) (value : Json) :
    (keys (set fields key value)).Nodup := by
  rw [keys_set]
  split
  · exact h
  · next hnew =>
    rw [← List.concat_eq_append]
    exact h.concat hnew

theorem get?_set (h : (keys fields).Nodup) (key : String) (value : Json) (k : String) :
    get? (set fields key value) k = get? (fields ++ [(key, value)]) k := by
  rw [get?_append]
  induction fields with
  | nil => simp [set, get?]
  | cons field fields ih =>
    obtain ⟨l, v⟩ := field
    obtain ⟨hnew, hrest⟩ := List.nodup_cons.1 h
    rw [set_cons]
    by_cases hkey : l = key
    · subst hkey
      rw [if_pos rfl, get?_cons, get?_cons, get?_cons, get?_nil]
      by_cases hk : l = k
      · subst hk
        simp [get?_eq_none hnew]
      · simp [hk]
    · rw [if_neg hkey, get?_cons, ih hrest, get?_cons l, Option.or_assoc]

/-! ## Updating fields -/

theorem update_cons (fields : Fields) (key : String) (value : Json) (changes : Fields) :
    update fields ((key, value) :: changes) = update (set fields key value) changes := rfl

theorem nodup_keys_update (h : (keys fields).Nodup) (changes : Fields) :
    (keys (update fields changes)).Nodup := by
  induction changes generalizing fields with
  | nil => exact h
  | cons change changes ih => exact ih (nodup_keys_set h change.1 change.2)

/-- What is last counts. -/
theorem get?_update (h : (keys fields).Nodup) (changes : Fields) (key : String) :
    get? (update fields changes) key = get? (fields ++ changes) key := by
  induction changes generalizing fields with
  | nil => rw [List.append_nil]; rfl
  | cons change changes ih =>
    obtain ⟨k, value⟩ := change
    rw [update_cons, ih (nodup_keys_set h k value), get?_append, get?_set h, ← get?_append,
      List.append_assoc, List.singleton_append]

end ScriptReplay.Fields
