import FormulaChain.Table
import Mathlib.Data.List.Nodup

/-!
# Laws of tables

What is under a key is the one entry with this key (`get?_eq_some_iff`). A new key goes to the end
(`entries_insert`), and changing one key changes nothing else: not what is under other keys
(`get?_modify`), nor any part of the table that does not hold the key
(`map_modifyEntry_of_notMem`).
-/

namespace FormulaChain.Table

variable {K V : Type} {t : Table K V} {key : K} {value : V}

theorem mem_keys_of_mem {entry : K × V} (h : entry ∈ t.entries) : entry.1 ∈ t.keys :=
  List.mem_map_of_mem h

theorem mem_values_of_mem {entry : K × V} (h : entry ∈ t.entries) : entry.2 ∈ t.values :=
  List.mem_map_of_mem h

/-- Tables with the same entries are the same. -/
theorem eq_of_entries {t' : Table K V} (h : t.entries = t'.entries) : t = t' := by
  cases t
  cases t'
  cases h
  rfl

/-- Entries with the same key are the same. -/
theorem eq_of_mem_entries {value' : V} (h : (key, value) ∈ t.entries)
    (h' : (key, value') ∈ t.entries) : value = value' :=
  (Prod.mk.inj (List.inj_on_of_nodup_map t.nodup_keys h h' rfl)).2

variable [DecidableEq K]

theorem get?_eq_some_iff : t.get? key = some value ↔ (key, value) ∈ t.entries := by
  unfold get?
  rw [Option.map_eq_some_iff]
  constructor
  · rintro ⟨entry, hfind, rfl⟩
    have hkey : entry.1 = key := by simpa using List.find?_some hfind
    exact hkey ▸ List.mem_of_find?_eq_some hfind
  · intro hmem
    cases hfind : t.entries.find? (·.1 = key) with
    | none => simpa using List.find?_eq_none.mp hfind _ hmem
    | some entry =>
      have hkey : entry.1 = key := by simpa using List.find?_some hfind
      subst hkey
      exact ⟨entry, rfl, (eq_of_mem_entries hmem (List.mem_of_find?_eq_some hfind)).symm⟩

theorem contains_iff : t.contains key = true ↔ key ∈ t.keys := by
  unfold contains
  rw [Option.isSome_iff_exists]
  simp [get?_eq_some_iff, keys]

theorem entries_insert (h : key ∉ t.keys) :
    (t.insert key value).entries = t.entries ++ [(key, value)] := by
  have h' : key ∉ t.entries.map (·.1) := h
  unfold insert
  rw [dif_neg h']

theorem insert_of_mem (h : key ∈ t.keys) : t.insert key value = t.modify key fun _ => value :=
  dif_pos h

theorem entries_modify (f : V → V) :
    (t.modify key f).entries = t.entries.map (modifyEntry key f) := rfl

@[simp]
theorem keys_modify (f : V → V) : (t.modify key f).keys = t.keys := by
  simp [keys, entries_modify, Function.comp_def]

/-- Only the value under the key is changed. -/
theorem get?_modify (f : V → V) (key' : K) :
    (t.modify key f).get? key' = (t.get? key').map fun v => if key' = key then f v else v := by
  have hsame : ((fun entry : K × V => decide (entry.1 = key')) ∘ modifyEntry key f) =
      fun entry => decide (entry.1 = key') := by
    funext entry
    simp
  rw [get?, entries_modify, List.find?_map, hsame, get?, Option.map_map, Option.map_map]
  cases hfind : t.entries.find? (·.1 = key') with
  | none => rfl
  | some entry =>
    have hkey : entry.1 = key' := by simpa using List.find?_some hfind
    subst hkey
    by_cases h : entry.1 = key
    · simp [modifyEntry, h]
    · simp [modifyEntry, h]

/-- Entries without the key are left alone. -/
theorem map_modifyEntry_of_notMem {entries : List (K × V)} (h : key ∉ entries.map (·.1))
    (f : V → V) : entries.map (modifyEntry key f) = entries := by
  have hid : ∀ entry ∈ entries, modifyEntry key f entry = id entry := by
    intro entry hmem
    have hne : entry.1 ≠ key := by
      rintro rfl
      exact h (List.mem_map_of_mem hmem)
    exact if_neg hne
  rw [List.map_congr_left hid, List.map_id]

end FormulaChain.Table
