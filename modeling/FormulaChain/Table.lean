/-!
# Tables

A table maps keys to values and keeps the keys in the order they were first inserted. Inserting
under a key that is there replaces its value and leaves its place.
-/

namespace FormulaChain

/-- A finite map that remembers the order of insertion. -/
structure Table (K V : Type) where
  /-- The entries in order. -/
  entries : List (K × V)
  /-- No key stands twice. -/
  nodup_keys : (entries.map (·.1)).Nodup
  deriving DecidableEq

namespace Table

variable {K V : Type}

/-- No entries. -/
def empty : Table K V := ⟨[], .nil⟩

/-- The keys in order. -/
def keys (t : Table K V) : List K := t.entries.map (·.1)

/-- The values in order. -/
def values (t : Table K V) : List V := t.entries.map (·.2)

/-- The number of entries. -/
def size (t : Table K V) : Nat := t.entries.length

section Keys

variable [DecidableEq K]

/-- The value under a key. -/
def get? (t : Table K V) (key : K) : Option V := (t.entries.find? (·.1 = key)).map (·.2)

/-- Whether there is a value under a key. -/
def contains (t : Table K V) (key : K) : Bool := (t.get? key).isSome

/-- Applies a function to the value of one key. -/
def modifyEntry (key : K) (f : V → V) (entry : K × V) : K × V :=
  if entry.1 = key then (entry.1, f entry.2) else entry

/-- A modified entry keeps its key. -/
@[simp]
theorem modifyEntry_fst (key : K) (f : V → V) (entry : K × V) :
    (modifyEntry key f entry).1 = entry.1 := by
  unfold modifyEntry
  split <;> rfl

/-- Changes the value under a key, if there is one. -/
def modify (t : Table K V) (key : K) (f : V → V) : Table K V where
  entries := t.entries.map (modifyEntry key f)
  nodup_keys := by simpa [Function.comp_def] using t.nodup_keys

/-- Puts a value under a key: in the place of the one before, or at the end. -/
def insert (t : Table K V) (key : K) (value : V) : Table K V :=
  if h : key ∈ t.entries.map (·.1) then t.modify key fun _ => value
  else {
    entries := t.entries ++ [(key, value)]
    nodup_keys := by
      rw [List.map_append, List.nodup_append]
      refine ⟨t.nodup_keys, by simp, fun a ha b hb => ?_⟩
      rintro rfl
      simp only [List.map_cons, List.map_nil, List.mem_singleton] at hb
      exact h (hb ▸ ha) }

/-- The table of a list of entries, entered in order. -/
def ofList (entries : List (K × V)) : Table K V :=
  entries.foldl (fun t e => t.insert e.1 e.2) empty

/-- The place of a key in the order. -/
def indexOf? (t : Table K V) (key : K) : Option Nat := t.entries.findIdx? (·.1 = key)

end Keys

end Table

end FormulaChain
