import FormulaChain.Proofs.Storage.Codec
import FormulaChain.Storage.Storable

/-!
# Stored values are read back

A value is kept by storage if its datum fits the shape of its type and gives the value back
(`Storable.Kept`). In a notation with the laws of JSON a kept value is read back exactly if all its
numbers are finite (`Kept.ofTextIn?_textIn`). Numbers, texts, and names are kept, and whole numbers
of 64 bits; lists, pairs and values that may be absent are kept if what they hold is.
-/

namespace FormulaChain

namespace Shape

/-! ### Records and choices -/

variable {shape : Shape} {d : Datum} {name other : String}

theorem fitsFields_cons {fields : List (String × Shape × Option Datum)}
    {values : List (String × Datum)} {fallback : Option Datum} (h : Fits shape d)
    (hfields : FitsFields fields values) :
    FitsFields ((name, shape, fallback) :: fields) ((name, d) :: values) :=
  ⟨d, values, rfl, h, hfields⟩

theorem fitsVariant_head {variants : List (String × Option Shape)} (h : Fits shape d) :
    FitsVariant ((name, some shape) :: variants) name d := by
  rw [FitsVariant, if_pos rfl]
  exact h

theorem fitsVariant_tail {variants : List (String × Option Shape)} {content : Option Shape}
    (hname : other ≠ name) (h : FitsVariant variants name d) :
    FitsVariant ((other, content) :: variants) name d := by
  cases content with
  | none => exact ⟨hname, h⟩
  | some shape =>
    rw [FitsVariant, if_neg hname]
    exact h

theorem fitsName_head {variants : List (String × Option Shape)} :
    FitsName ((name, none) :: variants) name := by
  rw [FitsName, if_pos rfl]

theorem fitsName_tail {variants : List (String × Option Shape)} {content : Option Shape}
    (hname : other ≠ name) (h : FitsName variants name) :
    FitsName ((other, content) :: variants) name := by
  rw [FitsName, if_neg hname]
  exact h

theorem fitsName_map {names : List String} (h : name ∈ names) :
    FitsName (names.map (·, none)) name := by
  induction names with
  | nil => cases h
  | cons other names ih =>
    by_cases hname : other = name
    · exact hname ▸ fitsName_head
    · exact fitsName_tail hname (ih ((List.mem_cons.mp h).resolve_left (Ne.symm hname)))

end Shape

namespace Storable

variable {α β : Type} [Storable α]

/-- The numbers in a value. -/
def floats (a : α) : List Single := (store a).floats

/-- A value whose datum fits the shape of its type and gives the value back. -/
structure Kept (a : α) : Prop where
  /-- The datum fits. -/
  fits : (shape α).Fits (store a)
  /-- The value is restored from it. -/
  restored : restore? (store a) = some a

/-- **A kept value is read back** from its document, on one line or indented, if all its numbers are
finite, and refused if not. -/
theorem Kept.ofTextIn?_textIn {codec : Codec} (hjson : codec.JsonLaws) {a : α} (h : Kept a)
    (indented : Bool) :
    ofTextIn? codec (textIn codec indented a) =
      if (floats a).all Single.isFinite then some a else none := by
  rw [ofTextIn?, textIn]
  by_cases hfinite : (floats a).all Single.isFinite = true
  · rw [if_pos hfinite, hjson.read?_write h.fits hfinite indented]
    exact h.restored
  · rw [if_neg hfinite, hjson.refuses h.fits (eq_false_of_ne_true hfinite) indented]
    rfl

/-! ### Simple types -/

theorem kept_nat {n : Nat} (h : n < Json.Number.wordBound) : Kept n := ⟨h, rfl⟩

theorem kept_single (s : Single) : Kept s := ⟨trivial, rfl⟩

theorem kept_string (s : String) : Kept s := ⟨trivial, rfl⟩

/-! ### Compound types -/

theorem Kept.option {a : Option α} (hnull : (shape α).mayBeNull = false)
    (h : ∀ b ∈ a, Kept b) : Kept a := by
  cases a with
  | none => exact ⟨trivial, rfl⟩
  | some b =>
    have hb := h b rfl
    exact ⟨⟨hnull, hb.fits⟩, congrArg (Option.map some) hb.restored⟩

theorem Kept.list {l : List α} (h : ∀ a ∈ l, Kept a) : Kept l where
  fits := List.forall_mem_map.mpr fun a ha => (h a ha).fits
  restored := by
    show (l.map store).mapM restore? = some l
    induction l with
    | nil => rfl
    | cons a l ih =>
      obtain ⟨ha, hl⟩ := List.forall_mem_cons.mp h
      rw [List.map_cons, List.mapM_cons, ha.restored, ih hl]
      rfl

theorem Kept.pair {p : α × α} (h : Kept p.1) (h' : Kept p.2) : Kept p where
  fits := ⟨rfl, List.forall_mem_cons.mpr ⟨h.fits, List.forall_mem_singleton.mpr h'.fits⟩⟩
  restored := by
    show (do return (← restore? (store p.1), ← restore? (store p.2))) = some p
    rw [h.restored, h'.restored]
    rfl

theorem kept_triple (t : Triple) : Kept t where
  fits := ⟨rfl, List.forall_mem_map.mpr fun _ _ => trivial⟩
  restored := rfl

theorem floats_list (l : List α) : floats l = l.flatMap floats := by
  show (Datum.list (l.map store)).floats = _
  rw [Datum.floats, Datum.floatsItems_eq, List.flatMap_map]
  rfl

/-! ### Names -/

/-- What is stored by one of several names is found by it. -/
theorem find?_name {all : List β} {name : β → String} (hnames : (all.map name).Nodup) {b : β}
    (h : b ∈ all) : all.find? (name · = name b) = some b := by
  induction all with
  | nil => cases h
  | cons first all ih =>
    obtain ⟨hfirst, hall⟩ := List.nodup_cons.mp hnames
    rcases List.mem_cons.mp h with rfl | hb
    · rw [List.find?_cons_of_pos (by simp)]
    · have hne : name first ≠ name b := fun heq => hfirst (heq ▸ List.mem_map_of_mem hb)
      rw [List.find?_cons_of_neg (by simpa using hne), ih hall hb]

theorem kept_ofNames {all : List β} {name : β → String} (hnames : (all.map name).Nodup)
    (hall : ∀ b, b ∈ all) (b : β) : @Kept β (ofNames all name) b :=
  @Kept.mk β (ofNames all name) b (Shape.fitsName_map (List.mem_map_of_mem (hall b)))
    (find?_name hnames (hall b))

end Storable

end FormulaChain
