import FormulaChain.Proofs.Json.Number
import Mathlib.Data.List.DropRight
import Mathlib.Tactic.SplitIfs

/-!
# Documents are read back

What is written for a document is read back as that document, on one line or indented
(`ofChars?_write`). This asks two things of the document (`WellFormed`): its texts are made of
characters, and what it holds as numbers is written as numbers are. A number has no end of its own,
so that a value can be read only where something follows that is no part of a number
(`EndsNumber`).
-/

namespace FormulaChain.Json

/-! ### Texts -/

/-- What is read after a unit stands behind it. -/
def behind (u : Nat) (read : Option (List Nat × List Char)) : Option (List Nat × List Char) :=
  read.map fun (units, rest) => (u :: units, rest)

theorem readUnits?_plain {c : Char} (hq : c ≠ '"') (hb : c ≠ '\\') (hs : ¬ c < ' ')
    (rest : List Char) : readUnits? (c :: rest) = behind c.toNat (readUnits? rest) := by
  rw [readUnits?]
  · simp [hs, behind]
  · exact hq
  · exact fun _ _ _ _ _ h _ => hb h
  · exact fun _ _ h _ => hb h

theorem readUnits?_letter {c : Char} {u : Nat} (h : escapedUnit? c = some u) (rest : List Char) :
    readUnits? ('\\' :: c :: rest) = behind u (readUnits? rest) := by
  rw [readUnits?]
  · rw [h]
    cases readUnits? rest <;> rfl
  · rintro _ _ _ _ _ rfl _
    cases h

theorem readUnits?_hex {a b c d : Char} {u : Nat} (h : Text.hexNumber? 0 [a, b, c, d] = some u)
    (rest : List Char) :
    readUnits? ('\\' :: 'u' :: a :: b :: c :: d :: rest) = behind u (readUnits? rest) := by
  rw [readUnits?, h]
  cases readUnits? rest <;> rfl

theorem hexNumber?_hexDigits_control : ∀ u < 0x20,
    Text.hexNumber? 0 (Text.hexDigits 4 u) = some u := by
  decide

/-- A character is read from its escape. -/
theorem readUnits?_escapeUnit (c : Char) (rest : List Char) :
    readUnits? (escapeUnit c.toNat ++ rest) = behind c.toNat (readUnits? rest) := by
  unfold escapeUnit
  split_ifs with h1 h2 h3 h4 h5 h6 h7 h8
  · rw [h1]; exact readUnits?_letter rfl rest
  · rw [h2]; exact readUnits?_letter rfl rest
  · rw [h3]; exact readUnits?_letter rfl rest
  · rw [h4]; exact readUnits?_letter rfl rest
  · rw [h5]; exact readUnits?_letter rfl rest
  · rw [h6]; exact readUnits?_letter rfl rest
  · rw [h7]; exact readUnits?_letter rfl rest
  · exact readUnits?_hex (hexNumber?_hexDigits_control _ h8) rest
  · rw [List.singleton_append, Char.ofNat_toNat]
    refine readUnits?_plain ?_ ?_ ?_ rest
    · rintro rfl
      exact h1 rfl
    · rintro rfl
      exact h2 rfl
    · exact fun h => h8 (UInt32.lt_iff_toNat_lt.mp h)

/-- The units of a text are read up to the closing quote. -/
theorem readUnits?_units (text : String) (rest : List Char) :
    readUnits? ((Text.units text).flatMap escapeUnit ++ '"' :: rest) =
      some (Text.units text, rest) := by
  unfold Text.units
  induction text.toList with
  | nil => rfl
  | cons c chars ih =>
    rw [List.map_cons, List.flatMap_cons, List.append_assoc, readUnits?_escapeUnit, ih]
    rfl

/-! ### Blanks and numbers -/

theorem skipBlank_append {blanks : List Char} (h : ∀ c ∈ blanks, isBlank c = true)
    (text : List Char) : skipBlank (blanks ++ text) = skipBlank text :=
  List.dropWhile_append_of_pos h

theorem isBlank_of_mem_lineBreak (layout : Layout) : ∀ c ∈ layout.lineBreak, isBlank c = true := by
  cases layout with
  | none => intro c hc; cases hc
  | some depth =>
    intro c hc
    rcases List.mem_cons.mp hc with rfl | hc
    · rfl
    · rw [(List.mem_replicate.mp hc).2]
      rfl

@[simp]
theorem skipBlank_lineBreak (layout : Layout) (text : List Char) :
    skipBlank (layout.lineBreak ++ text) = skipBlank text :=
  skipBlank_append (isBlank_of_mem_lineBreak layout) text

theorem skipBlank_idem (text : List Char) : skipBlank (skipBlank text) = skipBlank text :=
  List.dropWhile_idempotent isBlank text

/-- A number ends where this follows. -/
def EndsNumber (rest : List Char) : Prop := ∀ c ∈ rest.head?, isNumeric c = false

theorem endsNumber_nil : EndsNumber [] := fun _ h => by cases h

theorem endsNumber_cons {c : Char} (h : isNumeric c = false) (rest : List Char) :
    EndsNumber (c :: rest) := fun _ hc => Option.some.inj hc ▸ h

theorem endsNumber_lineBreak (layout : Layout) {rest : List Char} (h : EndsNumber rest) :
    EndsNumber (layout.lineBreak ++ rest) := by
  cases layout with
  | none => exact h
  | some depth => exact endsNumber_cons rfl _

/-- Characters that a number is made of and that are read as one are a number. -/
theorem readNumber?_append {text rest : List Char} (h : ∀ c ∈ text, isNumeric c = true)
    (hread : (Number.read? text).isSome = true) (hrest : EndsNumber rest) :
    readNumber? (text ++ rest) = some (.number text, rest) := by
  rw [readNumber?, Text.takeWhile_append_of_head h hrest, Text.dropWhile_append_of_head h hrest,
    if_pos hread]

theorem readPlain?_of_isNumeric {c : Char} (h : isNumeric c = true) (text : List Char) :
    readPlain? (c :: text) = readNumber? (c :: text) := by
  unfold readPlain?
  split
  · next heq => cases heq; cases h
  · next heq => cases heq; cases h
  · next heq => cases heq; cases h
  · next heq => cases heq; cases h
  · rfl

/-! ### Documents -/

/-- Documents that are read back: their texts are made of characters, and their numbers are written
as numbers are. -/
inductive WellFormed : Json → Prop where
  /-- The empty value. -/
  | null : WellFormed .null
  /-- A truth value. -/
  | bool (value : Bool) : WellFormed (.bool value)
  /-- A number. -/
  | number {text : List Char} : (∀ c ∈ text, isNumeric c = true) →
      (Number.read? text).isSome = true → WellFormed (.number text)
  /-- A text. -/
  | string (text : String) : WellFormed (.string (Text.units text))
  /-- Values in order. -/
  | array {items : List Json} : (∀ item ∈ items, WellFormed item) → WellFormed (.array items)
  /-- Values under keys. -/
  | object {members : List (List Nat × Json)} :
      (∀ m ∈ members, ∃ name, m.1 = Text.units name) → (∀ m ∈ members, WellFormed m.2) →
      WellFormed (.object members)

/-- A value is read back from its text, whatever ends it, with twice as many steps as it has
characters. -/
def ReadsBack (j : Json) : Prop :=
  ∀ (layout : Layout) (fuel : Nat) (rest : List Char), 2 * (write layout j).length ≤ fuel →
    EndsNumber rest → readValue? fuel (write layout j ++ rest) = some (j, rest)

/-! ### Lists and objects -/

theorem readValue?_skipBlank (fuel : Nat) (text : List Char) :
    readValue? fuel (skipBlank text) = readValue? fuel text := by
  cases fuel with
  | zero => rfl
  | succ fuel => simp only [readValue?, skipBlank_idem]

theorem readValue?_append {blanks : List Char} (h : ∀ c ∈ blanks, isBlank c = true) (fuel : Nat)
    (text : List Char) : readValue? fuel (blanks ++ text) = readValue? fuel text := by
  rw [← readValue?_skipBlank, skipBlank_append h, readValue?_skipBlank]

theorem readItems?_skipBlank (fuel : Nat) (text : List Char) :
    readItems? fuel (skipBlank text) = readItems? fuel text := by
  cases fuel with
  | zero => rfl
  | succ fuel => simp only [readItems?, readValue?_skipBlank]

theorem readMembers?_skipBlank (fuel : Nat) (text : List Char) :
    readMembers? fuel (skipBlank text) = readMembers? fuel text := by
  cases fuel with
  | zero => rfl
  | succ fuel => simp only [readMembers?, skipBlank_idem]

/-- No value begins with the end of a list. -/
theorem readItems?_closing (fuel : Nat) (rest : List Char) :
    readItems? fuel (']' :: rest) = none := by
  match fuel with
  | 0 => rfl
  | 1 => rfl
  | fuel + 2 => rfl

theorem readMembers?_closing (fuel : Nat) (rest : List Char) :
    readMembers? fuel ('\x7d' :: rest) = none := by
  cases fuel with
  | zero => rfl
  | succ fuel => rfl

/-- The values of a list are read up to its end. -/
theorem readItems?_write {items : List Json} (hitems : ∀ item ∈ items, ReadsBack item)
    (hne : items ≠ []) (layout : Layout) {fuel : Nat} {close rest : List Char}
    (hfuel : 2 * (writeItems layout items).length + 1 ≤ fuel) (hclose : EndsNumber close)
    (hskip : skipBlank close = ']' :: rest) :
    readItems? fuel (writeItems layout items ++ close) = some (items, rest) := by
  induction items generalizing fuel with
  | nil => exact absurd rfl hne
  | cons item items ih =>
    obtain ⟨fuel, rfl⟩ : ∃ n, fuel = n + 1 := Nat.exists_eq_succ_of_ne_zero (by omega)
    have hitem := hitems item List.mem_cons_self layout
    cases items with
    | nil =>
      simp only [writeItems, List.isEmpty_nil, if_true, List.append_nil, List.append_assoc,
        List.length_append] at hfuel ⊢
      simp only [readItems?, readValue?_append (isBlank_of_mem_lineBreak layout)]
      rw [hitem fuel close (by omega) hclose]
      simp [hskip]
    | cons next items =>
      have hrest (hfuel : 2 * (writeItems layout (next :: items)).length + 1 ≤ fuel) :=
        ih (fun i hi => hitems i (List.mem_cons_of_mem _ hi)) (List.cons_ne_nil _ _) hfuel
      generalize hmore : writeItems layout (next :: items) = more at hrest
      rw [writeItems] at hfuel ⊢
      simp only [hmore, List.isEmpty_cons, Bool.false_eq_true, if_false, List.append_assoc,
        List.length_append, List.length_cons, List.cons_append] at hfuel ⊢
      simp only [readItems?, readValue?_append (isBlank_of_mem_lineBreak layout)]
      rw [hitem fuel _ (by omega) (endsNumber_cons rfl _)]
      have hcomma : skipBlank (',' :: (more ++ close)) = ',' :: (more ++ close) := rfl
      simp [hcomma, hrest (by omega)]

/-- The members of an object are read up to its end. -/
theorem readMembers?_write {members : List (List Nat × Json)}
    (hkeys : ∀ m ∈ members, ∃ name, m.1 = Text.units name)
    (hvalues : ∀ m ∈ members, ReadsBack m.2) (hne : members ≠ []) (layout : Layout) {fuel : Nat}
    {close rest : List Char} (hfuel : 2 * (writeMembers layout members).length + 1 ≤ fuel)
    (hclose : EndsNumber close) (hskip : skipBlank close = '\x7d' :: rest) :
    readMembers? fuel (writeMembers layout members ++ close) = some (members, rest) := by
  induction members generalizing fuel with
  | nil => exact absurd rfl hne
  | cons member members ih =>
    obtain ⟨key, value⟩ := member
    obtain ⟨fuel, rfl⟩ : ∃ n, fuel = n + 1 := Nat.exists_eq_succ_of_ne_zero (by omega)
    obtain ⟨name, hname⟩ := hkeys _ List.mem_cons_self
    have hvalue : ReadsBack value := hvalues _ List.mem_cons_self
    have hquote (text : List Char) : skipBlank ('"' :: text) = '"' :: text := rfl
    have hcolon (text : List Char) : ∃ blanks, (∀ c ∈ blanks, isBlank c = true) ∧
        skipBlank (layout.colon ++ text) = ':' :: (blanks ++ text) := by
      cases layout with
      | none => exact ⟨[], by simp, rfl⟩
      | some depth => exact ⟨[' '], by simp [isBlank], rfl⟩
    cases members with
    | nil =>
      simp only [writeMembers, List.isEmpty_nil, if_true, List.append_nil, List.append_assoc,
        List.length_append, quoteUnits, List.cons_append, List.nil_append, List.length_cons]
        at hfuel ⊢
      obtain ⟨blanks, hblanks, hafter⟩ := hcolon (write layout value ++ close)
      simp only at hname
      simp only [readMembers?, skipBlank_lineBreak, hquote, hname, readUnits?_units,
        Option.bind_eq_bind, Option.bind_some, hafter, readValue?_append hblanks]
      rw [hvalue layout fuel close (by omega) hclose]
      simp [hskip]
    | cons next members =>
      have hrest (hfuel : 2 * (writeMembers layout (next :: members)).length + 1 ≤ fuel) :=
        ih (fun m hm => hkeys m (List.mem_cons_of_mem _ hm))
          (fun m hm => hvalues m (List.mem_cons_of_mem _ hm)) (List.cons_ne_nil _ _) hfuel
      generalize hmore : writeMembers layout (next :: members) = more at hrest
      rw [writeMembers] at hfuel ⊢
      simp only [hmore, List.isEmpty_cons, Bool.false_eq_true, if_false, List.append_assoc,
        List.length_append, List.length_cons, List.cons_append, quoteUnits, List.nil_append]
        at hfuel ⊢
      obtain ⟨blanks, hblanks, hafter⟩ := hcolon (write layout value ++ ',' :: (more ++ close))
      simp only at hname
      simp only [readMembers?, skipBlank_lineBreak, hquote, hname, readUnits?_units,
        Option.bind_eq_bind, Option.bind_some, hafter, readValue?_append hblanks]
      rw [hvalue layout fuel _ (by omega) (endsNumber_cons rfl _)]
      have hcomma : skipBlank (',' :: (more ++ close)) = ',' :: (more ++ close) := rfl
      simp [hcomma, hrest (by omega)]

/-- A list is read from its items. -/
theorem readValue?_array {fuel : Nat} {text rest : List Char} {items : List Json}
    (h : readItems? fuel text = some (items, rest)) :
    readValue? (fuel + 1) ('[' :: text) = some (.array items, rest) := by
  have hskip : skipBlank ('[' :: text) = '[' :: text := rfl
  rw [← readItems?_skipBlank] at h
  rw [readValue?, hskip]
  split
  · next heq =>
    cases heq
    split
    · next heq => rw [heq, readItems?_closing] at h; cases h
    · rw [h]; rfl
  · next heq => cases heq
  · next hlist _ => exact absurd rfl (hlist text)

theorem readValue?_object {fuel : Nat} {text rest : List Char}
    {members : List (List Nat × Json)} (h : readMembers? fuel text = some (members, rest)) :
    readValue? (fuel + 1) ('\x7b' :: text) = some (.object members, rest) := by
  have hskip : skipBlank ('\x7b' :: text) = '\x7b' :: text := rfl
  rw [← readMembers?_skipBlank] at h
  rw [readValue?, hskip]
  split
  · next heq => cases heq
  · next heq =>
    cases heq
    split
    · next heq => rw [heq, readMembers?_closing] at h; cases h
    · rw [h]; rfl
  · next _ hobject => exact absurd rfl (hobject text)

/-- A value that is neither list nor object. -/
theorem readValue?_plain {c : Char} (hblank : isBlank c = false) (hlist : c ≠ '[')
    (hobject : c ≠ '\x7b') (fuel : Nat) (text : List Char) :
    readValue? (fuel + 1) (c :: text) = readPlain? (c :: text) := by
  have hskip : skipBlank (c :: text) = c :: text := by simp [skipBlank, hblank]
  rw [readValue?, hskip]
  split
  · next heq => cases heq; exact absurd rfl hlist
  · next heq => cases heq; exact absurd rfl hobject
  · rfl

theorem readsBack_array {items : List Json} (hitems : ∀ item ∈ items, ReadsBack item) :
    ReadsBack (.array items) := by
  intro layout fuel rest hfuel hrest
  obtain ⟨fuel, rfl⟩ : ∃ n, fuel = n + 1 :=
    Nat.exists_eq_succ_of_ne_zero (by cases items <;> simp [write] at hfuel <;> omega)
  cases items with
  | nil => rfl
  | cons item items =>
    simp only [write, List.cons_append, List.append_assoc, List.length_cons, List.length_append,
      List.nil_append] at hfuel ⊢
    exact readValue?_array <| readItems?_write hitems (List.cons_ne_nil _ _) layout.deeper
      (by omega) (endsNumber_lineBreak layout (endsNumber_cons rfl _))
      (skipBlank_lineBreak layout _)

theorem readsBack_object {members : List (List Nat × Json)}
    (hkeys : ∀ m ∈ members, ∃ name, m.1 = Text.units name)
    (hvalues : ∀ m ∈ members, ReadsBack m.2) : ReadsBack (.object members) := by
  intro layout fuel rest hfuel hrest
  obtain ⟨fuel, rfl⟩ : ∃ n, fuel = n + 1 :=
    Nat.exists_eq_succ_of_ne_zero (by cases members <;> simp [write] at hfuel <;> omega)
  cases members with
  | nil => rfl
  | cons member members =>
    simp only [write, List.cons_append, List.append_assoc, List.length_cons, List.length_append,
      List.nil_append] at hfuel ⊢
    exact readValue?_object <| readMembers?_write hkeys hvalues (List.cons_ne_nil _ _)
      layout.deeper (by omega) (endsNumber_lineBreak layout (endsNumber_cons rfl _))
      (skipBlank_lineBreak layout _)

theorem readsBack_number {text : List Char} (hchars : ∀ c ∈ text, isNumeric c = true)
    (hread : (Number.read? text).isSome = true) : ReadsBack (.number text) := by
  intro layout fuel rest hfuel hrest
  rw [write] at hfuel ⊢
  cases text with
  | nil => cases hread
  | cons c text =>
    obtain ⟨fuel, rfl⟩ : ∃ n, fuel = n + 1 :=
      Nat.exists_eq_succ_of_ne_zero (by simp at hfuel; omega)
    have hc := hchars c List.mem_cons_self
    have hblank : isBlank c = false := by
      by_contra hb
      simp only [isBlank, Bool.not_eq_false, Bool.or_eq_true, decide_eq_true_eq] at hb
      rcases hb with ((rfl | rfl) | rfl) | rfl <;> cases hc
    have hlist : c ≠ '[' := by rintro rfl; cases hc
    have hobject : c ≠ '\x7b' := by rintro rfl; cases hc
    rw [List.cons_append, readValue?_plain hblank hlist hobject, readPlain?_of_isNumeric hc,
      ← List.cons_append]
    exact readNumber?_append hchars hread hrest

/-- **Well-formed documents are read back.** -/
theorem WellFormed.readsBack {j : Json} (h : WellFormed j) : ReadsBack j := by
  induction h with
  | null =>
    intro layout fuel rest hfuel _
    obtain ⟨fuel, rfl⟩ : ∃ n, fuel = n + 1 :=
      Nat.exists_eq_succ_of_ne_zero (by simp [write] at hfuel; omega)
    rfl
  | bool value =>
    intro layout fuel rest hfuel _
    obtain ⟨fuel, rfl⟩ : ∃ n, fuel = n + 1 :=
      Nat.exists_eq_succ_of_ne_zero (by cases value <;> simp [write] at hfuel <;> omega)
    cases value <;> rfl
  | number hchars hread => exact readsBack_number hchars hread
  | string text =>
    intro layout fuel rest hfuel _
    obtain ⟨fuel, rfl⟩ : ∃ n, fuel = n + 1 :=
      Nat.exists_eq_succ_of_ne_zero (by simp [write, quoteUnits] at hfuel; omega)
    rw [write, quoteUnits, List.cons_append, List.cons_append, List.append_assoc,
      List.singleton_append, readValue?_plain rfl (by decide) (by decide), readPlain?,
      readUnits?_units]
    rfl
  | array _ ih => exact readsBack_array ih
  | object hkeys _ ih => exact readsBack_object hkeys ih

/-- **Reading undoes writing**, on one line or indented. -/
theorem ofChars?_write {j : Json} (h : WellFormed j) (layout : Layout) :
    ofChars? (write layout j) = some j := by
  have hread := h.readsBack layout (2 * (write layout j).length + 2) [] (Nat.le_add_right _ _)
    endsNumber_nil
  rw [List.append_nil] at hread
  rw [ofChars?, hread]
  rfl

end FormulaChain.Json
