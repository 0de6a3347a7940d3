import FormulaChain.Proofs.Formula.Shift
import FormulaChain.Proofs.Formula.Word
import FormulaChain.Proofs.Single.Text

/-!
# What bindings tell of operands

Operands are bound to the slots in order, one to each (`Operation.slots_bind`). The bindings tell
the operands, except that an operation on vectors does not tell a number from the vector of its
copies (`Operation.bind_eq_iff_of_legible`). Where no vector is taken, the text of a vector stands
in the socket of attribute names; it is told from a name by its spaces, as long as names have none,
and from the text of another vector by the numbers between its commas.
-/

namespace FormulaChain

/-! ### Slots -/

theorem Binding.slot_ofScalar (slot : Slot) (operand : Operand) :
    (ofScalar slot operand).slot = slot := by
  cases operand <;> rfl

theorem Binding.slot_ofOperand (operation : Operation) (slot : Slot) (operand : Operand) :
    (ofOperand operation slot operand).slot = slot := by
  cases operation with
  | scalar o => exact slot_ofScalar slot operand
  | vector o =>
    simp only [ofOperand, ofVector]
    split
    · exact slot_ofScalar slot operand
    · split <;> rfl

/-- Operands are bound to the slots in order, one to each as long as there are slots. -/
theorem Operation.slots_bind (operation : Operation) (args : List Operand) :
    (operation.bind args).map (·.slot) = Slot.all.take args.length := by
  have hslots : ∀ slots : List Slot, ∀ args : List Operand,
      (List.zipWith (Binding.ofOperand operation) slots args).map (·.slot) =
        slots.take args.length := by
    intro slots
    induction slots with
    | nil => simp
    | cons slot slots ih =>
      intro args
      cases args with
      | nil => rfl
      | cons operand args => simp [ih args, Binding.slot_ofOperand]
  exact hslots Slot.all args

theorem Operation.nodup_slots_bind (operation : Operation) (args : List Operand) :
    ((operation.bind args).map (·.slot)).Nodup := by
  have hall : Slot.all.Nodup := by decide
  rw [slots_bind]
  exact hall.sublist (List.take_sublist _ _)

/-- The slot that a socket belongs to, if any. -/
def Socket.slot? : Socket → Option Slot
  | .named slot | .float slot | .vector slot => some slot
  | .geometry | .result => none

theorem Binding.slot?_socket_ofScalar (slot : Slot) (operand : Operand) :
    (ofScalar slot operand).socket.slot? = some slot := by
  cases operand <;> rfl

theorem Binding.slot?_socket_ofOperand (operation : Operation) (slot : Slot) (operand : Operand) :
    (ofOperand operation slot operand).socket.slot? = some slot := by
  cases operation with
  | scalar o => exact slot?_socket_ofScalar slot operand
  | vector o =>
    simp only [ofOperand, ofVector]
    split
    · exact slot?_socket_ofScalar slot operand
    · split <;> rfl

/-- An operand is bound to a socket of its slot. -/
theorem Operation.slot?_socket_of_mem_bind {operation : Operation} {args : List Operand}
    {b : Binding} (h : b ∈ operation.bind args) : b.socket.slot? = some b.slot := by
  obtain ⟨i, hi⟩ := List.mem_iff_getElem?.mp h
  obtain ⟨slot, operand, -, -, rfl⟩ := List.getElem?_zipWith_eq_some.mp hi
  rw [Binding.slot?_socket_ofOperand, Binding.slot_ofOperand]

/-- No two operands are bound to one socket. -/
theorem Operation.nodup_sockets_bind (operation : Operation) (args : List Operand) :
    ((operation.bind args).map (·.socket)).Nodup := by
  refine List.Nodup.of_map Socket.slot? ?_
  have hslots : ((operation.bind args).map (·.socket)).map Socket.slot? =
      ((operation.bind args).map (·.slot)).map some := by
    rw [List.map_map, List.map_map]
    exact List.map_congr_left fun b hb => slot?_socket_of_mem_bind hb
  rw [hslots]
  exact (operation.nodup_slots_bind args).map (Option.some_injective Slot)

theorem Operation.length_bind (operation : Operation) {args : List Operand}
    (h : args.length ≤ 3) : (operation.bind args).length = args.length := by
  simpa [bind, Slot.all] using h

/-! ### Texts of vectors -/

theorem splitAtAll_of_notMem {separator : Char} {piece : List Char} (h : separator ∉ piece) :
    splitAtAll (· = separator) piece = [piece] :=
  splitAtAll_of_forall fun _ hc => decide_eq_false fun heq => h (heq ▸ hc)

theorem comma_notMem_literalText (s : Single) : ',' ∉ s.literalText.toList := fun hmem =>
  absurd (Single.isNumeralChar_of_mem_toText .literal s hmem) (by decide)

namespace Triple

/-- Commas cut the text of a vector into the texts of its components. -/
theorem splitAtAll_attributeText (t : Triple) :
    splitAtAll (· = ',') t.attributeText.toList =
      ['[' :: t.x.literalText.toList, ' ' :: t.y.literalText.toList,
        ' ' :: (t.z.literalText.toList ++ [']'])] := by
  have htext : t.attributeText.toList = ('[' :: t.x.literalText.toList) ++ ',' ::
      ((' ' :: t.y.literalText.toList) ++ ',' :: ' ' :: (t.z.literalText.toList ++ [']'])) := by
    simp [attributeText, toList, String.intercalate_cons_cons]
  rw [htext, splitAtAll_append _ (by decide), splitAtAll_append _ (by decide),
    splitAtAll_of_notMem (by simp [comma_notMem_literalText]),
    splitAtAll_of_notMem (by simp [comma_notMem_literalText]),
    splitAtAll_of_notMem (by simp [comma_notMem_literalText])]
  rfl

/-- Different vectors of numbers have different texts. -/
theorem attributeText_inj {t t' : Triple} (h : ∀ s ∈ t.toList, s.IsNumber)
    (h' : ∀ s ∈ t'.toList, s.IsNumber) : t.attributeText = t'.attributeText ↔ t = t' := by
  refine ⟨fun heq => ?_, congrArg attributeText⟩
  simp only [toList, List.forall_mem_cons] at h h'
  have hpieces := congrArg (fun text => splitAtAll (· = ',') text.toList) heq
  simp only [splitAtAll_attributeText, List.cons.injEq, true_and, and_true,
    List.append_cancel_right_eq, String.toList_inj] at hpieces
  obtain ⟨hx, hy, hz⟩ := hpieces
  -- "Not a number" has one text for both signs, so all six components have to be numbers.
  rw [Triple.mk.injEq]
  exact ⟨(Single.toText_inj .literal h.1 h'.1).mp hx,
    (Single.toText_inj .literal h.2.1 h'.2.1).mp hy,
    (Single.toText_inj .literal h.2.2.1 h'.2.2.1).mp hz⟩

theorem splat_inj {s s' : Single} : splat s = splat s' ↔ s = s' := by
  simp [splat]

end Triple

/-! ### Operands that count as the same -/

/-- Two operands count as the same: they are the same, or, if numbers are broadcast, one is a number
and the other the vector of its copies. -/
inductive Operand.Agrees (broadcast : Bool) : Operand → Operand → Prop where
  /-- The same operand. -/
  | refl (operand : Operand) : Agrees broadcast operand operand
  /-- A number and its vector. -/
  | scalarVector (h : broadcast = true) (s : Single) :
    Agrees broadcast (.scalar s) (.vector (.splat s))
  /-- A vector and its number. -/
  | vectorScalar (h : broadcast = true) (s : Single) :
    Agrees broadcast (.vector (.splat s)) (.scalar s)

/-- Whether an operation takes a number at a position as a vector: an operation on vectors does,
except for the factor of a scaling, the second of its operands. Positions are counted from zero. -/
def Operation.broadcastsAt : Operation → Nat → Bool
  | .scalar _, _ => false
  | .vector o, position => !(o = .scale && position = 1)

/-- Two lists of operands count as the same for an operation. -/
structure Operation.ArgsAgree (operation : Operation) (args args' : List Operand) : Prop where
  /-- There are as many operands. -/
  length_eq : args.length = args'.length
  /-- They count as the same at every position. -/
  agrees : ∀ position (h : position < args.length) (h' : position < args'.length),
    args[position].Agrees (operation.broadcastsAt position) args'[position]

namespace Operand

/-- The numbers in an operand. -/
def numbers : Operand → List Single
  | .scalar s => [s]
  | .vector t => t.toList
  | .reference _ => []

/-- An operand that is written without loss: no number in it is "not a number", and a name has no
space in it. -/
structure Legible (operand : Operand) : Prop where
  /-- All numbers have a text of their own. -/
  numbers : ∀ s ∈ operand.numbers, s.IsNumber
  /-- A name is told from the text of a vector. -/
  name : ∀ name, operand = .reference name → ' ' ∉ name.toList

variable {x y : Operand}

theorem agrees_false_iff : x.Agrees false y ↔ x = y := by
  constructor
  · rintro (_ | h | h)
    · rfl
    · cases h
    · cases h
  · rintro rfl
    exact .refl x

theorem Legible.attributeText_ne {name : String} (h : Legible (.reference name)) (t : Triple) :
    t.attributeText ≠ name := fun heq =>
  h.name name rfl (heq ▸ space_mem_attributeText t)

end Operand

namespace Binding

/-- The factor of a scaling is where nothing is broadcast. -/
theorem broadcastsAt_vector (operation : VectorOperation) {position : Nat} {slot : Slot}
    (hslot : Slot.all[position]? = some slot) :
    (Operation.vector operation).broadcastsAt position = !isFactor operation slot := by
  have hsecond : ∀ p < Slot.all.length, ∀ s, Slot.all[p]? = some s → (p = 1 ↔ s = .b) := by
    decide
  have hlt := (List.getElem?_eq_some_iff.mp hslot).1
  rw [Operation.broadcastsAt, isFactor, decide_eq_decide.mpr (hsecond position hlt slot hslot)]

variable {x y : Operand} {slot : Slot}

/-- Where nothing is broadcast, a binding tells the operand. -/
theorem ofScalar_inj (hx : x.Legible) (hy : y.Legible) :
    ofScalar slot x = ofScalar slot y ↔ x = y := by
  cases x with
  | scalar s => cases y <;> simp [ofScalar, float, named]
  | vector t =>
    cases y with
    | scalar s => simp [ofScalar, float, named]
    | vector t' => simpa [ofScalar, named] using Triple.attributeText_inj hx.numbers hy.numbers
    | reference name => simpa [ofScalar, named] using hy.attributeText_ne t
  | reference name =>
    cases y with
    | scalar s => simp [ofScalar, float, named]
    | vector t => simpa [ofScalar, named] using (hx.attributeText_ne t).symm
    | reference name' => simp [ofScalar, named]

/-- Where numbers are broadcast, a binding tells the operand up to that. -/
theorem ofVector_eq_iff {operation : VectorOperation} (h : isFactor operation slot = false) :
    ofVector operation slot x = ofVector operation slot y ↔ x.Agrees true y := by
  have hvector (operand : Operand) : ofVector operation slot operand =
      operand.broadcast.elim (named slot operand.text) (vector slot) := by
    cases operand <;> simp [ofVector, h, Operand.broadcast]
  rw [hvector, hvector]
  constructor
  · intro heq
    -- Names go to another socket, so a number meets nothing but numbers and vectors.
    cases x with
    | scalar s =>
      cases y with
      | scalar s' =>
        obtain rfl : s = s' := by simpa [Operand.broadcast, vector, Triple.splat_inj] using heq
        exact .refl _
      | vector t =>
        obtain rfl : Triple.splat s = t := by simpa [Operand.broadcast, vector] using heq
        exact .scalarVector rfl s
      | reference name => simp [Operand.broadcast, vector, named] at heq
    | vector t =>
      cases y with
      | scalar s =>
        obtain rfl : t = .splat s := by simpa [Operand.broadcast, vector] using heq
        exact .vectorScalar rfl s
      | vector t' =>
        obtain rfl : t = t' := by simpa [Operand.broadcast, vector] using heq
        exact .refl _
      | reference name => simp [Operand.broadcast, vector, named] at heq
    | reference name =>
      cases y with
      | scalar s => simp [Operand.broadcast, vector, named] at heq
      | vector t => simp [Operand.broadcast, vector, named] at heq
      | reference name' =>
        obtain rfl : name = name' := by simpa [Operand.broadcast, named, Operand.text] using heq
        exact .refl _
  · rintro (_ | _ | _) <;> rfl

/-- **One binding tells its operand** up to broadcasting. -/
theorem ofOperand_eq_iff {operation : Operation} (hx : x.Legible) (hy : y.Legible) {position : Nat}
    (hslot : Slot.all[position]? = some slot) :
    ofOperand operation slot x = ofOperand operation slot y ↔
      x.Agrees (operation.broadcastsAt position) y := by
  cases operation with
  | scalar o =>
    rw [Operation.broadcastsAt, Operand.agrees_false_iff]
    exact ofScalar_inj hx hy
  | vector o =>
    rw [broadcastsAt_vector o hslot, ofOperand, ofOperand]
    cases hf : isFactor o slot with
    | false => exact ofVector_eq_iff hf
    | true =>
      rw [ofVector, ofVector, if_pos hf, if_pos hf, Bool.not_true, Operand.agrees_false_iff]
      exact ofScalar_inj hx hy

end Binding

/-! ### All operands -/

/-- Bindings of legible operands tell them up to broadcasting. -/
theorem Operation.bind_eq_iff_of_legible (operation : Operation) {args args' : List Operand}
    (hlength : args.length ≤ 3) (hlength' : args'.length ≤ 3)
    (h : ∀ x ∈ args, x.Legible) (h' : ∀ x ∈ args', x.Legible) :
    operation.bind args = operation.bind args' ↔ operation.ArgsAgree args args' := by
  have hone {position : Nat} (hlt : position < args.length) (hlt' : position < args'.length) :
      (operation.bind args)[position]? = (operation.bind args')[position]? ↔
        args[position].Agrees (operation.broadcastsAt position) args'[position] := by
    have hslot := List.getElem?_eq_getElem (l := Slot.all) (hlt.trans_le hlength)
    simp only [bind, List.getElem?_zipWith, hslot, List.getElem?_eq_getElem hlt,
      List.getElem?_eq_getElem hlt', Option.some.injEq]
    exact Binding.ofOperand_eq_iff (h _ (List.getElem_mem hlt)) (h' _ (List.getElem_mem hlt'))
      hslot
  constructor
  · intro heq
    refine ⟨?_, fun position hlt hlt' => (hone hlt hlt').mp (by rw [heq])⟩
    rw [← length_bind operation hlength, heq, length_bind operation hlength']
  · intro hagree
    apply List.ext_getElem?'
    intro position hlt
    rw [length_bind operation hlength, length_bind operation hlength', ← hagree.length_eq,
      Nat.max_self] at hlt
    have hlt' : position < args'.length := hagree.length_eq ▸ hlt
    exact (hone hlt hlt').mpr (hagree.agrees position hlt hlt')

end FormulaChain
