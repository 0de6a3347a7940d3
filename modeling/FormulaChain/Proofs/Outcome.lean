/-!
# Outcomes that are no failures

A sequence of steps that can fail succeeds exactly if each of its steps does. What every step keeps
is kept by all steps together (`foldlM_induct`), and the failure of a sequence is that of the first
step that fails (`foldlM_eq_error`). Of steps that may also have no outcome at all, what is said is
said of the outcomes that there are.
-/

namespace FormulaChain

variable {ε α β : Type}

theorem bind_eq_ok {x : Except ε α} {f : α → Except ε β} {b : β} :
    (x >>= f) = .ok b ↔ ∃ a, x = .ok a ∧ f a = .ok b := by
  cases x <;> simp [bind, Except.bind]

/-- A check is passed exactly if nothing is thrown. -/
theorem check_eq_ok {p : Prop} [Decidable p] {error : ε} {f : PUnit → Except ε β}
    {x : Except ε β} {b : β} :
    (if p then throw error >>= f else x) = .ok b ↔ ¬ p ∧ x = .ok b := by
  by_cases h : p
  · simp [h, bind_eq_ok, throw, throwThe, MonadExceptOf.throw]
  · simp [h]

/-- What each step keeps, all steps keep that succeed. -/
theorem foldlM_induct {P : β → Prop} {f : β → α → Except ε β} {items : List α}
    (step : ∀ b a b', a ∈ items → P b → f b a = .ok b' → P b') {b b' : β} (hb : P b)
    (h : items.foldlM f b = .ok b') : P b' := by
  induction items generalizing b with
  | nil =>
    cases h
    exact hb
  | cons a items ih =>
    rw [List.foldlM_cons] at h
    obtain ⟨next, hnext, h⟩ := bind_eq_ok.mp h
    exact ih (fun b a b' ha => step b a b' (List.mem_cons_of_mem _ ha))
      (step b a next List.mem_cons_self hb hnext) h

/-- A sequence of steps fails exactly at a step that fails behind steps that succeed. -/
theorem foldlM_eq_error {f : β → α → Except ε β} {items : List α} {b : β} {error : ε} :
    items.foldlM f b = .error error ↔ ∃ before a after b',
      items = before ++ a :: after ∧ before.foldlM f b = .ok b' ∧ f b' a = .error error := by
  constructor
  · intro h
    induction items generalizing b with
    | nil => cases h
    | cons a items ih =>
      rw [List.foldlM_cons] at h
      cases hfirst : f b a with
      | error first =>
        rw [hfirst] at h
        cases h
        exact ⟨[], a, items, b, rfl, rfl, hfirst⟩
      | ok next =>
        rw [hfirst] at h
        obtain ⟨before, a', after, b', rfl, hbefore, hfails⟩ := ih h
        refine ⟨a :: before, a', after, b', rfl, ?_, hfails⟩
        rw [List.foldlM_cons, hfirst]
        exact hbefore
  · rintro ⟨before, a, after, b', rfl, hbefore, hfails⟩
    rw [List.foldlM_append, hbefore]
    show (f b' a >>= fun next => after.foldlM f next) = _
    rw [hfails]
    rfl

/-! ### Steps that may have no outcome -/

section Run

variable {x x' : ExceptT ε Option α} {f f' : α → ExceptT ε Option β}

theorem run_bind_eq_ok {b : β} :
    (x >>= f).run = some (.ok b) ↔ ∃ a, x.run = some (.ok a) ∧ (f a).run = some (.ok b) := by
  rw [ExceptT.run_bind]
  rcases x.run with - | - | a <;> simp

theorem run_bind_eq_error {error : ε} : (x >>= f).run = some (.error error) ↔
    x.run = some (.error error) ∨
      ∃ a, x.run = some (.ok a) ∧ (f a).run = some (.error error) := by
  rw [ExceptT.run_bind]
  rcases x.run with - | - | a <;> simp

/-- Steps that have the outcomes of others have them one after the other as well. -/
theorem run_bind_mono {outcome : Except ε β}
    (hx : ∀ outcome, x.run = some outcome → x'.run = some outcome)
    (hf : ∀ a, (f a).run = some outcome → (f' a).run = some outcome)
    (h : (x >>= f).run = some outcome) : (x' >>= f').run = some outcome := by
  cases outcome with
  | ok b =>
    obtain ⟨a, ha, hb⟩ := run_bind_eq_ok.mp h
    exact run_bind_eq_ok.mpr ⟨a, hx _ ha, hf a hb⟩
  | error error =>
    refine run_bind_eq_error.mpr ?_
    rcases run_bind_eq_error.mp h with herror | ⟨a, ha, herror⟩
    · exact .inl (hx _ herror)
    · exact .inr ⟨a, hx _ ha, hf a herror⟩

end Run

end FormulaChain
