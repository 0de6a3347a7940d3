import FormulaChain.Build
import Mathlib.Order.Basic

/-!
# Runs of requests

What a sequence of requests answers and leaves behind (`SinkRun.outcome`), taken apart along the
sequence: it gives an answer exactly if each of its parts does.

Two properties of runs go along a sequence in the same way: that the run gives an answer from every
state of a kind (`Runs`), and that it keeps a property of the state whatever it answers
(`Preserves`).
-/

namespace FormulaChain

variable {σ N F E α β : Type}

namespace SinkRun

/-- The answer of a run from a state, and the state after it. -/
def outcome (run : SinkRun σ N F E α) (state : σ) : Except (SinkError N F E) α × σ := run state

/-- The run gives an answer and leaves a state. -/
def Yields (run : SinkRun σ N F E α) (state : σ) (answer : α) (after : σ) : Prop :=
  run.outcome state = (.ok answer, after)

theorem yields_pure {a b : α} {s s' : σ} :
    Yields (pure a : SinkRun σ N F E α) s b s' ↔ b = a ∧ s' = s := by
  constructor
  · intro h
    cases h
    exact ⟨rfl, rfl⟩
  · rintro ⟨rfl, rfl⟩
    rfl

theorem outcome_bind (run : SinkRun σ N F E α) (next : α → SinkRun σ N F E β) (s : σ) :
    (run >>= next).outcome s =
      match run.outcome s with
      | (.ok a, s₁) => (next a).outcome s₁
      | (.error e, s₁) => (.error e, s₁) := by
  show (ExceptT.bind run next : StateT σ Id _) s = _
  simp only [ExceptT.bind, ExceptT.mk, bind, StateT.bind, outcome]
  cases run s with
  | mk result s₁ => cases result <;> rfl

/-- A refusal ends a sequence. -/
theorem outcome_bind_of_error {run : SinkRun σ N F E α} {next : α → SinkRun σ N F E β}
    {s s₁ : σ} {e : SinkError N F E} (h : run.outcome s = (.error e, s₁)) :
    (run >>= next).outcome s = (.error e, s₁) := by
  rw [outcome_bind, h]

/-- A sequence gives an answer exactly if both parts do. -/
theorem yields_bind {run : SinkRun σ N F E α} {next : α → SinkRun σ N F E β} {s s' : σ} {b : β} :
    Yields (run >>= next) s b s' ↔ ∃ a s₁, Yields run s a s₁ ∧ Yields (next a) s₁ b s' := by
  unfold Yields
  rw [outcome_bind]
  cases h : run.outcome s with
  | mk result s₁ =>
    cases result with
    | ok a =>
      constructor
      · exact fun hb => ⟨a, s₁, rfl, hb⟩
      · rintro ⟨a', s₁', ha, hb⟩
        cases ha
        exact hb
    | error e =>
      constructor
      · exact fun hb => by cases hb
      · rintro ⟨a', s₁', ha, -⟩
        cases ha

theorem Yields.bind {run : SinkRun σ N F E α} {next : α → SinkRun σ N F E β} {s s₁ s' : σ} {a : α}
    {b : β} (h : Yields run s a s₁) (hn : Yields (next a) s₁ b s') : Yields (run >>= next) s b s' :=
  yields_bind.mpr ⟨a, s₁, h, hn⟩

/-! ### Runs that give an answer -/

/-- From every state of `P` the run gives an answer and ends as `Q` says. -/
def Runs (P : σ → Prop) (run : SinkRun σ N F E α) (Q : α → σ → Prop) : Prop :=
  ∀ s, P s → ∃ a s', Yields run s a s' ∧ Q a s'

section Runs

variable {P : σ → Prop} {Q : α → σ → Prop} {R : β → σ → Prop}

theorem runs_pure {a : α} (h : ∀ s, P s → Q a s) : Runs P (pure a : SinkRun σ N F E α) Q :=
  fun s hs => ⟨a, s, yields_pure.mpr ⟨rfl, rfl⟩, h s hs⟩

theorem Runs.bind {run : SinkRun σ N F E α} {next : α → SinkRun σ N F E β} (h : Runs P run Q)
    (hn : ∀ a, Runs (Q a) (next a) R) : Runs P (run >>= next) R := by
  intro s hs
  obtain ⟨a, s₁, hy, hq⟩ := h s hs
  obtain ⟨b, s', hy', hr⟩ := hn a s₁ hq
  exact ⟨b, s', hy.bind hy', hr⟩

/-- What holds whatever the state is may be assumed. -/
theorem Runs.of_and {p : Prop} {run : SinkRun σ N F E α} (h : p → Runs P run Q) :
    Runs (fun s => P s ∧ p) run Q :=
  fun s hs => h hs.2 s hs.1

/-- A loop ends with all items done if every round does one. -/
theorem Runs.forM_done {I : List α → σ → Prop} {items : List α} {body : α → SinkRun σ N F E PUnit}
    (h : ∀ done, ∀ a ∈ items, Runs (I done) (body a) fun _ => I (done ++ [a])) (done : List α) :
    Runs (I done) (items.forM body) fun _ => I (done ++ items) := by
  induction items generalizing done with
  | nil =>
    rw [List.append_nil]
    exact runs_pure fun _ hs => hs
  | cons a items ih =>
    have hrest := ih (fun done b hb => h done b (List.mem_cons_of_mem _ hb)) (done ++ [a])
    rw [List.append_assoc, List.singleton_append] at hrest
    exact (h done a List.mem_cons_self).bind fun _ => hrest

/-- A loop keeps what every round keeps. -/
theorem Runs.forM {items : List α} {body : α → SinkRun σ N F E PUnit}
    (h : ∀ a ∈ items, Runs P (body a) fun _ => P) : Runs P (items.forM body) fun _ => P :=
  Runs.forM_done (I := fun _ => P) (fun _ a ha => h a ha) []

/-- A loop over an accumulator keeps what every round keeps. -/
theorem Runs.foldlM {I : β → σ → Prop} {items : List α} {body : β → α → SinkRun σ N F E β}
    (h : ∀ b, ∀ a ∈ items, Runs (I b) (body b a) I) (b : β) :
    Runs (I b) (items.foldlM body b) I := by
  induction items generalizing b with
  | nil => exact runs_pure fun _ hs => hs
  | cons a items ih =>
    exact (h b a List.mem_cons_self).bind fun b' =>
      ih (fun b c hc => h b c (List.mem_cons_of_mem _ hc)) b'

end Runs

/-! ### Runs that keep a property -/

/-- Whatever the run answers, it keeps a property of the state. -/
def Preserves (P : σ → Prop) (run : SinkRun σ N F E α) : Prop :=
  ∀ s, P s → P (run.outcome s).2

section Preserves

variable {P : σ → Prop}

theorem Preserves.after {run : SinkRun σ N F E α} {s s' : σ} {a : α} (h : Preserves P run)
    (hy : Yields run s a s') (hs : P s) : P s' := by
  have hafter := h s hs
  rw [hy] at hafter
  exact hafter

theorem preserves_pure (a : α) : Preserves P (pure a : SinkRun σ N F E α) :=
  fun _ hs => hs

theorem Preserves.bind {run : SinkRun σ N F E α} {next : α → SinkRun σ N F E β}
    (h : Preserves P run) (hn : ∀ a, Preserves P (next a)) : Preserves P (run >>= next) := by
  intro s hs
  rw [outcome_bind]
  have hs₁ := h s hs
  cases hr : run.outcome s with
  | mk result s₁ =>
    rw [hr] at hs₁
    cases result with
    | ok a => exact hn a s₁ hs₁
    | error e => exact hs₁

theorem preserves_forM {items : List α} {body : α → SinkRun σ N F E PUnit}
    (h : ∀ a, Preserves P (body a)) : Preserves P (items.forM body) := by
  induction items with
  | nil => exact preserves_pure _
  | cons a items ih => exact (h a).bind fun _ => ih

theorem preserves_foldlM {items : List α} {body : β → α → SinkRun σ N F E β}
    (h : ∀ b a, Preserves P (body b a)) (b : β) : Preserves P (items.foldlM body b) := by
  induction items generalizing b with
  | nil => exact preserves_pure _
  | cons a items ih => exact (h b a).bind fun b' => ih b'

end Preserves

end SinkRun

end FormulaChain
