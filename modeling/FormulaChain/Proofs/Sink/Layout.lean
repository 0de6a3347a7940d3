import FormulaChain.Proofs.Sink.Mirror
import FormulaChain.Proofs.Sink.Recording

/-!
# The layout of a build

A compilation into a recording sink lays its nodes out in a chain: they are numbered in the order of
the formula, each stands a gap to the right of the one before, and a link leads to it from there
(`placedAll`). What it gives and what it records are functions of the plan and of what was recorded
before (`compile_eq`), which it leaves as it was; into an empty sink the chain is all that is
recorded (`compile_chain`).
-/

namespace FormulaChain

/-- Where a node stands in a chain that begins at the origin. -/
def chainPosition : Nat → Planar
  | 0 => originPosition
  | n + 1 => ((chainPosition n).1 + defaultNodeWidth + nodeGap, (chainPosition n).2)

/-- How the nodes of a chain stand. -/
def chainLayouts (n : Nat) : List NodeLayout :=
  (List.range n).map fun i => ⟨chainPosition i, defaultNodeWidth⟩

/-- The links of a chain. -/
def chainLinks (n : Nat) : List RecordedLink :=
  (List.range (n - 1)).map fun i => ⟨i, .geometry, i + 1, .geometry⟩

theorem chainLinks_succ (n : Nat) :
    chainLinks (n + 2) = chainLinks (n + 1) ++ [⟨n, .geometry, n + 1, .geometry⟩] := by
  simp [chainLinks, List.range_succ]

/-- The node that carries out an operator at a place of a chain. -/
def placed (i : Nat) (step : Step) : EmittedNode Nat where
  handle := i
  operation := step.operation
  args := step.args
  bindings := step.operation.bind step.args
  resultName := step.resultName
  sequenceIndex := i
  position := chainPosition i

/-- The nodes that carry out operators in a chain. -/
def placedAll (steps : List Step) : List (EmittedNode Nat) := steps.mapIdx placed

@[simp]
theorem length_placedAll (steps : List Step) : (placedAll steps).length = steps.length := by
  simp [placedAll]

theorem placedAll_concat (steps : List Step) (step : Step) :
    placedAll (steps ++ [step]) = placedAll steps ++ [placed steps.length step] :=
  List.mapIdx_concat

/-- The final name leaves as many operators as there were. -/
theorem Plan.length_finalSteps (plan : Plan) : plan.finalSteps.length = plan.steps.length := by
  have hunits : plan.finalSteps.map (fun _ => ()) = plan.steps.map fun _ => () :=
    plan.map_finalSteps fun _ _ => rfl
  simpa using congrArg List.length hunits

/-- A cancelled plan has no operators. -/
theorem Plan.steps_eq_nil_of_cancelled {catalog : Catalog} {stem : String} {words : List String}
    (h : (Plan.ofWords catalog stem words).status = .cancelled) :
    (Plan.ofWords catalog stem words).steps = [] := by
  rw [← List.length_eq_zero_iff, ← Plan.length_finalSteps, Plan.steps_of_cancelled h]
  rfl

/-- The input kinds that some bindings choose in turn. -/
def InputKinds.choose (kinds : InputKinds) (bindings : List Binding) : InputKinds :=
  bindings.foldl (fun k b => k.set b.slot b.kind) kinds

theorem InputKinds.get_set (kinds : InputKinds) (slot other : Slot) (kind : InputKind) :
    (kinds.set slot kind).get other = if other = slot then some kind else kinds.get other := by
  cases slot <;> cases other <;> rfl

/-- Bindings to different slots choose the kinds of these slots and no others. -/
theorem InputKinds.get_choose {bindings : List Binding} (h : (bindings.map (·.slot)).Nodup)
    (kinds : InputKinds) (slot : Slot) :
    (kinds.choose bindings).get slot =
      ((bindings.find? (·.slot = slot)).map (·.kind)).or (kinds.get slot) := by
  induction bindings generalizing kinds with
  | nil => rfl
  | cons b bindings ih =>
    rw [List.map_cons, List.nodup_cons] at h
    have hrest : (kinds.choose (b :: bindings)).get slot =
        ((kinds.set b.slot b.kind).choose bindings).get slot := rfl
    rw [hrest, ih h.2, get_set]
    by_cases hslot : slot = b.slot
    · subst hslot
      have hnone : bindings.find? (·.slot = b.slot) = none := by
        rw [List.find?_eq_none]
        intro other hother hsame
        have heq : other.slot = b.slot := of_decide_eq_true hsame
        exact h.1 (heq ▸ List.mem_map_of_mem hother)
      simp [hnone]
    · simp [hslot, Ne.symm hslot]

theorem InputKinds.get_choose_unset {bindings : List Binding}
    (h : (bindings.map (·.slot)).Nodup) (slot : Slot) :
    (unset.choose bindings).get slot = (bindings.find? (·.slot = slot)).map (·.kind) := by
  have hunset : unset.get slot = none := by cases slot <;> rfl
  rw [get_choose h, hunset, Option.or_none]

/-- What a binding writes. -/
def Binding.written (b : Binding) : Socket × SocketValue := (b.socket, b.value)

/-- What is recorded of an emitted node whose result was given some names in turn. -/
def EmittedNode.record {N : Type} (node : EmittedNode N) (names : List String)
    (frame : Option Nat) : RecordedNode where
  kind := node.kind
  position := node.position
  width := defaultNodeWidth
  operation := some node.operation
  inputKinds := InputKinds.unset.choose node.bindings
  values := node.bindings.map Binding.written ++ names.map fun name => (.result, .text name)
  frame := frame

/-- The last name written is the one that is read. -/
theorem RecordedNode.value_result_record {N : Type} (node : EmittedNode N) {names : List String}
    {name : String} (h : names.getLast? = some name) (frame : Option Nat) :
    (node.record names frame).value .result = some (.text name) := by
  obtain ⟨front, rfl⟩ := List.getLast?_eq_some_iff.mp h
  simp [RecordedNode.value, EmittedNode.record]

/-- The names that a node of a plan gets in turn: that of its step, and for the last node the final
one. -/
def Plan.names (plan : Plan) (i : Nat) (step : Step) : List String :=
  step.resultName :: if i + 1 = plan.steps.length then plan.finalName.toList else []

/-- What is recorded of the nodes of a plan. -/
def Plan.recorded (plan : Plan) (frame : Option Nat) : List RecordedNode :=
  plan.steps.mapIdx fun i step => (placed i step).record (plan.names i step) frame

/-- Only the last node of a plan gets another name. -/
theorem Plan.recorded_concat {plan : Plan} {front : List Step} {last : Step}
    (hs : plan.steps = front ++ [last]) (frame : Option Nat) :
    plan.recorded frame =
      (front.mapIdx fun i step => (placed i step).record [step.resultName] frame) ++
        [(placed front.length last).record (last.resultName :: plan.finalName.toList) frame] := by
  have hfront : (front.mapIdx fun i step => (placed i step).record (plan.names i step) frame) =
      front.mapIdx fun i step => (placed i step).record [step.resultName] frame := by
    rw [List.mapIdx_eq_mapIdx_iff]
    intro i hi
    have hne : i + 1 ≠ plan.steps.length := by
      rw [hs, List.length_append, List.length_singleton]
      omega
    rw [names, if_neg hne]
  rw [recorded, hs, List.mapIdx_concat, hfront, names, hs, List.length_append,
    List.length_singleton, if_pos rfl]

/-- A link between nodes that have greater numbers. -/
def RecordedLink.shift (n : Nat) (link : RecordedLink) : RecordedLink :=
  { link with source := link.source + n, target := link.target + n }

namespace Recording

open SinkRun

/-- How the nodes stand, and the links. -/
structure Shows (layouts : List NodeLayout) (links : List RecordedLink) (r : Recording) : Prop where
  /-- Every node stands where it should. -/
  layouts : r.nodes.map (fun node => (⟨node.position, node.width⟩ : NodeLayout)) = layouts
  /-- The links are there and no others. -/
  links : r.links = links

/-- A chain of `n` nodes is all there is. -/
abbrev ShowsChain (n : Nat) : Recording → Prop := Shows (chainLayouts n) (chainLinks n)

/-! ### Single requests -/

/-- A recording with one node more. -/
def push (r : Recording) (node : RecordedNode) : Recording := { r with nodes := r.nodes ++ [node] }

theorem modify_concat (front : List RecordedNode) (last : RecordedNode)
    (f : RecordedNode → RecordedNode) :
    (front ++ [last]).modify front.length f = front ++ [f last] := by
  simp [List.modify_eq_take_cons_drop]

/-- The last node is changed. -/
theorem change_push {r : Recording} {n : Nat} (hn : n = r.nodes.length)
    (f : RecordedNode → RecordedNode) (node : RecordedNode) :
    change n f (r.push node) = (.ok (), r.push (f node)) := by
  have hlt : n < (r.push node).nodes.length := by simp [push, hn]
  rw [change_of_lt hlt, push, hn, modify_concat]
  rfl

/-- Bindings are written into the last node. -/
theorem writeBindings_push {r : Recording} {n : Nat} (hn : n = r.nodes.length)
    (bindings : List Binding) (node : RecordedNode) :
    Yields (bindings.forM (sink.writeBinding n)) (r.push node) () (r.push { node with
      inputKinds := node.inputKinds.choose bindings
      values := node.values ++ bindings.map Binding.written }) := by
  induction bindings generalizing node with
  | nil =>
    rw [List.map_nil, List.append_nil]
    exact yields_pure.mpr ⟨rfl, rfl⟩
  | cons b bindings ih =>
    have hkind : Yields (sink.call (.setInputKind n b.slot b.kind)) (r.push node) ()
        (r.push { node with inputKinds := node.inputKinds.set b.slot b.kind }) :=
      change_push hn _ node
    have hvalue : Yields (sink.call (.setInputValue n b.socket b.value))
        (r.push { node with inputKinds := node.inputKinds.set b.slot b.kind }) ()
        (r.push { node with
          inputKinds := node.inputKinds.set b.slot b.kind
          values := node.values ++ [b.written] }) :=
      change_push hn _ _
    have hrest := ih { node with
      inputKinds := node.inputKinds.set b.slot b.kind
      values := node.values ++ [b.written] }
    rw [List.append_assoc] at hrest
    exact (hkind.bind hvalue).bind hrest

/-- A recording with one link more. -/
def withLink (r : Recording) (link : RecordedLink) : Recording :=
  { r with links := r.links ++ [link] }

/-- The last node is moved. -/
theorem move_push {r : Recording} {n : Nat} (hn : n = r.nodes.length) (position : Planar)
    (node : RecordedNode) :
    Yields (sink.call (.setPosition n position) >>= fun _ => pure position) (r.push node) position
      (r.push { node with position := position }) := by
  have hmove : Yields (sink.call (.setPosition n position)) (r.push node) ()
      (r.push { node with position := position }) := change_push hn _ node
  exact hmove.bind (yields_pure.mpr ⟨rfl, rfl⟩)

/-- The first node is placed at the origin. -/
theorem place_first {r : Recording} {n : Nat} (hn : n = r.nodes.length) (node : RecordedNode) :
    Yields (sink.place none n) (r.push node) originPosition
      (r.push { node with position := originPosition }) :=
  Yields.bind (yields_pure.mpr ⟨rfl, rfl⟩) (move_push hn originPosition node)

/-- Any other node is placed after one that is there, and linked to it. -/
theorem place_next {r : Recording} {n : Nat} (hn : n = r.nodes.length)
    (before : EmittedNode Nat) {found : RecordedNode} (hb : r.nodes[before.handle]? = some found)
    (node : RecordedNode) :
    Yields (sink.place (some before) n) (r.push node)
      (found.position.1 + found.width + nodeGap, found.position.2)
      ((r.withLink ⟨before.handle, .geometry, n, .geometry⟩).push { node with
        position := (found.position.1 + found.width + nodeGap, found.position.2) }) := by
  have hlt : before.handle < r.nodes.length := (List.getElem?_eq_some_iff.mp hb).1
  have hlayout : Yields (sink.call (.nodeLayout before.handle)) (r.push node)
      (⟨found.position, found.width⟩ : NodeLayout) (r.push node) := by
    have hfound : (r.push node).nodes[before.handle]? = some found :=
      (List.getElem?_append_left hlt).trans hb
    have hanswer : (r.push node).layout before.handle = .ok ⟨found.position, found.width⟩ := by
      rw [layout, hfound]
    exact Prod.ext hanswer rfl
  have hlink : Yields (sink.call (.connect before.handle .geometry n .geometry)) (r.push node) ()
      ((r.withLink ⟨before.handle, .geometry, n, .geometry⟩).push node) := by
    have hsource : ¬ (r.push node).nodes.length ≤ before.handle := by
      simp only [push, List.length_append]
      omega
    have htarget : ¬ (r.push node).nodes.length ≤ n := by simp [push, hn]
    exact (if_neg hsource).trans (if_neg htarget)
  refine hlayout.bind (hlink.bind (Yields.bind (yields_pure.mpr ⟨rfl, rfl⟩) ?_))
  exact move_push (r := r.withLink ⟨before.handle, .geometry, n, .geometry⟩) hn _ node

/-! ### Stages -/

/-- The nodes that carry out operators in a chain that begins after what was recorded. -/
def placedIn (r : Recording) (steps : List Step) : List (EmittedNode Nat) :=
  (placedAll steps).map (·.rename (· + r.nodes.length))

/-- The links of a chain that begins after what was recorded. -/
def linksIn (r : Recording) (n : Nat) : List RecordedLink :=
  (chainLinks n).map (·.shift r.nodes.length)

/-- A recording after some operators were carried out in a chain. -/
def withChain (r : Recording) (steps : List Step) : Recording :=
  { r with
    nodes := r.nodes ++ steps.mapIdx fun i step => (placed i step).record [step.resultName] none
    links := r.links ++ r.linksIn steps.length }

theorem placedIn_concat (r : Recording) (steps : List Step) (step : Step) :
    r.placedIn (steps ++ [step]) =
      r.placedIn steps ++ [(placed steps.length step).rename (· + r.nodes.length)] := by
  simp [placedIn, placedAll_concat]

@[simp]
theorem length_placedIn (r : Recording) (steps : List Step) :
    (r.placedIn steps).length = steps.length := by simp [placedIn]

theorem length_withChain (r : Recording) (steps : List Step) :
    (r.withChain steps).nodes.length = steps.length + r.nodes.length := by
  simp [withChain, Nat.add_comm]

theorem withChain_nil (r : Recording) : r.withChain [] = r := by
  simp [withChain, linksIn, chainLinks]

/-- A recording with the link to the next node of a chain, as soon as there is one before. -/
def withNextLink (r : Recording) (steps : List Step) : Recording :=
  { r.withChain steps with links := r.links ++ r.linksIn (steps.length + 1) }

/-- The last node of a chain stands at its place. -/
theorem getElem?_withChain (r : Recording) (front : List Step) (last : Step) :
    (r.withChain (front ++ [last])).nodes[front.length + r.nodes.length]? =
      some ((placed front.length last).record [last.resultName] none) := by
  simp [withChain, Nat.add_comm front.length]

theorem withLink_withChain (r : Recording) (front : List Step) (last : Step) :
    (r.withChain (front ++ [last])).withLink ⟨front.length + r.nodes.length, .geometry,
        (front ++ [last]).length + r.nodes.length, .geometry⟩ =
      r.withNextLink (front ++ [last]) := by
  simp [withLink, withChain, withNextLink, linksIn, chainLinks_succ, RecordedLink.shift]

/-- A node that was created at the end of a chain is placed there. -/
theorem place_withChain (r : Recording) (steps : List Step) (node : RecordedNode) :
    Yields (sink.place (r.placedIn steps).getLast? (steps.length + r.nodes.length))
      ((r.withChain steps).push node) (chainPosition steps.length)
      ((r.withNextLink steps).push { node with position := chainPosition steps.length }) := by
  rcases List.eq_nil_or_concat steps with rfl | ⟨front, last, rfl⟩
  · have hstart : r.withNextLink [] = r.withChain [] := by
      simp [withNextLink, withChain, linksIn, chainLinks]
    rw [hstart]
    exact place_first (by simp [withChain]) node
  · rw [List.concat_eq_append, placedIn_concat, List.getLast?_concat, ← withLink_withChain]
    have hplace := place_next (length_withChain r (front ++ [last])).symm
      ((placed front.length last).rename (· + r.nodes.length))
      (getElem?_withChain r front last) node
    rw [List.length_append, List.length_singleton] at hplace ⊢
    exact hplace

/-- A chain is one with a node less, linked to one node more. -/
theorem withChain_concat (r : Recording) (steps : List Step) (step : Step) :
    r.withChain (steps ++ [step]) = (r.withNextLink steps).push
      ((placed steps.length step).record [step.resultName] none) := by
  simp [push, withNextLink, withChain]

/-- The next operator is carried out at the end of the chain. -/
theorem emitStep_withChain (r : Recording) (steps : List Step) (step : Step) :
    Yields (sink.emitStep (r.placedIn steps) step) (r.withChain steps)
      (r.placedIn (steps ++ [step])) (r.withChain (steps ++ [step])) := by
  have hcreate : Yields (sink.call (.createNode step.operation.nodeKind)) (r.withChain steps)
      (steps.length + r.nodes.length)
      ((r.withChain steps).push (.fresh step.operation.nodeKind defaultNodeWidth)) := by
    rw [← length_withChain]
    rfl
  have hlength : steps.length + r.nodes.length = (r.withNextLink steps).nodes.length :=
    (length_withChain r steps).symm
  have hplace := place_withChain r steps (.fresh step.operation.nodeKind defaultNodeWidth)
  have hoperation := change_push hlength
    (fun m => { m with operation := some step.operation })
    { RecordedNode.fresh step.operation.nodeKind defaultNodeWidth with
      position := chainPosition steps.length }
  have hbindings := writeBindings_push hlength (step.operation.bind step.args)
    { RecordedNode.fresh step.operation.nodeKind defaultNodeWidth with
      position := chainPosition steps.length
      operation := some step.operation }
  have hname := change_push hlength
    (fun m => { m with values := m.values ++ [(.result, .text step.resultName)] })
    { RecordedNode.fresh step.operation.nodeKind defaultNodeWidth with
      position := chainPosition steps.length
      operation := some step.operation
      inputKinds := InputKinds.unset.choose (step.operation.bind step.args)
      values := (step.operation.bind step.args).map Binding.written }
  rw [withChain_concat]
  refine Yields.bind hcreate (hplace.bind (Yields.bind hoperation (hbindings.bind
    (Yields.bind hname (yields_pure.mpr ⟨?_, rfl⟩)))))
  rw [placedIn_concat, length_placedIn]
  rfl

/-- Operators are carried out in a chain that goes on from those before. -/
theorem foldlM_emitStep_withChain (r : Recording) (done steps : List Step) :
    Yields (steps.foldlM sink.emitStep (r.placedIn done)) (r.withChain done)
      (r.placedIn (done ++ steps)) (r.withChain (done ++ steps)) := by
  induction steps generalizing done with
  | nil =>
    rw [List.append_nil]
    exact yields_pure.mpr ⟨rfl, rfl⟩
  | cons step steps ih =>
    rw [List.append_cons]
    exact (emitStep_withChain r done step).bind (ih (done ++ [step]))

/-- A recording after a plan was carried out and its nodes were put into a frame, if any. -/
def withPlan (r : Recording) (plan : Plan) (frame : Option Nat) : Recording :=
  { r with
    nodes := r.nodes ++ plan.recorded frame
    links := r.links ++ r.linksIn plan.steps.length }

/-- The last node gets one more name. -/
theorem renameLast_withChain (r : Recording) (front : List Step) (last : Step) (name : String) :
    Yields (sink.renameLast (r.placedIn (front ++ [last])) name) (r.withChain (front ++ [last]))
      (r.placedIn (front ++ [{ last with resultName := name }]))
      ((r.withNextLink front).push
        ((placed front.length last).record [last.resultName, name] none)) := by
  have hname := change_push (length_withChain r front).symm
    (r := r.withNextLink front)
    (fun m => { m with values := m.values ++ [(.result, .text name)] })
    ((placed front.length last).record [last.resultName] none)
  have hrecord : ((placed front.length last).record [last.resultName, name] none) =
      { (placed front.length last).record [last.resultName] none with
        values := ((placed front.length last).record [last.resultName] none).values ++
          [(.result, .text name)] } := by
    simp [EmittedNode.record]
  rw [withChain_concat, hrecord]
  simp only [GraphSink.renameLast, placedIn_concat, List.getLast?_concat, List.dropLast_concat]
  exact Yields.bind hname (yields_pure.mpr ⟨rfl, rfl⟩)

/-- The nodes get their final names. -/
theorem nameNodes_withPlan (r : Recording) (plan : Plan) :
    Yields (sink.nameNodes plan (r.placedIn plan.steps)) (r.withChain plan.steps)
      (r.placedIn plan.finalSteps) (r.withPlan plan none) := by
  unfold GraphSink.nameNodes Plan.finalSteps
  cases hn : plan.finalName with
  | none =>
    refine yields_pure.mpr ⟨rfl, ?_⟩
    simp [withPlan, withChain, Plan.recorded, Plan.names, hn]
  | some name =>
    rcases List.eq_nil_or_concat plan.steps with hs | ⟨front, last, hs⟩
    · have hsame : r.withPlan plan none = r.withChain [] := by
        simp [withPlan, withChain, Plan.recorded, hs]
      rw [hs, hsame]
      exact yields_pure.mpr ⟨rfl, rfl⟩
    · rw [List.concat_eq_append] at hs
      have hsame : r.withPlan plan none = (r.withNextLink front).push
          ((placed front.length last).record [last.resultName, name] none) := by
        simp [withPlan, withNextLink, withChain, push, Plan.recorded_concat hs, hs, hn]
      simp only [hs, Step.renameLast_concat, hsame]
      exact renameLast_withChain r front last name

/-- The last nodes of a recording are put into a frame, one after the other. -/
theorem assignAll {r : Recording} {frame : Nat} (hframe : frame < r.frames.length)
    {emitted : List (EmittedNode Nat)} (front rest : List RecordedNode)
    (hh : handles emitted = List.range' front.length rest.length) :
    Yields (emitted.forM fun node => sink.call (.assignToFrame node.handle frame))
      { r with nodes := front ++ rest } ()
      { r with nodes := front ++ rest.map fun n => { n with frame := some frame } } := by
  induction rest generalizing front emitted with
  | nil =>
    rw [List.map_eq_nil_iff.mp hh]
    exact yields_pure.mpr ⟨rfl, rfl⟩
  | cons node rest ih =>
    rw [List.length_cons, List.range'_succ] at hh
    obtain ⟨first, emitted, rfl, hfirst, hemitted⟩ := List.map_eq_cons_iff.mp hh
    have hassign : Yields (sink.call (.assignToFrame first.handle frame))
        { r with nodes := front ++ node :: rest } ()
        { r with nodes := front ++ { node with frame := some frame } :: rest } := by
      have hmodify : (front ++ node :: rest).modify first.handle
          (fun n => { n with frame := some frame }) =
            front ++ { node with frame := some frame } :: rest := by
        simp [hfirst, List.modify_eq_take_cons_drop]
      have hlt : first.handle < (front ++ node :: rest).length := by simp [hfirst]
      rw [← hmodify]
      exact (if_neg (Nat.not_le.mpr hframe)).trans (if_pos hlt)
    have hnext : handles emitted =
        List.range' (front ++ [{ node with frame := some frame }]).length rest.length := by
      simpa using hemitted
    have hrest := ih _ hnext
    rw [List.append_assoc, List.append_assoc] at hrest
    exact hassign.bind hrest

theorem handles_placedIn (r : Recording) (steps : List Step) :
    handles (r.placedIn steps) = List.range' r.nodes.length steps.length := by
  apply List.ext_getElem
  · simp [handles]
  · intro i _ _
    simp [handles, placedIn, placedAll, placed, EmittedNode.rename, Nat.add_comm]

theorem length_recorded (plan : Plan) (frame : Option Nat) :
    (plan.recorded frame).length = plan.steps.length := by simp [Plan.recorded]

theorem recorded_some (plan : Plan) (frame : Nat) :
    (plan.recorded none).map (fun n => { n with frame := some frame }) =
      plan.recorded (some frame) := by
  apply List.ext_getElem
  · simp [Plan.recorded]
  · intro i _ _
    simp [Plan.recorded, EmittedNode.record]

/-- The frame that a plan gets, if it is wanted and there are nodes. -/
def frameOf (r : Recording) (plan : Plan) (addFrame : Bool) : Option Nat :=
  if addFrame ∧ plan.steps ≠ [] then some r.frames.length else none

/-- The nodes are put into a new frame, or there is none. -/
theorem frameIf_withPlan (r : Recording) (plan : Plan) (label : String) (addFrame : Bool) :
    Yields (sink.frameIf addFrame (r.placedIn plan.finalSteps) label) (r.withPlan plan none)
      (r.frameOf plan addFrame)
      { r.withPlan plan (r.frameOf plan addFrame) with
        frames := r.frames ++ ((r.frameOf plan addFrame).map fun _ => label).toList } := by
  by_cases hadd : addFrame = true ∧ plan.steps ≠ []
  · have hne : (r.placedIn plan.finalSteps).isEmpty = false := by
      rw [List.isEmpty_eq_false_iff, ← List.length_pos_iff, length_placedIn,
        Plan.length_finalSteps]
      exact List.length_pos_iff.mpr hadd.2
    have hframe : r.frames.length < (r.frames ++ [label]).length := by simp
    have hhandles : handles (r.placedIn plan.finalSteps) =
        List.range' r.nodes.length (plan.recorded none).length := by
      rw [handles_placedIn, Plan.length_finalSteps, length_recorded]
    have hassign := assignAll (r := { r.withPlan plan none with frames := r.frames ++ [label] })
      hframe r.nodes (plan.recorded none) hhandles
    rw [recorded_some] at hassign
    have hcreate : Yields (sink.call (.createFrame label)) (r.withPlan plan none) r.frames.length
        { r.withPlan plan none with frames := r.frames ++ [label] } := rfl
    have hsome : r.frameOf plan addFrame = some r.frames.length := if_pos hadd
    rw [hsome]
    simp only [GraphSink.frameIf, GraphSink.frameNodes, hadd.1, if_true, hne]
    exact Yields.bind hcreate (hassign.bind (yields_pure.mpr ⟨rfl, rfl⟩))
  · have hnone : r.frameOf plan addFrame = none := if_neg hadd
    have hpure : sink.frameIf addFrame (r.placedIn plan.finalSteps) label = pure none := by
      unfold GraphSink.frameIf GraphSink.frameNodes
      cases addFrame with
      | false => rfl
      | true =>
        have hempty : plan.steps = [] := by simpa using hadd
        have hnodes : r.placedIn plan.finalSteps = [] := by
          rw [← List.length_eq_zero_iff, length_placedIn, Plan.length_finalSteps, hempty]
          rfl
        rw [hnodes]
        rfl
    rw [hpure, hnone]
    refine yields_pure.mpr ⟨rfl, ?_⟩
    simp [withPlan]

/-! ### Builds -/

/-- What a build of a plan gives. -/
def output (r : Recording) (plan : Plan) (addFrame : Bool) : CompileOutput Nat Nat :=
  ⟨plan.status, r.placedIn plan.finalSteps, plan.diagnostics, r.frameOf plan addFrame⟩

/-- A recording after the build of a plan that is not cancelled. -/
def built (r : Recording) (plan : Plan) (label : String) (addFrame : Bool) : Recording where
  nodes := r.nodes ++ plan.recorded (r.frameOf plan addFrame)
  links := r.links ++ r.linksIn plan.steps.length
  frames := r.frames ++ ((r.frameOf plan addFrame).map fun _ => label).toList
  refreshes := r.refreshes + 1

theorem buildNodes_built (r : Recording) (plan : Plan) (label : String) (addFrame : Bool) :
    Yields (sink.buildNodes plan label addFrame) r (r.output plan addFrame)
      (r.built plan label addFrame) := by
  have hemit := foldlM_emitStep_withChain r [] plan.steps
  rw [withChain_nil, List.nil_append] at hemit
  have hrefresh : Yields sink.callRefresh { r.withPlan plan (r.frameOf plan addFrame) with
      frames := r.frames ++ ((r.frameOf plan addFrame).map fun _ => label).toList } ()
      (r.built plan label addFrame) := rfl
  exact hemit.bind ((nameNodes_withPlan r plan).bind ((frameIf_withPlan r plan label addFrame).bind
    (hrefresh.bind (yields_pure.mpr ⟨rfl, rfl⟩))))

/-- **A compilation into a recording sink** is determined by the plan of its formula and by how much
was recorded before. It appends nodes, links and a frame, or nothing if the plan is cancelled. -/
theorem compile_eq {catalog : Catalog} {settings : Settings} (hv : settings.isValid = true)
    (r : Recording) :
    sink.compile catalog settings r =
      (.ok (r.output (Plan.ofFormula catalog settings.tempName settings.formula)
          settings.addFrame),
        if (Plan.ofFormula catalog settings.tempName settings.formula).status = .cancelled then r
        else r.built (Plan.ofFormula catalog settings.tempName settings.formula) settings.formula
          settings.addFrame) := by
  refine GraphSink.compile_eq_ok.mpr ⟨hv, ?_⟩
  rw [GraphSink.build_eq]
  have hready : Yields (sink.call .ensureReady) r () r := rfl
  refine Yields.bind hready ?_
  by_cases hc : (Plan.ofFormula catalog settings.tempName settings.formula).status = .cancelled
  · rw [if_pos hc, if_pos hc]
    have hnone : (Plan.ofFormula catalog settings.tempName settings.formula).finalSteps = [] :=
      Plan.steps_of_cancelled hc
    have hsteps : (Plan.ofFormula catalog settings.tempName settings.formula).steps = [] :=
      Plan.steps_eq_nil_of_cancelled hc
    refine yields_pure.mpr ⟨?_, rfl⟩
    simp [output, frameOf, hc, hnone, hsteps, placedIn, placedAll]
  · rw [if_neg hc, if_neg hc]
    exact buildNodes_built r _ _ _

/-- **A compilation into an empty recording sink lays the operators of its plan out in a chain.** -/
theorem compile_chain {catalog : Catalog} {settings : Settings}
    {out : CompileOutput Nat Nat} {r : Recording}
    (h : sink.compile catalog settings empty = (.ok out, r)) :
    out.nodes = placedAll (Plan.ofFormula catalog settings.tempName settings.formula).finalSteps ∧
      ShowsChain out.nodes.length r := by
  rw [compile_eq (GraphSink.compile_eq_ok.mp h).1, Prod.mk.injEq, Except.ok.injEq] at h
  obtain ⟨rfl, rfl⟩ := h
  have hnodes : ∀ steps, empty.placedIn steps = placedAll steps := fun steps => List.map_id _
  have hlinks : ∀ n, empty.linksIn n = chainLinks n := fun n => List.map_id _
  refine ⟨hnodes _, ?_⟩
  rw [output, hnodes, length_placedAll]
  split
  · next hc =>
    have hnone : (Plan.ofFormula catalog settings.tempName settings.formula).finalSteps = [] :=
      Plan.steps_of_cancelled hc
    rw [hnone]
    exact ⟨rfl, rfl⟩
  · rw [Plan.length_finalSteps]
    refine ⟨?_, hlinks _⟩
    apply List.ext_getElem
    · simp [built, empty, length_recorded, chainLayouts]
    · intro i _ _
      simp [built, empty, Plan.recorded, chainLayouts, EmittedNode.record, placed]

end Recording

end FormulaChain
