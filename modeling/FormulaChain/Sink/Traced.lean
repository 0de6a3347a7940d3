import FormulaChain.Sink.Basic

/-!
# Traced sinks

Any sink can be made to write down the calls it gets. A traced sink can also be made to fail at one
call, by its number: that call is written down and refused without any effect, except a refresh,
which cannot fail.
-/

namespace FormulaChain

/-- A call to a sink. -/
inductive SinkCall (N F : Type) where
  /-- A request. -/
  | request (request : Request N F)
  /-- A refresh. -/
  | refresh
  deriving DecidableEq

/-- The state of a sink together with the calls it got, in order. -/
structure Traced (σ N F : Type) where
  /-- The state of the sink. -/
  state : σ
  /-- The calls so far. -/
  calls : List (SinkCall N F)

namespace Traced

variable {σ N F E : Type}

/-- A state before any call. -/
def start (state : σ) : Traced σ N F := ⟨state, []⟩

/-- Writes a call down. -/
def note (call : SinkCall N F) (t : Traced σ N F) : Traced σ N F :=
  { t with calls := t.calls ++ [call] }

/-- The sink that writes down its calls and refuses the one with a number, if any, for a reason. -/
def sink (inner : GraphSink σ N F E) (failAt : Option Nat) (reason : SinkError N F E) :
    GraphSink (Traced σ N F) N F E where
  perform request t :=
    if failAt = some t.calls.length then (.error reason, t.note (.request request))
    else
      let (answer, state) := inner.perform request t.state
      (answer, { t.note (.request request) with state := state })
  refresh t := { t.note .refresh with state := inner.refresh t.state }

end Traced

end FormulaChain
