/-
Traces (`trace.py`).
-/
import AgentAnvil.Sdk.Events

namespace AgentAnvil.Sdk

variable {δ : Type}

structure Trace (δ : Type) where
  taskId : String
  events : List (EventEnvelope δ)

/-- The trace `load_trace` makes of the events it has read. -/
def Trace.of (events : List (EventEnvelope δ)) : Trace δ where
  taskId := (events.head?.map EventEnvelope.taskId).getD ""
  events := events

def Trace.totalSteps (trace : Trace δ) : Int :=
  if trace.events.isEmpty then 0
  else (trace.events.map EventEnvelope.step).max?.getD 0 + 1

end AgentAnvil.Sdk
