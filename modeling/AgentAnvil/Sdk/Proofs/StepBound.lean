/-
How far a run goes, and what it comes to.

Everything is read off the calls of the client: how many there are, which
of them is the last, and which tools each of them leads to. The induction
is the transcript's, on the steps that are left (`transcript_stepBound`,
`transcript_callsLead`).
-/
import AgentAnvil.Sdk.Transcript

namespace AgentAnvil.Sdk

-- ==================================================== statement vocabulary

namespace LLMCall

/-- The call was answered with tools to call. -/
def CallsTools (call : LLMCall) : Prop :=
  ∃ resp, call.outcome = .ok resp ∧ resp.callsTools

/-- The client raised an exception. -/
def Raised (call : LLMCall) : Prop := ∃ exc, call.outcome = .error exc

/-- The call was answered with a stop reason that fails a run. -/
def Fails (call : LLMCall) : Prop :=
  ∃ resp, call.outcome = .ok resp ∧
    (resp.stopReason = "max_tokens" ∨ resp.stopReason = "error")

/-- The tools a call leads to: those of the response, if its stop reason is
`tool_use`. -/
def toolsRun (call : LLMCall) : List ToolUse :=
  match call.outcome with
  | .error _ => []
  | .ok resp => if resp.stopReason = "tool_use" then resp.toolUses else []

end LLMCall

/-- The calls were all answered with tools to call, up to the bound. -/
def UsesUp (bound : Nat) (calls : List LLMCall) : Prop :=
  calls.length = bound ∧ ∀ call ∈ calls, call.CallsTools

/-- A call raised, or the last one was answered with a failure. -/
def EndsBadly (calls : List LLMCall) : Prop :=
  (∃ call ∈ calls, call.Raised) ∨ ∃ call ∈ calls.getLast?, call.Fails

/-- What the calls of a run say of its length and of its outcome. -/
structure StepBound (bound : Nat) (calls : List LLMCall) (outcome : String) :
    Prop where
  length : calls.length ≤ bound
  /-- only an answer with tools to call has a call after it -/
  goesOn : ∀ before call after, calls = before ++ call :: after →
    after ≠ [] → call.CallsTools
  maxSteps : outcome = "max_steps" ↔ UsesUp bound calls
  failed : outcome = "failed" ↔ EndsBadly calls
  completed : outcome = "completed" ↔
    ¬ UsesUp bound calls ∧ ¬ EndsBadly calls

variable {ω : Type}

/-- The world after tools were carried out in order; one that is not there
does nothing. -/
def executed (tools : List (Tool ω)) : List ToolUse → ω → ω
  | [], world => world
  | tu :: tus, world =>
      executed tools tus
        (match toolMap tools tu.name with
        | none => world
        | some tool =>
            (tool.cls._run tool.timeoutSeconds tu.input world).world)

/-- The calls are those the client was asked from the one world to the
other, and after each of them its tools were carried out, and nothing
else. -/
inductive CallsLead (inv : Invocation ω) : List LLMCall → ω → ω → Prop where
  | nil (world : ω) : CallsLead inv [] world world
  | cons {call : LLMCall} {calls : List LLMCall} {world answered world' : ω}
      (hanswer : inv.client.complete call.request world
        = (call.outcome, answered))
      (hrest : CallsLead inv calls
        (executed inv.tools call.toolsRun answered) world') :
      CallsLead inv (call :: calls) world world'

/-- The tool call an event starts. -/
def EventData.started : EventData → Option (String × Json × String)
  | .toolCallStart toolName args toolCallId =>
      some (toolName, args, toolCallId)
  | _ => none

def ToolUse.started (tu : ToolUse) : String × Json × String :=
  (tu.name, .obj tu.input, tu.id)

/-- The outcome an `agent_done` tells. -/
def EventData.outcome : EventData → Option String
  | .agentDone outcome _ _ _ _ _ => some outcome
  | _ => none

-- =============================================================== the calls

section

variable {bound : Nat} {call : LLMCall} {calls : List LLMCall}
  {outcome : String}

/-- A call that asks for tools was answered. -/
theorem LLMCall.CallsTools.not_raised (h : call.CallsTools) :
    ¬ call.Raised := by
  obtain ⟨resp, hresp, -⟩ := h
  rintro ⟨exc, hexc⟩
  rw [hresp] at hexc
  cases hexc

/-- It stopped for the tools, and not for a failure. -/
theorem LLMCall.CallsTools.not_fails (h : call.CallsTools) :
    ¬ call.Fails := by
  obtain ⟨resp, hresp, htools, -⟩ := h
  rintro ⟨resp', hresp', hfails⟩
  rw [hresp] at hresp'
  cases hresp'
  rw [htools] at hfails
  exact absurd hfails (by decide)

theorem LLMCall.toolsRun_calls {resp : LLMResponse}
    (h : call.outcome = .ok resp) (htools : resp.callsTools) :
    call.toolsRun = resp.toolUses := by
  unfold toolsRun
  rw [h]
  exact if_pos htools.1

/-- A response that calls no tools has none, or another stop reason. -/
theorem LLMCall.toolsRun_stops {resp : LLMResponse}
    (h : call.outcome = .ok resp) (hstops : ¬ resp.callsTools) :
    call.toolsRun = [] := by
  unfold toolsRun
  rw [h]
  by_cases hreason : resp.stopReason = "tool_use"
  · refine (if_pos hreason).trans ?_
    cases huses : resp.toolUses with
    | nil => rfl
    | cons tu tus =>
        refine absurd ⟨hreason, ?_⟩ hstops
        rw [huses, List.isEmpty_cons]
  · exact if_neg hreason

/-- An answered call ends the run badly just for these two reasons. -/
theorem LLMCall.endsBadly_answered {resp : LLMResponse}
    (h : call.outcome = .ok resp) :
    (call.Raised ∨ call.Fails ↔
      resp.stopReason = "max_tokens" ∨ resp.stopReason = "error") := by
  constructor
  · rintro (⟨exc, hexc⟩ | ⟨resp', hresp', hfails⟩)
    · rw [h] at hexc
      cases hexc
    · rw [h] at hresp'
      cases hresp'
      exact hfails
  · exact fun hfails => Or.inr ⟨resp, h, hfails⟩

theorem endsBadly_singleton :
    EndsBadly [call] ↔ call.Raised ∨ call.Fails := by
  simp only [EndsBadly, List.mem_singleton, exists_eq_left,
    List.getLast?_singleton, Option.mem_def, Option.some_inj,
    exists_eq_left']

/-- A call that leads on does not change how a run ends. -/
theorem endsBadly_cons (h : call.CallsTools) :
    EndsBadly (call :: calls) ↔ EndsBadly calls := by
  unfold EndsBadly
  rw [List.exists_mem_cons_iff, or_iff_right h.not_raised]
  cases calls with
  | nil =>
      refine or_congr_right ?_
      simp only [List.getLast?_singleton, Option.mem_def, Option.some_inj,
        exists_eq_left', h.not_fails, List.getLast?_nil, reduceCtorEq,
        false_and, exists_false]
  | cons next calls =>
      rw [List.getLast?_cons_cons]

/-- A call that asks for tools uses one step up. -/
theorem usesUp_cons (h : call.CallsTools) :
    UsesUp (bound + 1) (call :: calls) ↔ UsesUp bound calls := by
  unfold UsesUp
  rw [List.forall_mem_cons, and_iff_right h, List.length_cons,
    Nat.add_right_cancel_iff]

namespace StepBound

/-- No calls, when there are none to make. -/
theorem nil : StepBound 0 [] "max_steps" where
  length := Nat.le_refl 0
  goesOn := by
    intro before call after h
    cases before <;> cases h
  maxSteps := iff_of_true rfl ⟨rfl, fun call hcall => nomatch hcall⟩
  failed := by
    refine iff_of_false (by decide) ?_
    rintro (⟨call, hcall, -⟩ | ⟨call, hcall, -⟩)
    · cases hcall
    · cases hcall
  completed := by
    refine iff_of_false (by decide) ?_
    rintro ⟨huses, -⟩
    exact huses ⟨rfl, fun call hcall => nomatch hcall⟩

/-- One call that ends the run, well or badly. -/
theorem last (hends : ¬ call.CallsTools)
    (houtcome : (call.Raised ∨ call.Fails) ∧ outcome = "failed" ∨
      ¬ (call.Raised ∨ call.Fails) ∧ outcome = "completed") :
    StepBound (bound + 1) [call] outcome := by
  have huses : ¬ UsesUp (bound + 1) [call] := fun h =>
    hends (h.2 call (List.mem_singleton_self call))
  refine ⟨Nat.succ_le_succ (Nat.zero_le bound), ?_, ?_, ?_, ?_⟩
  · intro before call' after h hafter
    cases before with
    | nil =>
        injection h with _ h
        exact absurd h.symm hafter
    | cons first before =>
        injection h with _ h
        exact absurd (List.append_eq_nil_iff.mp h.symm).2
          (List.cons_ne_nil _ _)
  · refine iff_of_false ?_ huses
    rcases houtcome with ⟨-, rfl⟩ | ⟨-, rfl⟩
    · decide
    · decide
  · rw [endsBadly_singleton]
    rcases houtcome with ⟨hbad, rfl⟩ | ⟨hgood, rfl⟩
    · exact iff_of_true rfl hbad
    · exact iff_of_false (by decide) hgood
  · rw [endsBadly_singleton, and_iff_right huses]
    rcases houtcome with ⟨hbad, rfl⟩ | ⟨hgood, rfl⟩
    · exact iff_of_false (by decide) (not_not_intro hbad)
    · exact iff_of_true rfl hgood

/-- A call with tools to call, and then the others. -/
theorem cons (h : StepBound bound calls outcome) (hcall : call.CallsTools) :
    StepBound (bound + 1) (call :: calls) outcome := by
  refine ⟨Nat.succ_le_succ h.length, ?_, ?_, ?_, ?_⟩
  · intro before call' after hcalls hafter
    cases before with
    | nil =>
        injection hcalls with hsame _
        rw [← hsame]
        exact hcall
    | cons first before =>
        injection hcalls with _ hcalls
        exact h.goesOn before call' after hcalls hafter
  · rw [usesUp_cons hcall]
    exact h.maxSteps
  · rw [endsBadly_cons hcall]
    exact h.failed
  · rw [usesUp_cons hcall, endsBadly_cons hcall]
    exact h.completed

end StepBound

/-- What a stop reason makes of a run that calls no more tools. -/
theorem outcomeOf_cases (stopReason : String) :
    (stopReason = "max_tokens" ∨ stopReason = "error") ∧
        outcomeOf stopReason = "failed" ∨
      ¬ (stopReason = "max_tokens" ∨ stopReason = "error") ∧
        outcomeOf stopReason = "completed" := by
  unfold outcomeOf
  split
  · next hturn =>
      rw [hturn]
      exact Or.inr ⟨by decide, rfl⟩
  · split
    · next hmax => exact Or.inl ⟨Or.inl hmax, rfl⟩
    · next hmax =>
        split
        · next herror => exact Or.inl ⟨Or.inr herror, rfl⟩
        · next herror =>
            exact Or.inr ⟨fun h => h.elim hmax herror, rfl⟩

end

-- ========================================================== the transcript

variable (inv : Invocation ω)

/-- The world after the tool calls is what running the tools in order makes of
it. -/
theorem toolCalls_world (tools : List (Tool ω)) (tus : List ToolUse)
    (world : ω) :
    (toolCalls tools tus world).2 = executed tools tus world := by
  induction tus generalizing world with
  | nil => rfl
  | cons tu tus ih =>
      rw [toolCalls, executed, ih, toolCall]
      cases toolMap tools tu.name with
      | none => rfl
      | some tool => rfl

/-- By induction on the steps left: no more calls than those, and the outcome
is what the last call says. -/
theorem transcript_stepBound (remaining k : Nat) (messages : List Message)
    (world : ω) :
    StepBound remaining ((transcript inv remaining messages world).calls inv k)
      (transcript inv remaining messages world).ending.outcome := by
  induction remaining generalizing k messages world with
  | zero => exact .nil
  | succ remaining ih =>
      rw [transcript]
      rcases hanswer : inv.client.complete (inv.request messages) world with
        ⟨answer, answered⟩
      cases answer with
      | error exc =>
          refine .last ?_ (Or.inl ⟨Or.inl ⟨exc, rfl⟩, rfl⟩)
          rintro ⟨resp, hresp, -⟩
          cases hresp
      | ok resp =>
          by_cases htools : resp.callsTools
          · simp only [htools, if_true]
            rw [Transcript.calls_cons]
            exact (ih (k + 1) _ _).cons ⟨resp, rfl, htools⟩
          · simp only [htools, if_false]
            refine .last ?_ ?_
            · rintro ⟨resp', hresp', hcalls⟩
              cases hresp'
              exact htools hcalls
            · rw [LLMCall.endsBadly_answered rfl]
              exact outcomeOf_cases resp.stopReason

/-- The world at the end is the one the calls and their tools lead to. -/
theorem transcript_callsLead (remaining k : Nat) (messages : List Message)
    (world : ω) :
    CallsLead inv ((transcript inv remaining messages world).calls inv k)
      world (transcript inv remaining messages world).world := by
  induction remaining generalizing k messages world with
  | zero => exact .nil world
  | succ remaining ih =>
      rw [transcript]
      rcases hanswer : inv.client.complete (inv.request messages) world with
        ⟨answer, answered⟩
      cases answer with
      | error exc => exact .cons hanswer (.nil answered)
      | ok resp =>
          by_cases htools : resp.callsTools
          · simp only [htools, if_true]
            rw [Transcript.calls_cons]
            refine .cons hanswer ?_
            rw [LLMCall.toolsRun_calls rfl htools, ← toolCalls_world]
            exact ih (k + 1) _ _
          · simp only [htools, if_false]
            refine .cons hanswer ?_
            rw [LLMCall.toolsRun_stops rfl htools]
            exact .nil answered

-- ============================================================= the events

/-- A tool call starts with one event, of its own use. -/
theorem toolCall_started (call : ToolCall) :
    (call.script.flatMap Act.datas).filterMap EventData.started
      = [call.use.started] := by
  cases call with
  | unavailable use => rfl
  | executed use mutations result =>
      have hmutations : ((mutations.map FileMutation.data).map
          EventData.withoutLatency).filterMap EventData.started = [] := by
        rw [List.filterMap_map, List.filterMap_map,
          List.filterMap_eq_nil_iff]
        intro m _
        rfl
      show use.started :: (((mutations.map FileMutation.data).map
        EventData.withoutLatency ++ [(toolCallEnd use result).data 0])
          ++ []).filterMap EventData.started = _
      rw [List.append_nil, List.filterMap_append, hmutations]
      rfl

theorem toolCalls_started (calls : List ToolCall) :
    ((calls.flatMap ToolCall.script).flatMap Act.datas).filterMap
        EventData.started
      = (calls.map ToolCall.use).map ToolUse.started := by
  induction calls with
  | nil => rfl
  | cons call calls ih =>
      rw [List.flatMap_cons, List.flatMap_append, List.filterMap_append,
        toolCall_started, ih]
      rfl

/-- The tool calls a turn starts are its own. -/
theorem turn_started (t : Turn) (k : Nat) :
    ((t.script inv k).flatMap Act.datas).filterMap EventData.started
      = (t.toolCalls.map ToolCall.use).map ToolUse.started := by
  unfold Turn.script
  rw [List.flatMap_append, List.flatMap_append, List.filterMap_append,
    List.filterMap_append, toolCalls_started]
  exact List.append_nil _

/-- The tools started in a run are those its calls asked for, where the calls
asked for tools. -/
theorem transcript_started (remaining k : Nat) (messages : List Message)
    (world : ω) :
    (((transcript inv remaining messages world).body inv k).flatMap
        Act.datas).filterMap EventData.started
      = ((transcript inv remaining messages world).calls inv k).flatMap
          fun call => call.toolsRun.map ToolUse.started := by
  induction remaining generalizing k messages world with
  | zero => rfl
  | succ remaining ih =>
      rw [transcript]
      rcases hanswer : inv.client.complete (inv.request messages) world with
        ⟨answer, answered⟩
      cases answer with
      | error exc => rfl
      | ok resp =>
          by_cases htools : resp.callsTools
          · simp only [htools, if_true]
            rw [Transcript.body_cons, Transcript.calls_cons,
              List.flatMap_append, List.filterMap_append, turn_started, ih,
              List.flatMap_cons, LLMCall.toolsRun_calls rfl htools]
            congr 1
            exact congrArg _ (toolCalls_use inv.tools resp.toolUses _)
          · simp only [htools, if_false]
            show _ = (LLMCall.toolsRun ⟨k, _, _, _, .ok resp⟩).map
              ToolUse.started ++ []
            rw [LLMCall.toolsRun_stops rfl htools]
            rfl

-- ================================================================ the run

/-- A run whose writer accepts every event returns. It calls the client at
most `max_steps` times, and its calls determine its outcome, the tools that
were started and the world it leaves. -/
theorem run_stepBound {world : ω} {clock : Clock}
    (hlasts : clock.Lasts
      (lineCount ((transcriptOf inv world).script inv))) :
    ∃ done outcome, (execute inv world clock).1 = .ok done ∧
      done.outcome = some outcome ∧
      StepBound (max 0 inv.maxSteps).toNat (callsOf inv world clock) outcome ∧
      CallsLead inv (callsOf inv world clock) world
        (execute inv world clock).2.runtime.world ∧
      (eventsOf inv world clock).filterMap (fun e => e.data.started)
        = (callsOf inv world clock).flatMap fun call =>
            call.toolsRun.map ToolUse.started := by
  have hbound : (max 0 inv.maxSteps).toNat = inv.maxSteps.toNat := by
    omega
  have hworld : (execute inv world clock).2.runtime.world
      = (transcriptOf inv world).world := by
    rw [execute_eq inv rfl hlasts]
    rfl
  have hstarted : ∀ data : EventData,
      data.withoutLatency.started = data.started := by
    intro data
    cases data <;> rfl
  refine ⟨_, _, execute_returns inv hlasts, rfl, ?_, ?_, ?_⟩
  · rw [hbound, callsOf_eq inv hlasts]
    exact transcript_stepBound inv _ 0 _ world
  · rw [callsOf_eq inv hlasts, hworld]
    exact transcript_callsLead inv _ 0 _ world
  · rw [callsOf_eq inv hlasts, filterMap_eventsOf inv hstarted hlasts,
      Transcript.script, List.flatMap_append, List.flatMap_append,
      List.filterMap_append, List.filterMap_append]
    refine Eq.trans ?_ (transcript_started inv _ 0 _ world)
    exact List.append_nil _

-- ================================================================ examples

/-- A task without a step bound, whose first response calls a tool. -/
def twoStepTask : Invocation Nat :=
  scriptedTask "gpt-4o" [callsBash, saysDone]

/-- A run of two steps. -/
theorem run_stepBound_twoSteps :
    ∃ done outcome, (execute twoStepTask 0 everyMs).1 = .ok done ∧
      done.outcome = some outcome ∧
      StepBound 25 (callsOf twoStepTask 0 everyMs) outcome ∧
      CallsLead twoStepTask (callsOf twoStepTask 0 everyMs) 0
        (execute twoStepTask 0 everyMs).2.runtime.world ∧
      (eventsOf twoStepTask 0 everyMs).filterMap (fun e => e.data.started)
        = (callsOf twoStepTask 0 everyMs).flatMap fun call =>
            call.toolsRun.map ToolUse.started :=
  run_stepBound twoStepTask (Clock.lasts_system _ _ _ _)

end AgentAnvil.Sdk
