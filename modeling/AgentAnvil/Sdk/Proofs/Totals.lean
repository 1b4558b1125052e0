/-
The totals of a run and the events it emits.

The loop keeps running totals; the events carry the same numbers one by
one. Both are read off the transcript: a turn is one `llm_call_end` and one
`agent_step_end`, and a call that raises is neither. Costs are rounded once
for each event and once for the sum, so they may drift apart by half a unit
of the last digit for each rounding (`totals_reconcile`).
-/
import AgentAnvil.Sdk.Transcript

namespace AgentAnvil.Sdk

-- ==================================================== statement vocabulary

/-- The totals of an `agent_done` event. -/
structure Totals where
  steps : Int
  cost : Rat
  inputTokens : Int
  outputTokens : Int

def EventData.totals : EventData → Option Totals
  | .agentDone _ totalSteps totalCostUsd totalInputTokens totalOutputTokens _ =>
      some { steps := totalSteps, cost := totalCostUsd,
             inputTokens := totalInputTokens,
             outputTokens := totalOutputTokens }
  | _ => none

/-- What an `llm_call_end` event reports. -/
structure Spent where
  inputTokens : Int
  outputTokens : Int
  cost : Rat

def EventData.spent : EventData → Option Spent
  | .llmCallEnd _ _ inputTokens outputTokens _ costUsd _ =>
      some { inputTokens, outputTokens, cost := costUsd }
  | _ => none

/-- The step an `agent_step_end` event ends. -/
def EventData.endedStep : EventData → Option Int
  | .agentStepEnd step => some step
  | _ => none

/-- What is read off the events of a run. -/
def readOff {β : Type} (f : EventData → Option β) (events : List Event) :
    List β :=
  events.filterMap fun e => f e.data

/-- The totals are those of the `llm_call_end` and `agent_step_end` events,
the cost up to half a unit for each rounding. -/
structure Totals.Reconcile (totals : Totals) (events : List Event) :
    Prop where
  inputTokens : totals.inputTokens
    = ((readOff EventData.spent events).map Spent.inputTokens).sum
  outputTokens : totals.outputTokens
    = ((readOff EventData.spent events).map Spent.outputTokens).sum
  steps : totals.steps = (readOff EventData.endedStep events).length
  cost : |totals.cost - ((readOff EventData.spent events).map Spent.cost).sum|
    ≤ ((readOff EventData.spent events).length + 1) * (5 / 10000000)

-- ================================================================ rounding

/-- Rounding to an integer moves a number by a half at most. -/
theorem roundHalfEven_error (x : Rat) :
    |(roundHalfEven x : Rat) - x| ≤ 1 / 2 := by
  have hle : ((x.floor : Int) : Rat) ≤ x := Int.floor_le x
  have hlt : x < (x.floor : Int) + 1 := Int.lt_floor_add_one x
  rw [abs_le]
  simp only [roundHalfEven]
  split_ifs with hbelow habove heven
  · constructor <;> linarith
  · push_cast
    constructor <;> linarith
  · constructor <;> linarith
  · push_cast
    constructor <;> linarith

/-- Half a unit of the sixth decimal. -/
def halfUnit : Rat := 5 / 10000000

/-- Rounding to the sixth decimal moves a cost by half a unit at most. -/
theorem roundTo_error (x : Rat) : |roundTo 6 x - x| ≤ halfUnit := by
  have herror := roundHalfEven_error (x * 10 ^ 6)
  rw [abs_le] at herror ⊢
  unfold roundTo halfUnit
  constructor
  · rw [le_sub_iff_add_le, le_div_iff₀ (by norm_num)]
    linarith [herror.1]
  · rw [sub_le_iff_le_add, div_le_iff₀ (by norm_num)]
    linarith [herror.2]

/-- Rounding every summand moves a sum by that much for each of them. -/
theorem sum_roundTo_error (costs : List Rat) :
    |costs.sum - (costs.map (roundTo 6)).sum| ≤ costs.length * halfUnit := by
  induction costs with
  | nil => simp
  | cons cost costs ih =>
      have hcost := roundTo_error cost
      rw [abs_le] at ih hcost ⊢
      rw [List.map_cons, List.sum_cons, List.sum_cons, List.length_cons,
        Nat.cast_add, Nat.cast_one, add_mul, one_mul]
      constructor
      · linarith [ih.1, hcost.2]
      · linarith [ih.2, hcost.1]

-- =========================================================== the same events

section

variable {ω : Type} (inv : Invocation ω)

theorem totals_withoutLatency (data : EventData) :
    data.withoutLatency.totals = data.totals := by
  cases data <;> rfl

theorem spent_withoutLatency (data : EventData) :
    data.withoutLatency.spent = data.spent := by
  cases data <;> rfl

theorem endedStep_withoutLatency (data : EventData) :
    data.withoutLatency.endedStep = data.endedStep := by
  cases data <;> rfl

/-- The events of a tool call. -/
def EventData.ofTool : EventData → Bool
  | .toolCallStart .. => true
  | .fileMutation .. => true
  | .toolCallEnd .. => true
  | _ => false

theorem totals_ofTool (data : EventData) (h : data.ofTool = true) :
    data.totals = none := by
  cases data <;> first | rfl | cases h

theorem spent_ofTool (data : EventData) (h : data.ofTool = true) :
    data.spent = none := by
  cases data <;> first | rfl | cases h

theorem endedStep_ofTool (data : EventData) (h : data.ofTool = true) :
    data.endedStep = none := by
  cases data <;> first | rfl | cases h

theorem toolCall_datas_ofTool (call : ToolCall) :
    ∀ data ∈ call.script.flatMap Act.datas, data.ofTool = true := by
  cases call with
  | unavailable use =>
      intro data hdata
      simp only [ToolCall.script, List.flatMap_cons, List.flatMap_nil,
        Act.datas, List.nil_append, List.append_nil, List.cons_append,
        List.mem_cons, List.not_mem_nil, or_false] at hdata
      rcases hdata with rfl | rfl <;> rfl
  | executed use mutations result =>
      intro data hdata
      simp only [ToolCall.script, List.flatMap_cons, List.flatMap_nil,
        Act.datas, List.append_nil, List.cons_append, List.nil_append,
        List.mem_cons, List.mem_append, List.mem_map, List.not_mem_nil,
        or_false] at hdata
      rcases hdata with rfl | ⟨data, ⟨m, -, rfl⟩, rfl⟩ | rfl <;> rfl

/-- What is not read off the events of tool calls is not read off the tool
calls of a turn. -/
theorem toolCalls_datas_none {β : Type} {f : EventData → Option β}
    (hf : ∀ data, data.ofTool = true → f data = none)
    (calls : List ToolCall) :
    ((calls.flatMap ToolCall.script).flatMap Act.datas).filterMap f = [] := by
  rw [List.filterMap_eq_nil_iff]
  intro data hdata
  rw [List.flatMap_assoc, List.mem_flatMap] at hdata
  obtain ⟨call, -, hdata⟩ := hdata
  exact hf data (toolCall_datas_ofTool call data hdata)

/-- What is read off a turn's events, if not off those of its tool calls. -/
theorem turn_datas {β : Type} {f : EventData → Option β}
    (hf : ∀ data, data.ofTool = true → f data = none) (k : Nat) (t : Turn) :
    ((t.script inv k).flatMap Act.datas).filterMap f
      = [EventData.agentStepStart k, llmCallStart inv t.messages,
          (llmCallEnd inv t).data 0, EventData.agentStepEnd k].filterMap
            f := by
  rw [Turn.script, List.flatMap_append, List.flatMap_append,
    List.filterMap_append, List.filterMap_append, toolCalls_datas_none hf,
    List.append_nil, ← List.filterMap_append]
  rfl

/-- What a turn spent, as its event reports it. -/
def Turn.spent (t : Turn) : Spent where
  inputTokens := t.response.inputTokens
  outputTokens := t.response.outputTokens
  cost := roundTo 6 (t.cost inv)

/-- What is read off the turns, if it is read off each. -/
theorem turns_datas {β : Type} {f : EventData → Option β}
    (hf : ∀ data, data.ofTool = true → f data = none)
    {g : Nat → Turn → Option β}
    (hg : ∀ (k : Nat) t, [EventData.agentStepStart k, llmCallStart inv t.messages,
      (llmCallEnd inv t).data 0, EventData.agentStepEnd k].filterMap f
        = (g k t).toList) (turns : List Turn) (k : Nat) :
    ((turnsScript inv k turns).flatMap Act.datas).filterMap f
      = (turns.zipIdx k).filterMap fun tk => g tk.2 tk.1 := by
  induction turns generalizing k with
  | nil => rfl
  | cons t turns ih =>
      rw [turnsScript, List.flatMap_append, List.filterMap_append,
        turn_datas inv hf, hg, ih, List.zipIdx_cons, List.filterMap_cons]
      cases g k t <;> rfl

variable {world : ω} {clock : Clock}

/-- What is read off the events of a run, if it is read off the turns. -/
theorem readOff_turns {β : Type} {f : EventData → Option β}
    {g : Nat → Turn → Option β}
    (hlasts : clock.Lasts (lineCount ((transcriptOf inv world).script inv)))
    (hlatency : ∀ data, f data.withoutLatency = f data)
    (hf : ∀ data, data.ofTool = true → f data = none)
    (hg : ∀ (k : Nat) t, [EventData.agentStepStart k, llmCallStart inv t.messages,
      (llmCallEnd inv t).data 0, EventData.agentStepEnd k].filterMap f
        = (g k t).toList)
    (hstart : f (Transcript.startData inv).withoutLatency = none)
    (hending : ∀ (ending : Ending) (k : Nat),
      ((ending.script inv k).flatMap Act.datas).filterMap f = [])
    (hdone : ∀ tr : Transcript ω,
      f (tr.doneData inv).withoutLatency = none) :
    readOff f (eventsOf inv world clock)
      = ((transcriptOf inv world).turns.zipIdx 0).filterMap fun tk =>
          g tk.2 tk.1 := by
  unfold readOff
  rw [filterMap_eventsOf inv hlatency hlasts,
    Transcript.filterMap_datas inv _ hstart (hdone _), hending,
    List.append_nil, turns_datas inv hf hg]

/-- The `llm_call_end` events say what the turns spent, one by one. -/
theorem readOff_spent
    (hlasts : clock.Lasts (lineCount ((transcriptOf inv world).script inv))) :
    readOff EventData.spent (eventsOf inv world clock)
      = (transcriptOf inv world).turns.map (Turn.spent inv) := by
  have hending : ∀ (ending : Ending) (k : Nat),
      ((ending.script inv k).flatMap Act.datas).filterMap EventData.spent
        = [] := by
    intro ending k
    cases ending <;> rfl
  rw [readOff_turns inv (g := fun _ t => some (t.spent inv)) hlasts
    spent_withoutLatency spent_ofTool (fun _ _ => rfl) rfl hending
    (fun _ => rfl)]
  rw [List.filterMap_eq_map']
  show ((transcriptOf inv world).turns.zipIdx 0).map
    (Turn.spent inv ∘ Prod.fst) = _
  rw [← List.map_map, List.zipIdx_map_fst]

/-- There is an `agent_step_end` event for each turn. -/
theorem readOff_endedStep
    (hlasts : clock.Lasts (lineCount ((transcriptOf inv world).script inv))) :
    (readOff EventData.endedStep
      (eventsOf inv world clock)).length
      = (transcriptOf inv world).turns.length := by
  have hending : ∀ (ending : Ending) (k : Nat),
      ((ending.script inv k).flatMap Act.datas).filterMap
        EventData.endedStep = [] := by
    intro ending k
    cases ending <;> rfl
  rw [readOff_turns inv (g := fun k _ => some (k : Int)) hlasts
    endedStep_withoutLatency endedStep_ofTool (fun _ _ => rfl) rfl hending
    (fun _ => rfl), List.filterMap_eq_map', List.length_map,
    List.length_zipIdx]

/-- The totals the run ends with. -/
def Transcript.totals (tr : Transcript ω) : Totals where
  steps := tr.turns.length
  cost := roundTo 6 (tr.cost inv)
  inputTokens := tr.inputTokens
  outputTokens := tr.outputTokens

/-- The one `agent_done` event holds the totals of the transcript. -/
theorem readOff_totals
    (hlasts : clock.Lasts (lineCount ((transcriptOf inv world).script inv))) :
    readOff EventData.totals (eventsOf inv world clock)
      = [(transcriptOf inv world).totals inv] := by
  have hending : ∀ (ending : Ending) (k : Nat),
      ((ending.script inv k).flatMap Act.datas).filterMap EventData.totals
        = [] := by
    intro ending k
    cases ending <;> rfl
  unfold readOff
  rw [filterMap_eventsOf inv totals_withoutLatency hlasts, Transcript.script,
    Transcript.body]
  have hturns := turns_datas inv totals_ofTool (g := fun _ _ => none)
    (fun _ _ => rfl)
  simp only [List.flatMap_append, List.filterMap_append, hturns,
    hending, List.append_nil, List.filterMap_none]
  rfl

/-- A run has one `agent_done` event, and its totals reconcile with the
events of the run. -/
theorem totals_reconcile (world : ω) {clock : Clock}
    (hlasts : clock.Lasts (lineCount ((transcriptOf inv world).script inv))) :
    ∃ totals,
      readOff EventData.totals
        (eventsOf inv world clock) = [totals] ∧
      totals.Reconcile (eventsOf inv world clock) := by
  have hspent : readOff EventData.spent
      (eventsOf inv world clock)
      = (transcriptOf inv world).turns.map (Turn.spent inv) :=
    readOff_spent inv hlasts
  refine ⟨_, readOff_totals inv hlasts, ?_, ?_, ?_, ?_⟩
  · rw [hspent, List.map_map]
    rfl
  · rw [hspent, List.map_map]
    rfl
  · exact congrArg Int.ofNat (readOff_endedStep inv hlasts).symm
  · have hsum := roundTo_error ((transcriptOf inv world).cost inv)
    have heach := sum_roundTo_error
      ((transcriptOf inv world).turns.map (Turn.cost inv))
    have hcosts : ((transcriptOf inv world).turns.map (Turn.spent inv)).map
          Spent.cost
        = ((transcriptOf inv world).turns.map (Turn.cost inv)).map
            (roundTo 6) := by
      rw [List.map_map, List.map_map]
      rfl
    rw [List.length_map] at heach
    rw [hspent, hcosts, List.length_map]
    rw [abs_le] at hsum heach ⊢
    simp only [Transcript.totals, Transcript.cost, halfUnit] at *
    constructor
    · linarith [hsum.1, heach.1]
    · linarith [hsum.2, heach.2]

/-- A run of two steps. -/
theorem totals_reconcile_demo : ∃ totals,
    readOff EventData.totals
        (eventsOf (scriptedTask "scripted" [callsBash, saysDone]) 0 everyMs)
        = [totals]
      ∧ totals.Reconcile
        (eventsOf (scriptedTask "scripted" [callsBash, saysDone]) 0
          everyMs) :=
  totals_reconcile (scriptedTask "scripted" [callsBash, saysDone]) 0
    (show everyMs.Lasts _ from Clock.lasts_system ..)

end

end AgentAnvil.Sdk
