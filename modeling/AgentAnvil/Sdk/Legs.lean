/-
What the loop does to its event writer, whatever becomes of the events.

A script says what a run does as long as its writer lasts. Without that,
any event may be the one whose emission raises: the clock is spent, the
file refuses the line, or something raises after it. What a run does then
is a leg at a time. A leg (`Leg`) is the way from one writer to a later
one: the lines in between, and the events in between that were lost
(`Lost`), because the file refused them or was interrupted. Legs join, so
those of a function are put together from those of what it calls.

There is one lemma for each function of the loop, from one emission up to
one pass of the while loop. Each says the same three things:

- which lines there are. All that the results below read off them is which
  calls they close (`toolEnds`), and that a run is not done (`undone`).
- what the function returns, if it returns, and that it then lost nothing
  but `file_mutation` events, which are a tool's own concern.
- why it raises, if it raises (`Breaks`): the clock is spent, an event is
  lost, the client raised, or its response cannot be hashed. A clock that
  is spent stays so, and no event is found again, so whatever comes after
  still knows.

An `agent_done` event is no part of a leg of the loop: `run` emits it
alone.
-/
import AgentAnvil.Sdk.Script

namespace AgentAnvil.Sdk

-- ==================================================== statement vocabulary

/-- Emitting the event raised, and not for want of a timestamp. -/
def EventWriter.Lost (w : Writer) (e : Event) : Prop :=
  e ∈ w.refused ∨ e ∈ w.interrupted

/-- A `file_mutation`. -/
def EventData.IsMutation (data : EventData) : Prop :=
  data.type = .fileMutation

/-- The opening or the closing event of a tool call. -/
def EventData.OfCall (data : EventData) : Prop :=
  data.type = .toolCallStart ∨ data.type = .toolCallEnd

/-- From one writer to a later one: the lines in between, all of the one
step, and the events that were lost. -/
structure Leg (w w' : Writer) (news lost : List Event) : Prop where
  lines : w'.lines = w.lines ++ news
  undone : ∀ e, e ∈ news ∨ e ∈ lost → e.data.type ≠ .agentDone
  lost : ∀ e, w'.Lost e ↔ w.Lost e ∨ e ∈ lost
  step : w'.step = w.step
  sink : w'.sink = w.sink
  tagged : ∀ e ∈ news, e.step = w.step
  /-- a clock that is spent stays so -/
  lasts : w'.clock.Lasts 1 → w.clock.Lasts 1

/-- The call was answered, with a response that can be hashed. -/
def LLMCall.Hashed (unhashable : LLMResponse → Option Exc) (call : LLMCall) :
    Prop :=
  ∃ resp, call.outcome = .ok resp ∧ unhashable resp = none

/-- The closing events of tool calls. -/
def toolEnds (events : List Event) : List EventData :=
  (events.map EventEnvelope.data).filter fun data =>
    decide (data.type = .toolCallEnd)

/-- The `tool_result` blocks of a message. -/
def Message.results (m : Message) : List Block :=
  match m.content with
  | .text _ => []
  | .blocks items => items.filter fun
      | .toolResult .. => true
      | _ => false

variable {ω : Type}

/-- A block the model is shown and the closing event of its call, which
tell of the same result. -/
inductive Answers (tools : List (Tool ω)) : Block → EventData → Prop where
  | unavailable (tu : ToolUse) : Answers tools
      (.toolResult tu.id (notAvailable tu.name) true)
      (.toolCallEnd tu.id (notAvailable tu.name) false 127 0)
  | raised (tu : ToolUse) (exc : Exc) (latencyMs : Int) : Answers tools
      (.toolResult tu.id (raisedText tu.name exc) true)
      (.toolCallEnd tu.id (raisedText tu.name exc) false 1 latencyMs)
  | returned (tu : ToolUse) {tool : Tool ω} {world : ω} {result : ToolResult}
      (mem : tool ∈ tools)
      (ran : (tool.cls._run tool.timeoutSeconds tu.input world).outcome
        = .ok result) (latencyMs : Int) : Answers tools
      (.toolResult tu.id result.clamp.content result.clamp.isError)
      (.toolCallEnd tu.id result.clamp.content result.clamp.truncated
        result.clamp.exitCode latencyMs)

/-- From the variables of a run to later ones of the same step: what was
added to the messages and to the calls, and the leg of the writer. -/
structure Went (s s' : Frame ω) (messages : List Message)
    (calls : List LLMCall) (news lost : List Event) : Prop where
  leg : Leg s.runtime.events s'.runtime.events news lost
  messages : s'.messages = s.messages ++ messages
  calls : s'.calls = s.calls ++ calls
  unhashable : s'.unhashable = s.unhashable
  step : s'.step = s.step

/-- Why a part of the loop raises. -/
def Breaks (s s' : Frame ω) (calls : List LLMCall) (lost : List Event) :
    Prop :=
  ¬ s'.runtime.events.clock.Lasts 1 ∨
    (∃ e ∈ lost, ¬ e.data.IsMutation) ∨
    ∃ call ∈ calls, ¬ call.Hashed s.unhashable

-- ================================================================== legs

namespace Leg

variable {w w' w'' : Writer} {news lost news' lost' : List Event}

theorem refl (w : Writer) : Leg w w [] [] where
  lines := (List.append_nil _).symm
  lost _ := (or_iff_left (List.not_mem_nil)).symm
  step := rfl
  sink := rfl
  tagged _ he := nomatch he
  undone _ he := he.elim (nomatch ·) (nomatch ·)
  lasts := id

/-- Legs join: the events of the second come after those of the first. -/
theorem trans (h : Leg w w' news lost) (h' : Leg w' w'' news' lost') :
    Leg w w'' (news ++ news') (lost ++ lost') where
  lines := by rw [h'.lines, h.lines, List.append_assoc]
  lost e := by rw [h'.lost, h.lost, List.mem_append, or_assoc]
  step := h'.step.trans h.step
  sink := h'.sink.trans h.sink
  tagged e he := by
    rcases List.mem_append.mp he with he | he
    · exact h.tagged e he
    · exact (h'.tagged e he).trans h.step
  undone e he := by
    rw [List.mem_append, List.mem_append] at he
    rcases he with (he | he) | (he | he)
    · exact h.undone e (Or.inl he)
    · exact h'.undone e (Or.inl he)
    · exact h.undone e (Or.inr he)
    · exact h'.undone e (Or.inr he)
  lasts hlasts := h.lasts (h'.lasts hlasts)

theorem takes (h : Leg w w' news lost) (htakes : w.Takes) : w'.Takes := by
  unfold EventWriter.Takes
  rwa [h.sink]

/-- Reading the clock. -/
theorem read (w : Writer) : Leg w w.afterRead [] [] where
  lines := (List.append_nil _).symm
  lost _ := (or_iff_left (List.not_mem_nil)).symm
  step := rfl
  sink := rfl
  tagged _ he := nomatch he
  undone _ he := he.elim (nomatch ·) (nomatch ·)
  lasts h := Clock.Lasts.of_afterRead h

end Leg

@[simp] theorem toolEnds_append (events later : List Event) :
    toolEnds (events ++ later) = toolEnds events ++ toolEnds later := by
  rw [toolEnds, List.map_append, List.filter_append]
  rfl

/-- Events of other types close no call. -/
theorem toolEnds_nil {events : List Event}
    (h : ∀ e ∈ events, e.data.type ≠ .toolCallEnd) : toolEnds events = [] := by
  unfold toolEnds
  rw [List.filter_eq_nil_iff]
  intro data hdata
  obtain ⟨e, he, rfl⟩ := List.mem_map.mp hdata
  simpa using h e he

-- ============================================================ one emission

/-- What an emission comes to, with the line and the loss there is then. -/
inductive Told (w : Writer) (data : EventData) (w' : Writer) :
    Except Exc Unit → List Event → List Event → Prop where
  | written : Told w data w' (.ok ()) [w.next data] []
  | spent {exc} (spent : ¬ w'.clock.Lasts 1) : Told w data w' (.error exc) [] []
  | refused {exc} : Told w data w' (.error exc) [] [w.next data]
  | interrupted {exc} :
      Told w data w' (.error exc) [w.next data] [w.next data]

namespace Told

variable {w w' : Writer} {data : EventData} {r : Except Exc Unit}
  {news lost : List Event}

/-- Only the event itself is written. -/
theorem news_data (h : Told w data w' r news lost) :
    ∀ e ∈ news, e.data = data := by
  intro e he
  cases h with
  | written => rw [List.mem_singleton.mp he]; rfl
  | spent spent => cases he
  | refused => cases he
  | interrupted => rw [List.mem_singleton.mp he]; rfl

/-- An event that was lost is the one that was to be written. -/
theorem lost_data (h : Told w data w' r news lost) :
    ∀ e ∈ lost, e.data = data := by
  intro e he
  cases h with
  | written => cases he
  | spent spent => cases he
  | refused => rw [List.mem_singleton.mp he]; rfl
  | interrupted => rw [List.mem_singleton.mp he]; rfl

/-- What was emitted was not lost. -/
theorem ok {u : Unit} (h : Told w data w' (.ok u) news lost) :
    news = [w.next data] ∧ lost = [] := by
  cases h
  exact ⟨rfl, rfl⟩

/-- Emitting raises because of the clock, or the event is lost. -/
theorem error {exc : Exc} (h : Told w data w' (.error exc) news lost) :
    ¬ w'.clock.Lasts 1 ∨ ∃ e ∈ lost, e.data = data := by
  cases h with
  | spent spent => exact Or.inl spent
  | refused => exact Or.inr ⟨w.next data, List.mem_singleton_self _, rfl⟩
  | interrupted => exact Or.inr ⟨w.next data, List.mem_singleton_self _, rfl⟩

end Told

/-- What was lost stays lost, and a clock that is spent stays so. -/
theorem EventWriter.Emitted.lost_mono {w w' : Writer} {type : EventType}
    {data : EventData} {r : Except Exc Event} (h : w.Emitted type data r w')
    {e : Event} (he : w.Lost e) : w'.Lost e := by
  cases h with
  | written lasts => exact he
  | spent spent => exact he
  | refused lasts => exact he.imp_left (List.mem_append_left _)
  | interrupted lasts => exact he.imp_right (List.mem_append_left _)

theorem EventWriter.Emitted.lasts_one {w w' : Writer} {type : EventType}
    {data : EventData} {r : Except Exc Event} (h : w.Emitted type data r w')
    (hlasts : w'.clock.Lasts 1) : w.clock.Lasts 1 := by
  cases h with
  | written lasts => exact lasts
  | spent spent => exact hlasts
  | refused lasts => exact lasts
  | interrupted lasts => exact lasts

/-- An emission is a leg. -/
theorem EventWriter.Emitted.told {w w' : Writer} {data : EventData}
    {r : Except Exc Event} (h : w.Emitted data.type data r w')
    (hdone : data.type ≠ .agentDone) :
    ∃ news lost, Leg w w' news lost ∧
      Told w data w' (r.map fun _ => ()) news lost := by
  have htag : ∀ e ∈ [w.next data], e.step = w.step ∧
      e.data.type ≠ .agentDone := by
    intro e he
    rw [List.mem_singleton.mp he]
    exact ⟨rfl, hdone⟩
  cases h with
  | written lasts =>
      refine ⟨_, _, ⟨rfl, ?_, ?_, rfl, rfl, fun e he => (htag e he).1,
        Clock.Lasts.of_afterEmit⟩, .written⟩
      · exact fun e he => he.elim (fun he => (htag e he).2) (nomatch ·)
      exact fun e => (or_iff_left List.not_mem_nil).symm
  | spent spent => exact ⟨_, _, .refl w, .spent spent⟩
  | refused lasts =>
      refine ⟨_, _, ⟨(List.append_nil _).symm, ?_, ?_, rfl, rfl,
        fun _ he => (nomatch he), fun _ => lasts⟩, .refused⟩
      · exact fun e he => he.elim (nomatch ·) fun he => (htag e he).2
      intro e
      simp only [Lost, refusing, stamped, List.mem_append]
      tauto
  | interrupted lasts =>
      refine ⟨_, _, ⟨rfl, ?_, ?_, rfl, rfl, fun e he => (htag e he).1,
        fun _ => lasts⟩, .interrupted⟩
      · exact fun e he => (htag e (he.elim id id)).2
      intro e
      simp only [Lost, interrupting, stamped, List.mem_append]
      tauto

section

variable {rt rt' : Runtime ω} {data : EventData} {r : Except Exc Unit}

/-- All that emitting comes to, for a runtime: the world is as it was. -/
theorem Runtime.emit_cases (h : Runtime.emit data rt = (r, rt')) :
    ∃ e w', rt.events.Emitted data.type data e w' ∧
      rt' = { rt with events := w' } ∧ r = e.map fun _ => () := by
  unfold Runtime.emit Runtime.onEvents at h
  rcases Py.bind_cases h with ⟨e, rt₁, hemit, hpure⟩ | ⟨exc, hemit, rfl⟩
  · obtain ⟨w', hwrite, rfl⟩ := Py.zoom_cases hemit
    injection hpure with hr hrt
    rw [← hr, ← hrt]
    exact ⟨_, w', EventWriter.emit_cases hwrite, rfl, rfl⟩
  · obtain ⟨w', hwrite, rfl⟩ := Py.zoom_cases hemit
    exact ⟨_, w', EventWriter.emit_cases hwrite, rfl, rfl⟩

/-- What emitting tells of the trace, whichever way it ends. -/
theorem Runtime.emit_told (h : Runtime.emit data rt = (r, rt'))
    (hdone : data.type ≠ .agentDone) :
    ∃ w' news lost, rt' = { rt with events := w' } ∧
      Leg rt.events w' news lost ∧ Told rt.events data w' r news lost := by
  obtain ⟨e, w', hemitted, rfl, rfl⟩ := Runtime.emit_cases h
  obtain ⟨news, lost, hleg, htold⟩ := hemitted.told hdone
  exact ⟨w', news, lost, rfl, hleg, htold⟩

/-- Reading the clock raises only when it is spent. -/
theorem Runtime.monotonicNs_leg {r : Except Exc Int}
    (h : Runtime.monotonicNs rt = (r, rt')) :
    ∃ w', rt' = { rt with events := w' } ∧ Leg rt.events w' [] [] ∧
      ∀ exc, r = .error exc → ¬ w'.clock.Lasts 1 := by
  by_cases hlasts : rt.events.clock.Lasts 1
  · rw [Runtime.monotonicNs_eq hlasts] at h
    injection h with hr hrt
    rw [← hr, ← hrt]
    exact ⟨_, rfl, .read rt.events, fun _ hexc => nomatch hexc⟩
  · have hspent : Runtime.monotonicNs rt = (.error Clock.indexError, rt) := by
      unfold Runtime.monotonicNs Runtime.onEvents EventWriter.onClock
      exact Py.zoom_eq (Py.zoom_eq (Clock.monotonicNs_of_spent hlasts))
    rw [hspent] at h
    injection h with hr hrt
    rw [← hrt]
    exact ⟨_, rfl, .refl rt.events, fun _ _ => hlasts⟩

-- ============================================================= a tool call

/-- What a tool emits is mutations, whatever becomes of them. -/
theorem emitMutations_leg {ms : List FileMutation}
    (h : emitMutations ms rt = (r, rt')) :
    ∃ w' news lost, rt' = { rt with events := w' } ∧
      Leg rt.events w' news lost ∧ (∀ e ∈ news, e.data.IsMutation) ∧
      ∀ e ∈ lost, e.data.IsMutation := by
  induction ms generalizing rt with
  | nil =>
      injection h with hr hrt
      exact ⟨_, [], [], hrt.symm, .refl _, fun _ he => (nomatch he),
        fun _ he => (nomatch he)⟩
  | cons m ms ih =>
      have hfirst : ∀ {r₁ rt₁}, Runtime.emit m.data rt = (r₁, rt₁) →
          ∃ w₁ news lost, rt₁ = { rt with events := w₁ } ∧
            Leg rt.events w₁ news lost ∧ (∀ e ∈ news, e.data.IsMutation) ∧
            ∀ e ∈ lost, e.data.IsMutation := by
        intro r₁ rt₁ hemit
        obtain ⟨w₁, news, lost, hrt, hleg, htold⟩ :=
          Runtime.emit_told hemit EventType.noConfusion
        refine ⟨w₁, news, lost, hrt, hleg, ?_, ?_⟩
        · intro e he
          rw [htold.news_data e he]
          rfl
        · intro e he
          rw [htold.lost_data e he]
          rfl
      unfold emitMutations at h
      rcases Py.bind_cases h with ⟨u, rt₁, hemit, h⟩ | ⟨exc, hemit, rfl⟩
      · obtain ⟨w₁, news, lost, rfl, hleg, hnews, hlost⟩ := hfirst hemit
        obtain ⟨w₂, news', lost', rfl, hleg', hnews', hlost'⟩ := ih h
        refine ⟨w₂, news ++ news', lost ++ lost', rfl, hleg.trans hleg',
          ?_, ?_⟩
        · exact List.forall_mem_append.mpr ⟨hnews, hnews'⟩
        · exact List.forall_mem_append.mpr ⟨hlost, hlost'⟩
      · exact hfirst hemit

/-- What a tool call emits is mutations; it returns what its body does. -/
theorem Tool.run_leg {tool : Tool ω} {args : List (String × Json)}
    {r : Except Exc ToolResult} (h : tool.run args rt = (r, rt')) :
    ∃ news lost, Leg rt.events rt'.events news lost ∧
      (∀ e ∈ news, e.data.IsMutation) ∧ (∀ e ∈ lost, e.data.IsMutation) ∧
      ∀ result, r = .ok result → ∃ inner,
        (tool.cls._run tool.timeoutSeconds args rt.world).outcome = .ok inner ∧
          result = inner.clamp := by
  rw [tool.run_apply args rfl] at h
  rcases Py.bind_cases h with ⟨u, rt₁, hemit, h⟩ | ⟨exc, hemit, rfl⟩
  · obtain ⟨w', news, lost, rfl, hleg, hnews, hlost⟩ := emitMutations_leg hemit
    rw [Py.ofExcept_apply] at h
    injection h with hr hrt
    rw [← hr, ← hrt]
    refine ⟨news, lost, hleg, hnews, hlost, ?_⟩
    intro result hresult
    cases houtcome : (tool.cls._run tool.timeoutSeconds args
        rt.world).outcome with
    | error exc =>
        rw [houtcome] at hresult
        cases hresult
    | ok inner =>
        rw [houtcome] at hresult
        exact ⟨inner, rfl, (Except.ok.inj hresult).symm⟩
  · obtain ⟨w', news, lost, rfl, hleg, hnews, hlost⟩ := emitMutations_leg hemit
    exact ⟨news, lost, hleg, hnews, hlost, fun _ h => nomatch h⟩

/-- What carrying out tools comes to: a block for each call that was
closed, with nothing lost but mutations, or an exception, because the clock
is spent or an event that opens or closes a call was lost. -/
inductive Carried (tools : List (Tool ω)) (w w' : Writer) :
    Except Exc (List Block) → Prop where
  | done {blocks news lost} (leg : Leg w w' news lost)
      (kept : ∀ e ∈ lost, e.data.IsMutation)
      (answers : List.Forall₂ (Answers tools) blocks (toolEnds news)) :
      Carried tools w w' (.ok blocks)
  | broke {exc news lost} (leg : Leg w w' news lost)
      (cause : ¬ w'.clock.Lasts 1 ∨ ∃ e ∈ lost, e.data.OfCall) :
      Carried tools w w' (.error exc)

variable {tools : List (Tool ω)}

/-- A leg that closes no call before the rest. -/
theorem Carried.after {w w₁ w' : Writer} {news lost : List Event}
    {r : Except Exc (List Block)} (h : Carried tools w₁ w' r)
    (hleg : Leg w w₁ news lost) (hkept : ∀ e ∈ lost, e.data.IsMutation)
    (hends : toolEnds news = []) : Carried tools w w' r := by
  cases h with
  | done leg kept answers =>
      refine .done (hleg.trans leg)
        (List.forall_mem_append.mpr ⟨hkept, kept⟩) ?_
      rw [toolEnds_append, hends]
      exact answers
  | broke leg cause =>
      refine .broke (hleg.trans leg) (cause.imp_right ?_)
      rintro ⟨e, he, hcall⟩
      exact ⟨e, List.mem_append_right _ he, hcall⟩

/-- The calls of a first part, and then of the rest. -/
theorem Carried.append {w w₁ w' : Writer} {blocks : List Block}
    {r : Except Exc (List Block)} (h : Carried tools w w₁ (.ok blocks))
    (h' : Carried tools w₁ w' r) :
    Carried tools w w' (r.map fun later => blocks ++ later) := by
  cases h with
  | done leg kept answers =>
      cases h' with
      | done leg' kept' answers' =>
          refine .done (leg.trans leg')
            (List.forall_mem_append.mpr ⟨kept, kept'⟩) ?_
          rw [toolEnds_append]
          exact List.rel_append answers answers'
      | broke leg' cause =>
          refine .broke (leg.trans leg') (cause.imp_right ?_)
          rintro ⟨e, he, hcall⟩
          exact ⟨e, List.mem_append_right _ he, hcall⟩

/-- A call is opened, and then the rest of it. -/
theorem open_carried {α : Type} {tu : ToolUse} {f : Unit → Py (Runtime ω) α}
    {r : Except Exc α} {blocks : α → List Block}
    (h : (Runtime.emit (.toolCallStart tu.name (.obj tu.input) tu.id) >>= f) rt
      = (r, rt'))
    (hrest : ∀ rt₁, f () rt₁ = (r, rt') →
      Carried tools rt₁.events rt'.events (r.map blocks)) :
    Carried tools rt.events rt'.events (r.map blocks) := by
  rcases Py.bind_cases h with ⟨u, rt₁, hemit, h⟩ | ⟨exc, hemit, rfl⟩
  · obtain ⟨w₁, news, lost, rfl, hleg, htold⟩ :=
      Runtime.emit_told hemit EventType.noConfusion
    obtain ⟨rfl, rfl⟩ := htold.ok
    exact (hrest _ h).after hleg (fun _ he => nomatch he) rfl
  · obtain ⟨w₁, news, lost, rfl, hleg, htold⟩ :=
      Runtime.emit_told hemit EventType.noConfusion
    refine .broke hleg (htold.error.imp_right ?_)
    rintro ⟨e, he, hdata⟩
    exact ⟨e, he, Or.inl (by rw [hdata]; rfl)⟩

/-- The clock is read, and then the rest of the call. -/
theorem read_carried {α : Type} {f : Int → Py (Runtime ω) α}
    {r : Except Exc α} {blocks : α → List Block}
    (h : (Runtime.monotonicNs >>= f) rt = (r, rt'))
    (hrest : ∀ t rt₁, f t rt₁ = (r, rt') →
      Carried tools rt₁.events rt'.events (r.map blocks)) :
    Carried tools rt.events rt'.events (r.map blocks) := by
  rcases Py.bind_cases h with ⟨t, rt₁, hread, h⟩ | ⟨exc, hread, rfl⟩
  · obtain ⟨w₁, rfl, hleg, -⟩ := Runtime.monotonicNs_leg hread
    exact (hrest t _ h).after hleg (fun _ he => nomatch he) rfl
  · obtain ⟨w₁, rfl, hleg, hspent⟩ := Runtime.monotonicNs_leg hread
    exact .broke hleg (Or.inl (hspent exc rfl))

/-- A call is closed with the event of its block. -/
theorem close_carried {data : EventData} {block : Block}
    {r : Except Exc Block} (hend : data.type = .toolCallEnd)
    (hanswers : Answers tools block data)
    (h : (do
      Runtime.emit data
      return block) rt = (r, rt')) :
    Carried tools rt.events rt'.events (r.map fun block => [block]) := by
  have hdone : data.type ≠ .agentDone := by
    rw [hend]
    exact EventType.noConfusion
  rcases Py.bind_cases h with ⟨u, rt₁, hemit, h⟩ | ⟨exc, hemit, rfl⟩
  · obtain ⟨w₁, news, lost, rfl, hleg, htold⟩ := Runtime.emit_told hemit hdone
    obtain ⟨rfl, rfl⟩ := htold.ok
    injection h with hr hrt
    rw [← hr, ← hrt]
    refine .done hleg (fun _ he => nomatch he) ?_
    have hends : toolEnds [rt.events.next data] = [data] := by
      unfold toolEnds
      exact List.filter_cons_of_pos (decide_eq_true hend)
    rw [hends]
    exact .cons hanswers .nil
  · obtain ⟨w₁, news, lost, rfl, hleg, htold⟩ := Runtime.emit_told hemit hdone
    refine .broke hleg (htold.error.imp_right ?_)
    rintro ⟨e, he, hdata⟩
    exact ⟨e, he, Or.inr (by rw [hdata, hend])⟩

/-- One call of a tool: one block, and its closing event. -/
theorem runOneTool_carried {tu : ToolUse} {r : Except Exc Block}
    (h : runOneTool tools tu rt = (r, rt')) :
    Carried tools rt.events rt'.events (r.map fun block => [block]) := by
  unfold runOneTool at h
  refine open_carried h ?_
  intro rt₁ h
  refine read_carried h ?_
  intro t0 rt₂ h
  cases hfind : toolMap tools tu.name with
  | none =>
      rw [hfind] at h
      exact close_carried rfl (.unavailable tu) h
  | some tool =>
      rw [hfind] at h
      rcases Py.bind_cases h with ⟨a, rt₃, hattempt, h⟩ | ⟨exc, hattempt, -⟩
      swap
      · obtain ⟨_, -, hr⟩ := Py.attempt_cases hattempt
        cases hr
      obtain ⟨came, hrun, hcame⟩ := Py.attempt_cases hattempt
      obtain rfl := Except.ok.inj hcame
      obtain ⟨news, lost, hleg, hnews, hlost, hresult⟩ := Tool.run_leg hrun
      have hends : toolEnds news = [] := by
        refine toolEnds_nil ?_
        intro e he
        rw [show e.data.type = .fileMutation from hnews e he]
        exact EventType.noConfusion
      refine Carried.after ?_ hleg hlost hends
      cases a with
      | error exc =>
          refine read_carried h ?_
          intro t1 rt₄ h
          exact close_carried rfl (.raised tu exc _) h
      | ok result =>
          obtain ⟨inner, hran, rfl⟩ := hresult result rfl
          refine read_carried h ?_
          intro t1 rt₄ h
          exact close_carried rfl (.returned tu (toolMap_mem hfind).1 hran _) h

/-- The tool calls of a step: by induction on the tool uses, up to the first
that raises. -/
theorem runTools_carried {tus : List ToolUse} {r : Except Exc (List Block)}
    (h : runTools tools tus rt = (r, rt')) :
    Carried tools rt.events rt'.events r := by
  induction tus generalizing rt r with
  | nil =>
      injection h with hr hrt
      rw [← hr, ← hrt]
      exact .done (.refl _) (fun _ he => nomatch he) .nil
  | cons tu tus ih =>
      unfold runTools at h
      rcases Py.bind_cases h with ⟨block, rt₁, hone, h⟩ | ⟨exc, hone, rfl⟩
      · have hfirst := runOneTool_carried hone
        rcases Py.bind_cases h with ⟨blocks, rt₂, hrest, h⟩ | ⟨exc, hrest, rfl⟩
        · injection h with hr hrt
          subst hr hrt
          exact Carried.append hfirst (ih hrest)
        · exact Carried.append hfirst (ih hrest)
      · exact runOneTool_carried hone

end

-- ============================================================== one step

namespace Went

variable {s s' s'' : Frame ω} {messages messages' : List Message}
  {calls calls' : List LLMCall} {news lost news' lost' : List Event}

theorem refl (s : Frame ω) : Went s s [] [] [] [] where
  leg := .refl s.runtime.events
  messages := (List.append_nil _).symm
  calls := (List.append_nil _).symm
  unhashable := rfl
  step := rfl

theorem trans (h : Went s s' messages calls news lost)
    (h' : Went s' s'' messages' calls' news' lost') :
    Went s s'' (messages ++ messages') (calls ++ calls') (news ++ news')
      (lost ++ lost') where
  leg := h.leg.trans h'.leg
  messages := by rw [h'.messages, h.messages, List.append_assoc]
  calls := by rw [h'.calls, h.calls, List.append_assoc]
  unhashable := h'.unhashable.trans h.unhashable
  step := h'.step.trans h.step

/-- A part that adds nothing. -/
theorem quiet (h : Went s s' messages calls news lost)
    (h' : Went s' s'' [] [] [] []) : Went s s'' messages calls news lost := by
  simpa only [List.append_nil] using h.trans h'

theorem append (h : Went s s' messages calls news lost) (m : Message) :
    Went s { s' with messages := s'.messages ++ [m] } (messages ++ [m]) calls
      news lost where
  leg := h.leg
  messages := by
    rw [← List.append_assoc, ← h.messages]
  calls := h.calls
  unhashable := h.unhashable
  step := h.step

/-- What the runtime does in between is a leg, and nothing else. -/
theorem of_leg {rt : Runtime ω}
    (h : Leg s.runtime.events rt.events news lost) :
    Went s { s with runtime := rt } [] [] news lost where
  leg := h
  messages := (List.append_nil _).symm
  calls := (List.append_nil _).symm
  unhashable := rfl
  step := rfl

end Went

/-- What broke a part broke the whole. -/
theorem Breaks.mono {s s₁ s₂ : Frame ω} {calls calls' : List LLMCall}
    {lost lost' : List Event} (h : Breaks s₁ s₂ calls lost)
    (hsame : s₁.unhashable = s.unhashable) :
    Breaks s s₂ (calls' ++ calls) (lost' ++ lost) := by
  rcases h with hspent | ⟨e, he, hother⟩ | ⟨call, hcall, hhashed⟩
  · exact Or.inl hspent
  · exact Or.inr (Or.inl ⟨e, List.mem_append_right _ he, hother⟩)
  · refine Or.inr (Or.inr ⟨call, List.mem_append_right _ hcall, ?_⟩)
    rwa [← hsame]

/-- A part of the loop that breaks off, with no call closed and no message
appended. -/
def Broke (s s' : Frame ω) : Prop :=
  ∃ calls news lost, Went s s' [] calls news lost ∧ toolEnds news = [] ∧
    Breaks s s' calls lost

/-- A part that went through, before the one that breaks off. -/
theorem Broke.after {s s₁ s' : Frame ω} {calls : List LLMCall}
    {news lost : List Event} (h : Broke s₁ s')
    (hwent : Went s s₁ [] calls news lost) (hends : toolEnds news = []) :
    Broke s s' := by
  obtain ⟨calls', news', lost', hwent', hends', hbreaks⟩ := h
  refine ⟨_, _, _, hwent.trans hwent', ?_, hbreaks.mono hwent.unhashable⟩
  rw [toolEnds_append, hends, hends']
  rfl

section

variable {s s' : Frame ω}

/-- An event of the loop: the messages and the calls stay. -/
theorem Frame.emit_told {data : EventData} {r : Except Exc Unit}
    (h : Frame.emit data s = (r, s')) (hdone : data.type ≠ .agentDone) :
    ∃ news lost, Went s s' [] [] news lost ∧
      Told s.runtime.events data s'.runtime.events r news lost := by
  unfold Frame.emit Frame.onRuntime at h
  obtain ⟨rt, hemit, rfl⟩ := Py.zoom_cases h
  obtain ⟨w', news, lost, rfl, hleg, htold⟩ := Runtime.emit_told hemit hdone
  exact ⟨news, lost, .of_leg hleg, htold⟩

/-- An event of the loop's own: not of a tool call, and not the last. -/
def EventData.OfLoop (data : EventData) : Prop :=
  data.type ≠ .agentDone ∧ data.type ≠ .toolCallEnd ∧ ¬ data.IsMutation

/-- One that goes through adds its line, and ends no tool call. -/
theorem Frame.emit_went {data : EventData} {u : Unit}
    (h : Frame.emit data s = (.ok u, s')) (hloop : data.OfLoop) :
    ∃ news, Went s s' [] [] news [] ∧ toolEnds news = [] := by
  obtain ⟨news, lost, hwent, htold⟩ := Frame.emit_told h hloop.1
  obtain ⟨rfl, rfl⟩ := htold.ok
  refine ⟨_, hwent, toolEnds_nil ?_⟩
  intro e he
  rw [htold.news_data e he]
  exact hloop.2.1

/-- One that raises breaks the run. -/
theorem Frame.emit_broke {data : EventData} {exc : Exc}
    (h : Frame.emit data s = (.error exc, s')) (hloop : data.OfLoop) :
    Broke s s' := by
  obtain ⟨news, lost, hwent, htold⟩ := Frame.emit_told h hloop.1
  refine ⟨_, _, _, hwent, toolEnds_nil ?_, ?_⟩
  · intro e he
    rw [htold.news_data e he]
    exact hloop.2.1
  · rcases htold.error with hspent | ⟨e, he, hdata⟩
    · exact Or.inl hspent
    · refine Or.inr (Or.inl ⟨e, he, ?_⟩)
      rw [hdata]
      exact hloop.2.2

/-- Reading the clock adds nothing; on a spent clock it breaks the run. -/
theorem Frame.monotonicNs_went {r : Except Exc Int}
    (h : Frame.onRuntime Runtime.monotonicNs s = (r, s')) :
    Went s s' [] [] [] [] ∧ ∀ exc, r = .error exc → Broke s s' := by
  unfold Frame.onRuntime at h
  obtain ⟨rt, hread, rfl⟩ := Py.zoom_cases h
  obtain ⟨w', rfl, hleg, hspent⟩ := Runtime.monotonicNs_leg hread
  refine ⟨.of_leg hleg, ?_⟩
  intro exc hexc
  exact ⟨_, _, _, .of_leg hleg, rfl, Or.inl (hspent exc hexc)⟩

variable {inv : Invocation ω}

/-- A call of the client is kept, whatever it comes to. -/
theorem complete_went {request : Request} {r : Except Exc LLMResponse}
    (h : complete inv request s = (r, s')) :
    ∃ call : LLMCall, call.outcome = r ∧ Went s s' [] [call] [] [] := by
  injection h with hr hs
  rw [← hr, ← hs]
  exact ⟨_, rfl, .refl _, (List.append_nil _).symm, rfl, rfl, rfl⟩

/-- A call that raised, or whose response cannot be hashed, breaks the loop
off. -/
theorem Broke.of_call {s s₁ : Frame ω} {call : LLMCall}
    (hwent : Went s s₁ [] [call] [] [])
    (hcall : ¬ call.Hashed s.unhashable) : Broke s s₁ :=
  ⟨_, _, _, hwent, rfl, Or.inr (Or.inr ⟨call, List.mem_cons_self, hcall⟩)⟩

/-- What asking the model comes to: a response that can be hashed, added to
the messages, or an exception. -/
inductive Asked (s s' : Frame ω) : Except Exc LLMResponse → Prop where
  | answered {resp call news} (hashed : LLMCall.Hashed s.unhashable call)
      (went : Went s s' [buildAssistantMessage resp] [call] news [])
      (closes : toolEnds news = []) : Asked s s' (.ok resp)
  | broke {exc} (broke : Broke s s') : Asked s s' (.error exc)

/-- Hashing a response changes nothing; it raises just if `json.dumps` does.
-/
theorem Frame.hashed_cases {resp : LLMResponse} {r : Except Exc String}
    (h : Frame.hashed resp s = (r, s')) :
    s' = s ∧ (∀ hash, r = .ok hash → s.unhashable resp = none) ∧
      ∀ exc, r = .error exc → s.unhashable resp = some exc := by
  unfold Frame.hashed at h
  split at h
  next exc hraises =>
    injection h with hr hs
    rw [← hr, ← hs]
    exact ⟨rfl, fun _ hexc => (nomatch hexc),
      fun exc' hexc => hraises.trans (congrArg some (Except.error.inj hexc))⟩
  next hnone =>
    injection h with hr hs
    rw [← hr, ← hs]
    exact ⟨rfl, fun _ _ => hnone, fun _ hexc => (nomatch hexc)⟩

/-- The response is there: it is counted and hashed, its event emitted and
its message appended. -/
theorem answer_asked {s₀ : Frame ω} {call : LLMCall} {resp : LLMResponse}
    {cost : Rat} {data : String → EventData} {news : List Event}
    {r : Except Exc LLMResponse}
    (hcalled : Went s₀ s [] [call] news []) (hends : toolEnds news = [])
    (hresp : call.outcome = .ok resp) (hdata : ∀ hash, (data hash).OfLoop)
    (h : (do
      Py.modify (Frame.count resp cost)
      let responseHash ← Frame.hashed resp
      Frame.emit (data responseHash)
      Frame.append (buildAssistantMessage resp)
      return resp) s = (r, s')) : Asked s₀ s' r := by
  rw [Py.bind_ok (Py.modify_apply _ _)] at h
  have hcount : Went s (Frame.count resp cost s) [] [] [] [] :=
    ⟨.refl _, (List.append_nil _).symm, (List.append_nil _).symm, rfl, rfl⟩
  have hcounted : Went s₀ (Frame.count resp cost s) [] [call] news [] :=
    hcalled.quiet hcount
  have hkept : (Frame.count resp cost s).unhashable = s₀.unhashable :=
    hcounted.unhashable
  rcases Py.bind_cases h with ⟨hash, s₁, hhash, h⟩ | ⟨exc, hhash, rfl⟩
  swap
  · obtain ⟨rfl, -, hraises⟩ := Frame.hashed_cases hhash
    refine .broke ⟨_, _, _, hcounted, hends, Or.inr (Or.inr ⟨call, ?_, ?_⟩)⟩
    · exact List.mem_cons_self
    · rintro ⟨resp', hresp', hnone⟩
      rw [hresp] at hresp'
      obtain rfl := Except.ok.inj hresp'
      rw [← hkept, hraises exc rfl] at hnone
      cases hnone
  obtain ⟨rfl, hhashed, -⟩ := Frame.hashed_cases hhash
  rcases Py.bind_cases h with ⟨u, s₁, hemit, h⟩ | ⟨exc, hemit, rfl⟩
  swap
  · exact .broke ((Frame.emit_broke hemit (hdata _)).after hcounted hends)
  obtain ⟨news', hwent, hends'⟩ := Frame.emit_went hemit (hdata _)
  injection h with hr hs
  rw [← hr, ← hs]
  have hall : Went s₀ s₁ [] [call] (news ++ news') [] := by
    simpa only [List.append_nil] using hcounted.trans hwent
  have hcall : call.Hashed s₀.unhashable :=
    ⟨resp, hresp, by rw [← hkept, hhashed hash rfl]⟩
  refine .answered hcall
    ⟨hall.leg, ?_, hall.calls, hall.unhashable, hall.step⟩ ?_
  · show s₁.messages ++ [buildAssistantMessage resp] = _
    rw [hall.messages, List.append_nil]
  · rw [toolEnds_append, hends, hends']
    rfl

/-- The model call, statement by statement: where it raised, the trace ends
inside it. -/
theorem callModel_asked {r : Except Exc LLMResponse}
    (h : callModel inv s = (r, s')) : Asked s s' r := by
  have hloop : ∀ messages, EventData.OfLoop (.llmCallStart inv.modelProvider
      inv.modelName (hashRequest (inv.request messages)) messages.length
      inv.params) := fun messages =>
    ⟨EventType.noConfusion, EventType.noConfusion, EventType.noConfusion⟩
  unfold callModel at h
  rw [Py.bind_ok (Py.get_apply s)] at h
  rcases Py.bind_cases h with ⟨u, s₁, hemit, h⟩ | ⟨exc, hemit, rfl⟩
  swap
  · exact .broke (Frame.emit_broke hemit (hloop s.messages))
  obtain ⟨news, hstarted, hends⟩ := Frame.emit_went hemit (hloop s.messages)
  rcases Py.bind_cases h with ⟨t0, s₂, hread, h⟩ | ⟨exc, hread, rfl⟩
  swap
  · exact .broke (((Frame.monotonicNs_went hread).2 exc rfl).after hstarted
      hends)
  have hcalling := hstarted.quiet (Frame.monotonicNs_went hread).1
  rcases Py.bind_cases h with ⟨resp, s₃, hask, h⟩ | ⟨exc, hask, rfl⟩
  swap
  · obtain ⟨call, houtcome, hwent⟩ := complete_went hask
    refine .broke ((Broke.of_call hwent ?_).after hcalling hends)
    rintro ⟨resp, hresp, -⟩
    rw [houtcome] at hresp
    cases hresp
  obtain ⟨call, houtcome, hwent⟩ := complete_went hask
  have hcalled : Went s s₃ [] [call] news [] := by
    simpa only [List.append_nil, List.nil_append] using hcalling.trans hwent
  rcases Py.bind_cases h with ⟨t1, s₄, hread, h⟩ | ⟨exc, hread, rfl⟩
  swap
  · exact .broke (((Frame.monotonicNs_went hread).2 exc rfl).after hcalled
      hends)
  refine answer_asked (hcalled.quiet (Frame.monotonicNs_went hread).1) hends
    houtcome ?_ h
  exact fun hash =>
    ⟨EventType.noConfusion, EventType.noConfusion, EventType.noConfusion⟩

/-- What one pass of the while loop comes to, from the step it sets.

It ends its step with a block for each call that was closed; or it breaks
off, and then the model is not shown the results of calls that were closed
(`extra`), if the calls themselves broke off. -/
inductive Stepped (tools : List (Tool ω)) (s s' : Frame ω) :
    Except Exc (Option String) → Prop where
  | ended {outcome s₁ messages call news lost}
      (went : Went s s₁ messages [call] news lost)
      (next : s' = { s₁ with step := s₁.step + 1 })
      (hashed : LLMCall.Hashed s.unhashable call)
      (kept : ∀ e ∈ lost, e.data.IsMutation)
      (answers : List.Forall₂ (Answers tools)
        (messages.flatMap Message.results) (toolEnds news)) :
      Stepped tools s s' (.ok outcome)
  | broke {exc messages calls news lost front extra}
      (went : Went s s' messages calls news lost)
      (cause : Breaks s s' calls lost)
      (ends : toolEnds news = front ++ extra)
      (answers : List.Forall₂ (Answers tools)
        (messages.flatMap Message.results) front)
      (dropped : extra ≠ [] → ¬ s'.runtime.events.clock.Lasts 1 ∨
        ∃ e ∈ lost, e.data.OfCall) :
      Stepped tools s s' (.error exc)

/-- A step that breaks before its tools leaves no results behind. -/
theorem Broke.stepped {tools : List (Tool ω)} {exc : Exc} (h : Broke s s') :
    Stepped tools s s' (.error exc) := by
  obtain ⟨calls, news, lost, hwent, hends, hbreaks⟩ := h
  have hsplit : toolEnds news = [] ++ [] := hends
  exact .broke hwent hbreaks hsplit .nil fun hne => absurd rfl hne

theorem results_assistant (resp : LLMResponse) :
    (buildAssistantMessage resp).results = [] := by
  show (resp.textBlocks.map Block.text
    ++ resp.toolUses.map Block.toolUse).filter _ = []
  rw [List.filter_append, List.filter_map, List.filter_map]
  simp [Function.comp_def]

/-- A message of blocks that answer calls shows them all. -/
theorem results_answers {tools : List (Tool ω)} {blocks : List Block}
    {ends : List EventData} (h : List.Forall₂ (Answers tools) blocks ends) :
    (toolResultsMessage blocks).results = blocks := by
  show blocks.filter _ = blocks
  rw [List.filter_eq_self]
  induction h with
  | nil => exact fun block hblock => nomatch hblock
  | cons hanswers _ ih =>
      refine List.forall_mem_cons.mpr ⟨?_, ih⟩
      cases hanswers <;> rfl

/-- The last event of a step, after all else of it went through. -/
theorem endStep_stepped {tools : List (Tool ω)} {s₀ : Frame ω} {step : Int}
    {messages : List Message} {call : LLMCall} {news lost : List Event}
    {outcome : Option String} {r : Except Exc (Option String)}
    (hwent : Went s₀ s messages [call] news lost)
    (hhashed : LLMCall.Hashed s₀.unhashable call)
    (hkept : ∀ e ∈ lost, e.data.IsMutation)
    (hanswers : List.Forall₂ (Answers tools)
      (messages.flatMap Message.results) (toolEnds news))
    (h : (do
      Frame.emit (.agentStepEnd step)
      Py.modify fun s : Frame ω => { s with step := s.step + 1 }
      return outcome) s = (r, s')) : Stepped tools s₀ s' r := by
  have hloop : (EventData.agentStepEnd step).OfLoop :=
    ⟨EventType.noConfusion, EventType.noConfusion, EventType.noConfusion⟩
  rcases Py.bind_cases h with ⟨u, s₁, hemit, h⟩ | ⟨exc, hemit, rfl⟩
  · obtain ⟨news', hended, hends⟩ := Frame.emit_went hemit hloop
    injection h with hr hs
    rw [← hr, ← hs]
    have hall := hwent.trans hended
    rw [List.append_nil, List.append_nil, List.append_nil] at hall
    refine .ended hall rfl hhashed hkept ?_
    rw [toolEnds_append, hends, List.append_nil]
    exact hanswers
  · obtain ⟨calls, news', lost', hended, hends, hbreaks⟩ :=
      Frame.emit_broke hemit hloop
    have hall := hwent.trans hended
    rw [List.append_nil] at hall
    have hsplit : toolEnds (news ++ news') = toolEnds news ++ [] := by
      rw [toolEnds_append, hends]
    exact .broke hall (hbreaks.mono hwent.unhashable) hsplit hanswers
      fun hne => absurd rfl hne

/-- One pass of the while loop. -/
theorem oneStep_stepped {r : Except Exc (Option String)}
    (h : oneStep inv s = (r, s')) :
    Stepped inv.tools (s.did (.setStep s.step)) s' r := by
  have hloop : (EventData.agentStepStart s.step).OfLoop :=
    ⟨EventType.noConfusion, EventType.noConfusion, EventType.noConfusion⟩
  unfold oneStep at h
  rw [Py.bind_ok (Py.get_apply s), Py.bind_ok (Frame.setStep_eq s.step)] at h
  rcases Py.bind_cases h with ⟨u, s₁, hemit, h⟩ | ⟨exc, hemit, rfl⟩
  swap
  · exact (Frame.emit_broke hemit hloop).stepped
  obtain ⟨news, hstarted, hends⟩ := Frame.emit_went hemit hloop
  rcases Py.bind_cases h with ⟨resp, s₂, hmodel, h⟩ | ⟨exc, hmodel, rfl⟩
  swap
  · cases callModel_asked hmodel with
    | broke hbroke => exact (hbroke.after hstarted hends).stepped
  cases callModel_asked hmodel with
  | @answered _ call news' hhashed hwent hends' =>
  have hasked := hstarted.trans hwent
  rw [List.nil_append, List.nil_append, List.append_nil] at hasked
  have hashed : call.Hashed s.unhashable := by
    rwa [hstarted.unhashable] at hhashed
  have hassistant : [buildAssistantMessage resp].flatMap Message.results
      = [] := by
    rw [List.flatMap_singleton, results_assistant]
  have hnone : toolEnds (news ++ news') = [] := by
    rw [toolEnds_append, hends, hends']
    rfl
  split at h
  · rcases Py.bind_cases h with ⟨blocks, s₃, htools, h⟩ | ⟨exc, htools, rfl⟩
    · unfold Frame.onRuntime at htools
      obtain ⟨rt, hrun, rfl⟩ := Py.zoom_cases htools
      cases runTools_carried hrun with
      | @done _ news'' lost hleg hkept hanswers =>
      rw [Frame.append, Py.bind_ok (Py.modify_apply _ _)] at h
      have hcarried := (hasked.trans (.of_leg hleg)).append
        (toolResultsMessage blocks)
      rw [List.append_nil, List.append_nil, List.nil_append] at hcarried
      refine endStep_stepped hcarried hashed hkept ?_ h
      rw [List.flatMap_append, hassistant, List.nil_append,
        List.flatMap_singleton, results_answers hanswers, toolEnds_append,
        hnone, List.nil_append]
      exact hanswers
    · unfold Frame.onRuntime at htools
      obtain ⟨rt, hrun, rfl⟩ := Py.zoom_cases htools
      cases runTools_carried hrun with
      | @broke _ news'' lost hleg hcause =>
      have hsplit : toolEnds (news ++ news' ++ news'')
          = [] ++ toolEnds news'' := by
        rw [toolEnds_append, hnone]
      refine .broke (hasked.trans (.of_leg hleg)) ?_ hsplit ?_ fun _ => hcause
      · refine hcause.imp_right fun ⟨e, he, hcall⟩ => Or.inl ⟨e, he, ?_⟩
        intro hmutation
        rcases hcall with hstart | hend
        · exact EventType.noConfusion (hstart.symm.trans hmutation)
        · exact EventType.noConfusion (hend.symm.trans hmutation)
      · rw [List.append_nil, hassistant]
        exact .nil
  · exact endStep_stepped hasked hashed (fun _ he => nomatch he)
      (by rw [hassistant, hnone]; exact .nil) h

-- ========================================================== loop and run

/-- What the while loop comes to, with what holds before each of its steps:
there was no step to make, or its last step ended, or broke off. -/
inductive Looped (inv : Invocation ω) (I : Frame ω → Prop) (remaining : Nat)
    (s s' : Frame ω) : Except Exc String → Prop where
  | none {outcome} (zero : remaining = 0) (same : s' = s) :
      Looped inv I remaining s s' (.ok outcome)
  | ended {s₁ next outcome} (before : I s₁)
      (stepped : Stepped inv.tools (s₁.did (.setStep s₁.step)) s' (.ok next)) :
      Looped inv I remaining s s' (.ok outcome)
  | broke {s₁ exc} (before : I s₁)
      (stepped : Stepped inv.tools (s₁.did (.setStep s₁.step)) s'
        (.error exc)) :
      Looped inv I remaining s s' (.error exc)

/-- A rule for the while loop: what every step that ends keeps holds before
the last of them. -/
theorem whileLoop_looped {I : Frame ω → Prop}
    (hstep : ∀ {s s' next}, I s →
      Stepped inv.tools (s.did (.setStep s.step)) s' (.ok next) → I s')
    {remaining : Nat} {r : Except Exc String} (hI : I s)
    (h : whileLoop inv remaining s = (r, s')) :
    Looped inv I remaining s s' r := by
  induction remaining generalizing s with
  | zero =>
      injection h with hr hs
      rw [← hr, ← hs]
      exact .none rfl rfl
  | succ remaining ih =>
      unfold whileLoop at h
      rcases Py.bind_cases h with ⟨next, s₁, hone, h⟩ | ⟨exc, hone, rfl⟩
      swap
      · exact .broke hI (oneStep_stepped hone)
      have hstepped := oneStep_stepped hone
      cases next with
      | some outcome =>
          injection h with hr hs
          subst hr hs
          exact .ended hI hstepped
      | none =>
          cases ih (hstep hI hstepped) h with
          | none zero same =>
              subst same
              exact .ended hI hstepped
          | ended before stepped => exact .ended before stepped
          | broke before stepped => exact .broke before stepped

/-- The handler writes `agent_error` and gives the outcome, unless its own
event is lost. -/
theorem agentError_cases {exc : Exc} {r : Except Exc String}
    (h : agentError exc s = (r, s')) :
    (∃ exc', r = .error exc' ∧ Broke s s') ∨
      r = .ok "failed" ∧
        ∃ news, Went s s' [] [] news [] ∧ toolEnds news = [] := by
  have hloop : (EventData.agentError exc.type exc.message).OfLoop :=
    ⟨EventType.noConfusion, EventType.noConfusion, EventType.noConfusion⟩
  rcases Py.bind_cases h with ⟨u, s₁, hemit, h⟩ | ⟨exc', hemit, rfl⟩
  · injection h with hr hs
    subst hr hs
    exact Or.inr ⟨rfl, Frame.emit_went hemit hloop⟩
  · exact Or.inl ⟨exc', rfl, Frame.emit_broke hemit hloop⟩

/-- The parts of a run: it raises before its loop, in the handler of its
loop, or emits `agent_done` last. -/
theorem run_cases {r : Except Exc EventData} (h : run inv s = (r, s')) :
    (∃ exc, r = .error exc ∧ Broke (s.did (.setStep 0)) s') ∨
      ∃ s₁ news, Went (s.did (.setStep 0)) s₁ [] [] news [] ∧
        toolEnds news = [] ∧
        ((∃ exc, r = .error exc ∧
            Py.tryExcept (whileLoop inv inv.maxSteps.toNat) agentError s₁
              = (.error exc, s')) ∨
          ∃ outcome s₂,
            Py.tryExcept (whileLoop inv inv.maxSteps.toNat) agentError s₁
              = (.ok outcome, s₂) ∧
            ∃ r', Frame.emit (doneData inv s₂ outcome) s₂ = (r', s') ∧
              r = r'.map fun _ => doneData inv s₂ outcome) := by
  unfold run at h
  rw [Py.bind_ok (Frame.setStep_eq 0)] at h
  rcases Py.bind_cases h with ⟨u, s₁, hemit, h⟩ | ⟨exc, hemit, rfl⟩
  swap
  · refine Or.inl ⟨exc, rfl, Frame.emit_broke hemit ?_⟩
    exact ⟨EventType.noConfusion, EventType.noConfusion,
      EventType.noConfusion⟩
  obtain ⟨news, hstarted, hends⟩ := Frame.emit_went hemit
    ⟨EventType.noConfusion, EventType.noConfusion, EventType.noConfusion⟩
  refine Or.inr ⟨s₁, news, hstarted, hends, ?_⟩
  rcases Py.bind_cases h with ⟨outcome, s₂, htry, h⟩ | ⟨exc, htry, rfl⟩
  swap
  · exact Or.inl ⟨exc, rfl, htry⟩
  rw [Py.bind_ok (Py.get_apply s₂)] at h
  refine Or.inr ⟨outcome, s₂, htry, ?_⟩
  rcases Py.bind_cases h with ⟨u, s₃, hdone, h⟩ | ⟨exc, hdone, rfl⟩
  · injection h with hr hs
    rw [← hr, ← hs]
    exact ⟨_, hdone, rfl⟩
  · exact ⟨_, hdone, rfl⟩

/-- All that emitting comes to, for the variables of a run. -/
theorem Frame.emit_cases {data : EventData} {r : Except Exc Unit}
    (h : Frame.emit data s = (r, s')) :
    ∃ e w', s.runtime.events.Emitted data.type data e w' ∧
      s' = { s with runtime := { s.runtime with events := w' } } ∧
      r = e.map fun _ => () := by
  unfold Frame.emit Frame.onRuntime at h
  obtain ⟨rt, hrun, rfl⟩ := Py.zoom_cases h
  obtain ⟨e, w', hemitted, rfl, rfl⟩ := Runtime.emit_cases hrun
  exact ⟨e, w', hemitted, rfl, rfl⟩

end

end AgentAnvil.Sdk
