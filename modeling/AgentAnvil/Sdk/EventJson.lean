/-
The `data` of the events of a run, as the dicts that are emitted
(`loop.py`, `emit_file_mutation`).

How a float is dumped is a parameter.
-/
import AgentAnvil.Sdk.TraceFile

namespace AgentAnvil.Sdk

variable (float : Rat → Json)

/-- The dict that is passed to `emit`. -/
def EventData.dict : EventData → List (String × Json)
  | .agentStart taskId prompt provider name tools maxSteps => [
      ("task_id", .str taskId), ("prompt", .str prompt),
      ("model", .obj [("provider", .str provider), ("name", .str name)]),
      ("tools", .arr (tools.map .str)), ("max_steps", .int maxSteps)]
  | .agentStepStart step => [("step", .int step)]
  | .llmCallStart provider model requestHash messagesCount params => [
      ("provider", .str provider), ("model", .str model),
      ("request_hash", .str requestHash),
      ("messages_count", .int messagesCount),
      ("params", .obj (params.map fun entry => (entry.1, .str entry.2)))]
  | .llmCallEnd requestHash responseHash inputTokens outputTokens stopReason
      costUsd latencyMs => [
      ("request_hash", .str requestHash),
      ("response_hash", .str responseHash),
      ("input_tokens", .int inputTokens),
      ("output_tokens", .int outputTokens),
      ("stop_reason", .str stopReason), ("cost_usd", float costUsd),
      ("latency_ms", .int latencyMs)]
  | .toolCallStart toolName args toolCallId => [
      ("tool_name", .str toolName), ("args", args),
      ("tool_call_id", .str toolCallId)]
  | .toolCallEnd toolCallId result resultTruncated exitCode latencyMs => [
      ("tool_call_id", .str toolCallId), ("result", .str result),
      ("result_truncated", .bool resultTruncated),
      ("exit_code", .int exitCode), ("latency_ms", .int latencyMs),
      ("result_blob_path", .null)]
  | .fileMutation path operation sizeBefore sizeAfter hashAfter => [
      ("path", .str path), ("operation", .str operation),
      ("size_before", .int sizeBefore), ("size_after", .int sizeAfter),
      ("hash_after", .str hashAfter)]
  | .agentStepEnd step => [("step", .int step)]
  | .agentDone outcome totalSteps totalCostUsd totalInputTokens
      totalOutputTokens wallClockSeconds => [
      ("outcome", .str outcome), ("total_steps", .int totalSteps),
      ("total_cost_usd", float totalCostUsd),
      ("total_input_tokens", .int totalInputTokens),
      ("total_output_tokens", .int totalOutputTokens),
      ("wall_clock_seconds", float wallClockSeconds)]
  | .agentError type message => [
      ("type", .str type), ("message", .str message)]

/-- The envelope as it is dumped. -/
def Event.json (e : Event) : JsonEvent :=
  { e with data := e.data.dict float }

/-- The bytes of a trace of these events. -/
def traceBytes (t : JsonText) (events : List Event) : List UInt8 :=
  Utf8.encode (eventsText t (events.map (Event.json float)))

end AgentAnvil.Sdk
