/-
The LLM client interface (`client/base.py`), and the messages the loop
exchanges with it.

The loop builds messages as dictionaries; here they have types, and
`toJson` gives back the dictionaries. `response_id` and `raw`, which the
loop does not read, are left out. `stop_reason` is a string and not an
enumeration: the annotation names five values, and the Anthropic client
passes on whatever the provider sent.
-/
import AgentAnvil.Lib.Json
import AgentAnvil.Lib.Lines
import AgentAnvil.Lib.Py

namespace AgentAnvil.Sdk

-- ============================================================== messages

structure ToolUse where
  id : String
  name : String
  input : List (String × Json)

/-- An entry of a message's content list. -/
inductive Block where
  | text (body : String)
  | toolUse (use : ToolUse)
  | toolResult (toolUseId content : String) (isError : Bool)

def Block.toJson : Block → Json
  | .text body => .obj [("type", .str "text"), ("text", .str body)]
  | .toolUse use => .obj [
      ("type", .str "tool_use"), ("id", .str use.id), ("name", .str use.name),
      ("input", .obj use.input)]
  | .toolResult toolUseId content isError => .obj [
      ("type", .str "tool_result"), ("tool_use_id", .str toolUseId),
      ("content", .str content), ("is_error", .bool isError)]

inductive Role where
  | user
  | assistant
  deriving DecidableEq, Repr

def Role.text : Role → String
  | .user => "user"
  | .assistant => "assistant"

inductive Content where
  | text (body : String)
  | blocks (items : List Block)

def Content.toJson : Content → Json
  | .text body => .str body
  | .blocks items => .arr (items.map Block.toJson)

structure Message where
  role : Role
  content : Content

def Message.toJson (m : Message) : Json :=
  .obj [("role", .str m.role.text), ("content", m.content.toJson)]

-- ============================================================ the client

/-- A tool as the model is told of it (`Tool.schema`). -/
structure ToolSchema where
  name : String
  description : String
  inputSchema : Json

def ToolSchema.toJson (schema : ToolSchema) : Json :=
  .obj [("name", .str schema.name), ("description", .str schema.description),
    ("input_schema", schema.inputSchema)]

/-- The arguments of `complete`. -/
structure Request where
  system : String
  messages : List Message
  tools : List ToolSchema
  params : List (String × String)

structure LLMResponse where
  textBlocks : List String
  toolUses : List ToolUse
  stopReason : String
  inputTokens : Int
  outputTokens : Int

/-- A client answers or raises, and may keep a state of its own in the
world it shares with the tools. -/
structure LLMClient (ω : Type) where
  complete : Request → Py ω LLMResponse

/-- `ScriptedClient` (`client/mock.py`): the responses in order; its world
is the number of them it has given. -/
def scriptedClient (responses : List LLMResponse) : LLMClient Nat where
  complete _ := fun idx =>
    match responses[idx]? with
    | some resp => (.ok resp, idx + 1)
    | none =>
        (.error ⟨"RuntimeError", "ScriptedClient exhausted after "
          ++ toString idx
          ++ " responses; loop tried to make another LLM call"⟩, idx)

/-- The content of the last user message, as a text. -/
def lastUser (repr : Json → String) (messages : List Message) : String :=
  match messages.reverse.find? fun msg => msg.role = .user with
  | some ⟨_, .text body⟩ => body
  | some ⟨_, .blocks items⟩ => repr (Content.blocks items).toJson
  | none => ""

def wordCount (text : String) : Nat := (Lines.words text.toList).length

/-- `EchoClient` (`client/mock.py`): it ends the turn with what the user
said last. -/
def echoClient {ω : Type} (repr : Json → String) : LLMClient ω where
  complete request := do
    let last := lastUser repr request.messages
    return {
      textBlocks := ["echo: " ++ last]
      toolUses := []
      stopReason := "end_turn"
      inputTokens := wordCount last
      outputTokens := wordCount last + 1 }

end AgentAnvil.Sdk
