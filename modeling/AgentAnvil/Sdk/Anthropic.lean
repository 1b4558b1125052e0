/-
The Anthropic client (`client/anthropic.py`).

The provider's SDK is a parameter: `messages.create`, and how Python reads
a number from a parameter's text. A block of a message that is neither text
nor a tool call has no place in a response and is skipped.
-/
import AgentAnvil.Sdk.Client

namespace AgentAnvil.Sdk

-- ============================================================ the provider

/-- A block the loop knows. -/
inductive ModelBlock where
  | text (body : String)
  | toolUse (use : ToolUse)

inductive ProviderBlock where
  | known (block : ModelBlock)
  | other (type : String)

structure ProviderUsage where
  inputTokens : Int
  outputTokens : Int

structure ProviderMessage where
  content : List ProviderBlock
  stopReason : Option String
  usage : Option ProviderUsage

/-- The arguments of `messages.create`. -/
structure CreateArgs (φ : Type) where
  model : String
  messages : List Message
  maxTokens : Int
  system : Option String
  tools : Option (List ToolSchema)
  temperature : Option φ

structure AnthropicApi (ω φ : Type) where
  /-- `int(text)` -/
  int : String → Except Exc Int
  /-- `float(text)` -/
  float : String → Except Exc φ
  create : CreateArgs φ → Py ω ProviderMessage

-- ============================================================== the client

namespace AnthropicClient

variable {ω φ : Type}

/-- `params.get(key)`, if it is there and not empty. -/
def setting (params : List (String × String)) (key : String) :
    Option String :=
  (params.lookup key).filter (· ≠ "")

def createArgs (api : AnthropicApi ω φ) (model : String) (request : Request) :
    Except Exc (CreateArgs φ) := do
  let maxTokens ← api.int (((setting request.params "maxTokens").or
    (setting request.params "max_tokens")).getD "4096")
  let temperature ← (request.params.lookup "temperature").mapM api.float
  return {
    model
    messages := request.messages
    maxTokens
    system := if request.system = "" then none else some request.system
    tools := if request.tools.isEmpty then none else some request.tools
    temperature }

def ProviderBlock.textBlock : ProviderBlock → Option String
  | .known (.text body) => some body
  | _ => none

def ProviderBlock.toolUse : ProviderBlock → Option ToolUse
  | .known (.toolUse use) => some use
  | _ => none

/-- The response a message is translated into. -/
def translate (msg : ProviderMessage) : LLMResponse where
  textBlocks := msg.content.filterMap ProviderBlock.textBlock
  toolUses := msg.content.filterMap ProviderBlock.toolUse
  stopReason := (msg.stopReason.filter (· ≠ "")).getD "end_turn"
  inputTokens := (msg.usage.map ProviderUsage.inputTokens).getD 0
  outputTokens := (msg.usage.map ProviderUsage.outputTokens).getD 0

def client (api : AnthropicApi ω φ) (model : String) : LLMClient ω where
  complete request := do
    let args ← Py.ofExcept (createArgs api model request)
    let msg ← api.create args
    return translate msg

/-- `AnthropicClient(model, api_key)`, with `ANTHROPIC_API_KEY` as the
environment has it; `connect` is `Anthropic(api_key=key)`. -/
def new (connect : String → Except Exc (AnthropicApi ω φ))
    (environKey : Option String) (model : String) (apiKey : Option String) :
    Except Exc (LLMClient ω) :=
  match ((apiKey.filter (· ≠ "")).or environKey).filter (· ≠ "") with
  | some key => do
      let api ← connect key
      return client api model
  | none => .error ⟨"RuntimeError",
      "No Anthropic API key. Set ANTHROPIC_API_KEY or pass api_key= or set "
        ++ "AGENT_ANVIL_API_KEY_FILE to a file containing the key."⟩

end AnthropicClient

end AgentAnvil.Sdk
