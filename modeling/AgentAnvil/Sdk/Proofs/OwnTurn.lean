/-
What becomes of the model's own turn.

A response keeps the text blocks and the tool calls of a message in two
lists, so the assistant message rebuilt from it has the text first and the
calls after it, each kind in its order (`rebuilt_turn`). That is the
message itself when no text comes after a call.
-/
import AgentAnvil.Sdk.Anthropic
import AgentAnvil.Sdk.Loop

namespace AgentAnvil.Sdk

-- ==================================================== statement vocabulary

def ModelBlock.isText : ModelBlock → Bool
  | text _ => true
  | toolUse _ => false

/-- The block as an entry of a message sent to the provider. -/
def ModelBlock.block : ModelBlock → Block
  | text body => .text body
  | toolUse use => .toolUse use

/-- The assistant message whose content is these blocks. -/
def assistantTurn (blocks : List ModelBlock) : Message where
  role := .assistant
  content := .blocks (blocks.map ModelBlock.block)

/-- The text blocks, and after them the tool calls. -/
def textFirst (blocks : List ModelBlock) : List ModelBlock :=
  blocks.filter ModelBlock.isText
    ++ blocks.filter fun block => !block.isText

-- ================================================================ two lists

/-- Taking the elements of a kind to the front changes a list unless they
are at the front. -/
theorem filter_append_filter_eq_iff {α : Type} (p : α → Bool) (l : List α) :
    l.filter p ++ l.filter (fun a => !p a) = l
      ↔ l.Pairwise fun a b => p b = true → p a = true := by
  induction l with
  | nil => simp
  | cons a l ih =>
      rw [List.pairwise_cons]
      cases ha : p a with
      | true => simp [ha, ih]
      | false =>
          have hfirst : (a :: l).filter p = l.filter p := by simp [ha]
          have hothers : (a :: l).filter (fun a => !p a)
              = a :: l.filter fun a => !p a := by simp [ha]
          rw [hfirst, hothers]
          constructor
          · intro h
            -- an element of the kind would come before `a`
            have hnone : l.filter p = [] := by
              cases hl : l.filter p with
              | nil => rfl
              | cons b rest =>
                  rw [hl, List.cons_append] at h
                  injection h with hb _
                  have hmem : b ∈ l.filter p := by
                    rw [hl]
                    exact List.mem_cons_self
                  rw [hb, List.mem_filter, ha] at hmem
                  cases hmem.2
            rw [List.filter_eq_nil_iff] at hnone
            refine ⟨fun b hb hpb => absurd hpb (hnone b hb), ?_⟩
            rw [← ih]
            rw [List.filter_eq_nil_iff.mpr hnone, List.nil_append] at h ⊢
            injection h
          · rintro ⟨hall, hrest⟩
            have hnone : l.filter p = [] := by
              rw [List.filter_eq_nil_iff]
              intro b hb hpb
              have := hall b hb hpb
              cases this
            rw [← ih, hnone, List.nil_append] at hrest
            rw [hnone, List.nil_append, hrest]

/-- Blocks of the model are told apart by their images. -/
theorem block_injective : Function.Injective ModelBlock.block := by
  intro a b h
  cases a <;> cases b <;> cases h <;> rfl

open AnthropicClient in
/-- Where all blocks are known, the texts are collected in their order. -/
theorem textBlocks_known (blocks : List ModelBlock) :
    ((blocks.map .known).filterMap ProviderBlock.textBlock).map Block.text
      = (blocks.filter ModelBlock.isText).map ModelBlock.block := by
  induction blocks with
  | nil => rfl
  | cons block blocks ih =>
      cases block with
      | text body => exact congrArg (Block.text body :: ·) ih
      | toolUse use => exact ih

open AnthropicClient in
theorem toolUses_known (blocks : List ModelBlock) :
    ((blocks.map .known).filterMap ProviderBlock.toolUse).map Block.toolUse
      = (blocks.filter fun block => !block.isText).map ModelBlock.block := by
  induction blocks with
  | nil => rfl
  | cons block blocks ih =>
      cases block with
      | text body => exact ih
      | toolUse use => exact congrArg (Block.toolUse use :: ·) ih

/-- The message that is rebuilt has the text first. -/
theorem rebuilt_message (msg : ProviderMessage) (blocks : List ModelBlock)
    (hmsg : msg.content = blocks.map .known) :
    buildAssistantMessage (AnthropicClient.translate msg)
      = assistantTurn (textFirst blocks) := by
  rw [assistantTurn, buildAssistantMessage, AnthropicClient.translate, textFirst,
    List.map_append, ← textBlocks_known, ← toolUses_known, hmsg]

variable {ω φ : Type}

/-- Whatever text and tool_use blocks the provider answers with, the
assistant message holds the same blocks, text first; it is the answer
itself if and only if no text comes after a tool_use block. -/
theorem rebuilt_turn (api : AnthropicApi ω φ) (model : String)
    (request : Request) {args : CreateArgs φ}
    (hargs : AnthropicClient.createArgs api model request = .ok args)
    {world world' : ω} {msg : ProviderMessage}
    (hcreate : api.create args world = (.ok msg, world'))
    (blocks : List ModelBlock) (hmsg : msg.content = blocks.map .known) :
    ∃ resp, (AnthropicClient.client api model).complete request world
        = (.ok resp, world') ∧
      buildAssistantMessage resp = assistantTurn (textFirst blocks) ∧
      (buildAssistantMessage resp = assistantTurn blocks
        ↔ blocks.Pairwise fun a b => b.isText = true → a.isText = true) := by
  refine ⟨AnthropicClient.translate msg, ?_, rebuilt_message msg blocks hmsg,
    ?_⟩
  · show (Py.ofExcept _ >>= _) world = _
    rw [hargs, Py.bind_ok (Py.ofExcept_apply _ _), Py.bind_ok hcreate]
    rfl
  · rw [rebuilt_message msg blocks hmsg, ← filter_append_filter_eq_iff]
    constructor
    · intro h
      injection h with _ hcontent
      injection hcontent with hblocks
      exact List.map_injective_iff.mpr block_injective hblocks
    · intro h
      unfold textFirst
      rw [h]

-- ================================================================ examples

/-- A provider that always answers with the same message. -/
def answering (blocks : List ModelBlock) : AnthropicApi Unit Unit where
  int _ := .ok 4096
  float _ := .ok ()
  create _ := return {
    content := blocks.map .known
    stopReason := some "tool_use"
    usage := some ⟨3, 1⟩ }

def hi : Request where
  system := ""
  messages := [userPrompt "hi"]
  tools := []
  params := []

/-- A tool call with text before it. -/
theorem rebuilt_turn_demo :
    ∃ resp, (AnthropicClient.client (answering [.text "listing",
        .toolUse ⟨"tu-1", "bash", []⟩]) "claude").complete hi ()
          = (.ok resp, ()) ∧
      buildAssistantMessage resp = assistantTurn [.text "listing",
        .toolUse ⟨"tu-1", "bash", []⟩] := by
  obtain ⟨resp, hresp, hmessage, -⟩ := rebuilt_turn (answering
    [.text "listing", .toolUse ⟨"tu-1", "bash", []⟩]) "claude" hi rfl rfl
    [.text "listing", .toolUse ⟨"tu-1", "bash", []⟩] rfl
  exact ⟨resp, hresp, hmessage⟩

/-- Text after a tool call is moved before it. -/
theorem text_moved_before_call :
    ∃ resp, (AnthropicClient.client (answering
        [.toolUse ⟨"tu-1", "bash", []⟩, .text "listing"])
          "claude").complete hi () = (.ok resp, ()) ∧
      buildAssistantMessage resp ≠ assistantTurn
        [.toolUse ⟨"tu-1", "bash", []⟩, .text "listing"] := by
  refine ⟨_, rfl, ?_⟩
  intro h
  injection h with _ hcontent
  injection hcontent with hblocks
  injection hblocks with hfirst
  cases hfirst

end AgentAnvil.Sdk
