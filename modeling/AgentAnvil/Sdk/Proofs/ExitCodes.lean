/-
The exit code of a command, from the shell to the model.

`subprocess.run` in text mode decodes what the command wrote before it
gives its return code, so a command that wrote something else than UTF-8
has no return code for `BashTool._run`: the decoding error goes through it,
and `_run_one_tool` reports that error under an exit code of its own
(`bash_reports_exit_iff`).
-/
import AgentAnvil.Sdk.Builtins
import AgentAnvil.Sdk.Proofs.Truncation
import AgentAnvil.Sdk.Transcript

namespace AgentAnvil.Sdk

open Fs

-- =========================================================== the streams

/-- The text of a stream, if it is UTF-8. -/
def streamText (bytes : List UInt8) : Option String :=
  (Utf8.decode bytes).map fun cs =>
    String.ofList (Lines.universalNewlines cs)

/-- A stream that does not decode; `describe` is the text of the error. -/
def decodeError (describe : List UInt8 → String) (bytes : List UInt8) :
    Exc :=
  ⟨"UnicodeDecodeError", describe bytes⟩

/-- What `subprocess.run(..., text=True)` makes of a command that ends: it
decodes the one stream and then the other. -/
def communicated (describe : List UInt8 → String) (returncode : Int)
    (stdout stderr : List UInt8) : ShellOutcome :=
  match streamText stdout with
  | none => .raised (decodeError describe stdout)
  | some out =>
      match streamText stderr with
      | none => .raised (decodeError describe stderr)
      | some err => .completed returncode out err

/-- What a stream has of text. -/
def readable (bytes : List UInt8) : String := (streamText bytes).getD ""

/-- The first stream that does not decode. -/
def undecodable (stdout stderr : List UInt8) : List UInt8 :=
  if streamText stdout = none then stdout else stderr

-- ============================================================ what is told

/-- The one output and then the other, with something in between if there
are both. -/
def OneThenOther (out err whole : String) : Prop :=
  ∃ between, whole = out ++ between ++ err ∧
    (out = "" ∨ err = "" → between = "")

/-- A text up to the limit of 65536 bytes: all of it, or the longest front
of it that fits, with a replacement character if a character is cut there,
and a note. -/
structure UpToLimit (whole shown : String) : Prop where
  fits : (Utf8.encode whole.toList).length ≤ 65536 → shown = whole
  cut : 65536 < (Utf8.encode whole.toList).length →
    ∃ p, Utf8.LongestFitting 65536 whole.toList p ∧
      shown = String.ofList (p ++ cutEnd 65536 p) ++ "\n[truncated]"

/-- A call of a tool adds two events to these, of which the second tells
this return code, and answers with a block that is an error if and only if
the code is not 0, and carries the one output and then the other, up to the
limit. -/
structure ReportsExit {ω : Type} (returncode : Int) (out err : String)
    (id : String) (lines : List Event)
    (called : Except Exc Block × Runtime ω) : Prop where
  event : ∃ start finish result resultTruncated latencyMs,
    called.2.events.lines = lines ++ [start, finish] ∧
      finish.data
        = .toolCallEnd id result resultTruncated returncode latencyMs
  block : ∃ whole shown isError,
    called.1 = .ok (.toolResult id shown isError) ∧
      OneThenOther out err whole ∧ UpToLimit whole shown ∧
      (isError = true ↔ returncode ≠ 0)

/-- `BashTool._run` puts the streams together so. -/
theorem BashTool.combined_oneThenOther (out err : String) :
    OneThenOther out err (BashTool.combined out err) := by
  unfold BashTool.combined
  by_cases herr : err = ""
  · rw [if_pos herr, herr]
    refine ⟨"", ?_, fun _ => rfl⟩
    rw [String.append_empty, String.append_empty]
  · by_cases hout : out = ""
    · rw [if_neg herr, if_pos hout, hout]
      refine ⟨"", ?_, fun _ => rfl⟩
      rw [String.append_empty, String.empty_append]
    · rw [if_neg herr, if_neg hout]
      exact ⟨"\n[stderr]\n", rfl, fun h => absurd h (not_or.mpr ⟨hout, herr⟩)⟩

/-- Without the one output or the other, there is nothing in between. -/
theorem oneThenOther_iff {out err whole : String} (h : out = "" ∨ err = "") :
    OneThenOther out err whole ↔ whole = out ++ err := by
  constructor
  · rintro ⟨between, rfl, hbetween⟩
    rw [hbetween h, String.append_empty]
  · rintro rfl
    exact ⟨"", by rw [String.append_empty], fun _ => rfl⟩

/-- `Tool.run` cuts a result so. -/
theorem ToolResult.clamp_upToLimit (result : ToolResult) :
    UpToLimit result.content result.clamp.content := by
  unfold ToolResult.clamp
  rw [Utf8.utf8ByteSize_eq]
  constructor
  · intro hfits
    have hroom : ¬ MAX_INLINE_RESULT_BYTES
        < (Utf8.encode result.content.toList).length := Nat.not_lt.mpr hfits
    rw [if_neg hroom]
  · intro hover
    have hroom : MAX_INLINE_RESULT_BYTES
        < (Utf8.encode result.content.toList).length := hover
    refine ⟨_, Utf8.fitting_longest _ _, ?_⟩
    rw [if_pos hroom]
    exact congrArg (fun cs => String.ofList cs ++ "\n[truncated]")
      (decodeHead_eq hroom)

section

variable {ω : Type} {tools : List (Tool ω)} {tool : Tool ω} {tu : ToolUse}
  {rt : Runtime ω} {ran : ToolRun ω}

/-- What a call of a tool that emits nothing tells is what it came to. -/
theorem reports_iff (htool : toolMap tools tu.name = some tool)
    (hran : tool.cls._run tool.timeoutSeconds tu.input rt.world = ran)
    (hquiet : ran.mutations = []) (hlasts : rt.events.Lasts 2)
    (returncode : Int) (out err : String) :
    ReportsExit returncode out err tu.id rt.events.lines
        (runOneTool tools tu rt)
      ↔ (ran.result tu.name).exitCode = returncode ∧
        ((ran.result tu.name).isError = true ↔ returncode ≠ 0) ∧
        ∃ whole, OneThenOther out err whole ∧
          UpToLimit whole (ran.result tu.name).content := by
  have hcall : toolCall tools tu rt.world
      = (.executed tu [] (ran.result tu.name), ran.world) := by
    simp only [toolCall, htool, hran, hquiet]
  have hrun := runOneTool_eq tools tu rt (by rw [hcall]; exact hlasts)
  rw [hcall] at hrun
  have hlines : ∃ start finish latencyMs,
      (perform (ToolCall.executed tu [] (ran.result tu.name)).script
          rt.events).lines = rt.events.lines ++ [start, finish] ∧
        finish.data = .toolCallEnd tu.id (ran.result tu.name).content
          (ran.result tu.name).truncated (ran.result tu.name).exitCode
          latencyMs :=
    ⟨_, _, _, perform_lines _ _, rfl⟩
  obtain ⟨start, finish, latencyMs, hlines, hfinish⟩ := hlines
  rw [hrun]
  constructor
  · rintro ⟨⟨start', finish', result, resultTruncated, latencyMs', hadded,
      hfinish'⟩, whole, shown, isError, hblock, hwhole, hshown, herror⟩
    have hnew := List.append_cancel_left (hlines.symm.trans hadded)
    injection hnew with _ hnew
    injection hnew with hsame _
    rw [← hsame, hfinish] at hfinish'
    injection hfinish' with _ _ _ hcode _
    injection hblock with hblock
    injection hblock with _ hcontent hisError
    rw [hisError, hcontent]
    exact ⟨hcode, herror, whole, hwhole, hshown⟩
  · rintro ⟨rfl, herror, whole, hwhole, hshown⟩
    exact ⟨⟨start, finish, _, _, _, hlines, hfinish⟩, whole, _, _, rfl, hwhole,
      hshown, herror⟩

end

-- ================================================================ the tool

section

variable {κ : Type} {host : Host} {workspace : Path}
  {tools : List (Tool (Disk × κ))} {tool : Tool (Disk × κ)} {tu : ToolUse}
  {rt : Runtime (Disk × κ)} {command : String}
  {describe : List UInt8 → String} {returncode : Int}
  {stdout stderr : List UInt8}

/-- A command that is there is run by the shell. -/
theorem BashTool.run_command {timeoutSeconds : Int}
    {args : List (String × Json)} {world : Disk × κ} {outcome : ShellOutcome}
    (hcommand : stringArgument args "command" = some command)
    (hblank : Lines.strip command.toList ≠ [])
    (hends : (host.shell workspace timeoutSeconds command world.1).1
      = outcome) :
    ((BashTool.cls host workspace).beside κ)._run timeoutSeconds args world
      = { mutations := []
          outcome := BashTool.result timeoutSeconds outcome
          world := ((host.shell workspace timeoutSeconds command world.1).2,
            world.2) } := by
  have hrun : BashTool._run host workspace timeoutSeconds args world.1
      = { mutations := []
          outcome := BashTool.result timeoutSeconds
            (host.shell workspace timeoutSeconds command world.1).1
          world :=
            (host.shell workspace timeoutSeconds command world.1).2 } := by
    rw [BashTool._run, hcommand, Option.filter_some_pos]
    exact decide_eq_true hblank
  rw [hends] at hrun
  show (let ran := BashTool._run _ _ _ _ _
    ToolRun.mk ran.mutations ran.outcome (ran.world, _)) = _
  rw [hrun]

/-- What decodes is what there is, and else there is the error. -/
theorem communicated_cases (describe : List UInt8 → String)
    (returncode : Int) (stdout stderr : List UInt8) :
    (∃ out err, streamText stdout = some out ∧ streamText stderr = some err ∧
        communicated describe returncode stdout stderr
          = .completed returncode out err) ∨
      ¬ (streamText stdout ≠ none ∧ streamText stderr ≠ none) ∧
        communicated describe returncode stdout stderr
          = .raised (decodeError describe (undecodable stdout stderr)) := by
  unfold communicated undecodable
  cases hout : streamText stdout with
  | none => exact Or.inr ⟨fun h => h.1 rfl, rfl⟩
  | some out =>
      cases herr : streamText stderr with
      | none => exact Or.inr ⟨fun h => h.2 rfl, rfl⟩
      | some err => exact Or.inl ⟨out, err, rfl, rfl, rfl⟩

end

-- ================================================================ examples

/-- The text of the error in the two examples. -/
def describeFirst (_ : List UInt8) : String :=
  "'utf-8' codec can't decode byte 0xff in position 0: invalid start byte"

/-- A host on which every command ends with this code and these streams. -/
def shellHost (returncode : Int) (stdout stderr : List UInt8) : Host where
  toPlatform := .walking 8
  shell := fun _ _ _ d =>
    (communicated describeFirst returncode stdout stderr, d)
  repr := fun _ => ""

def bashTool (host : Host) : Tool (Disk × Unit) where
  cls := (BashTool.cls host (Path.parse "/ws")).beside Unit
  timeoutSeconds := 60

def bashUse : ToolUse := ⟨"tu-1", "bash", [("command", .str "make")]⟩

def bashRuntime : Runtime (Disk × Unit) where
  events := EventWriter.new "task-1" everyMs
  world := (.ofTree Tree.empty, ())

end AgentAnvil.Sdk
