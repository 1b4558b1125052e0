/-
What is left of a tool result that is too long.

The limit is one of bytes, and the bytes before it are decoded with
`errors="replace"`: `decodeHead` is that decoding (`decodeHead_replaced`),
and comes to the characters that fit and one replacement character where
the limit falls inside a character (`decodeHead_eq`).
-/
import AgentAnvil.Lib.Utf8
import AgentAnvil.Sdk.Script

namespace AgentAnvil.Sdk

-- =============================================================== the head

/-- What the first bytes of a text decode to. -/
theorem decodeHead_replaced (room : Nat) (cs : List Char) :
    Utf8.Replaced ((Utf8.encode cs).take room) (decodeHead room cs) := by
  induction cs generalizing room with
  | nil =>
      rw [Utf8.encode, List.flatMap_nil, List.take_nil, decodeHead]
      exact .nil
  | cons c cs ih =>
      have hbytes : (Utf8.encode (c :: cs)).take room
          = (String.utf8EncodeChar c).take room
            ++ (Utf8.encode cs).take (room - c.utf8Size) := by
        rw [← String.length_utf8EncodeChar, ← List.take_append]
        rfl
      rw [hbytes, decodeHead]
      split
      · next hfits =>
          rw [← String.length_utf8EncodeChar] at hfits
          rw [List.take_of_length_le hfits]
          exact (ih _).char
      · next hover =>
          rw [Nat.sub_eq_zero_of_le (Nat.le_of_not_le hover), List.take_zero]
          split
          · next hzero =>
              rw [hzero]
              exact .nil
          · next hpos =>
              exact .malformed (Utf8.malformed_take (Nat.pos_of_ne_zero hpos)
                (Nat.lt_of_not_le hover)) .nil

/-- The end of a text that is cut after these characters: a replacement
character, unless they fill the room. -/
def cutEnd (room : Nat) (p : List Char) : List Char :=
  if (Utf8.encode p).length < room then [Utf8.replacement] else []

/-- Where not all of a text fits. -/
theorem decodeHead_eq {room : Nat} {cs : List Char}
    (hover : room < (Utf8.encode cs).length) :
    decodeHead room cs
      = Utf8.fitting room cs ++ cutEnd room (Utf8.fitting room cs) := by
  induction cs generalizing room with
  | nil => exact absurd hover (Nat.not_lt_zero room)
  | cons c cs ih =>
      rw [decodeHead, Utf8.fitting]
      rw [Utf8.length_encode_cons] at hover
      split
      · next hfits =>
          have hcut : cutEnd room (c :: Utf8.fitting (room - c.utf8Size) cs)
              = cutEnd (room - c.utf8Size)
                (Utf8.fitting (room - c.utf8Size) cs) := by
            unfold cutEnd
            rw [Utf8.length_encode_cons]
            exact if_congr (by omega) rfl rfl
          rw [ih (by omega), hcut, List.cons_append]
      · rw [List.nil_append, cutEnd]
        split
        · next hzero =>
            rw [if_neg]
            rw [hzero]
            exact Nat.not_lt_zero _
        · next hpos =>
            rw [if_pos]
            · rfl
            · exact Nat.pos_of_ne_zero hpos

-- ============================================================= the result

/-- A result as the model sees it: as it is where it fits; where it does
not, the longest front that fits, with a replacement character after it if
the limit falls inside a character. -/
theorem clamp_keeps_front (content : String) (exitCode : Int)
    (isError : Bool) :
    ((Utf8.encode content.toList).length ≤ MAX_INLINE_RESULT_BYTES →
      ToolResult.clamp { content, exitCode, isError, truncated := false }
        = { content, exitCode, isError, truncated := false }) ∧
    (MAX_INLINE_RESULT_BYTES < (Utf8.encode content.toList).length →
      ∃ p, Utf8.LongestFitting MAX_INLINE_RESULT_BYTES content.toList p ∧
        ToolResult.clamp { content, exitCode, isError, truncated := false }
          = { content := String.ofList (p ++ cutEnd MAX_INLINE_RESULT_BYTES p)
                ++ "\n[truncated]"
              exitCode, isError, truncated := true }) := by
  unfold ToolResult.clamp
  rw [Utf8.utf8ByteSize_eq]
  constructor
  · intro hfits
    rw [if_neg (Nat.not_lt.mpr hfits)]
  · intro hover
    refine ⟨_, Utf8.fitting_longest _ _, ?_⟩
    rw [if_pos hover, decodeHead_eq hover]

section

variable {ω : Type} {tool : Tool ω} {args : List (String × Json)}
  {rt rt' : Runtime ω} {r : ToolResult}

/-- A tool call that returns returns the result of `_run`, clamped. -/
theorem Tool.run_returns (hrun : tool.run args rt = (.ok r, rt')) :
    ∃ result,
      (tool.cls._run tool.timeoutSeconds args rt.world).outcome
        = .ok result ∧
      r = result.clamp := by
  rw [tool.run_apply args rfl] at hrun
  rcases Py.bind_cases hrun with ⟨_, rt₁, -, hresult⟩ | ⟨exc, -, hexc⟩
  · rw [Py.ofExcept_apply] at hresult
    injection hresult with hresult _
    cases houtcome
        : (tool.cls._run tool.timeoutSeconds args rt.world).outcome with
    | error exc =>
        rw [houtcome] at hresult
        cases hresult
    | ok result =>
        rw [houtcome] at hresult
        exact ⟨result, rfl, (Except.ok.inj hresult).symm⟩
  · cases hexc

/-- A result that fits is left as it is. Of one that does not the longest
front that fits is kept, with a replacement character after it if the limit
falls inside a character. -/
theorem truncation_keeps_front {content : String} {exitCode : Int}
    {isError : Bool}
    (hran : (tool.cls._run tool.timeoutSeconds args rt.world).outcome
      = .ok { content, exitCode, isError, truncated := false })
    (hrun : tool.run args rt = (.ok r, rt')) :
    ((Utf8.encode content.toList).length ≤ MAX_INLINE_RESULT_BYTES →
      r = { content, exitCode, isError, truncated := false }) ∧
    (MAX_INLINE_RESULT_BYTES < (Utf8.encode content.toList).length →
      ∃ p, Utf8.LongestFitting MAX_INLINE_RESULT_BYTES content.toList p ∧
        r = { content := String.ofList (p ++ cutEnd MAX_INLINE_RESULT_BYTES p)
                ++ "\n[truncated]"
              exitCode, isError, truncated := true }) := by
  obtain ⟨result, hresult, rfl⟩ := Tool.run_returns hrun
  rw [hran] at hresult
  cases hresult
  exact clamp_keeps_front content exitCode isError

end

-- ================================================================ examples

/-- A tool that always returns this. -/
def fixedTool (content : String) : Tool Unit where
  cls := {
    name := "fixed"
    description := "Returns a fixed text."
    inputSchema := .obj []
    _run := fun _ _ world => {
      mutations := []
      outcome := .ok { content, exitCode := 0, isError := false,
                       truncated := false }
      world } }
  timeoutSeconds := 60

def fixedRuntime : Runtime Unit where
  events := EventWriter.new "t1" (.system (fun _ => "") (fun _ => 0) 0)
  world := ()

/-- A text of one byte more than fits, which ends in a character of two. -/
def wideEnd : List Char := List.replicate 65535 'a' ++ ['é']

theorem length_encode_replicate (n : Nat) (cs : List Char) :
    (Utf8.encode (List.replicate n 'a' ++ cs)).length
      = n + (Utf8.encode cs).length := by
  induction n with
  | zero => rw [List.replicate_zero, List.nil_append, Nat.zero_add]
  | succ n ih =>
      rw [List.replicate_succ, List.cons_append, Utf8.length_encode_cons, ih]
      show 1 + _ = _
      omega

/-- Characters of one byte are read one by one, and use up as much room. -/
theorem decodeHead_replicate (n room : Nat) (cs : List Char) :
    decodeHead (n + room) (List.replicate n 'a' ++ cs)
      = List.replicate n 'a' ++ decodeHead room cs := by
  induction n with
  | zero => rw [List.replicate_zero, Nat.zero_add]; rfl
  | succ n ih =>
      have hsize : 'a'.utf8Size = 1 := rfl
      rw [List.replicate_succ, List.cons_append, decodeHead, if_pos, hsize,
        Nat.succ_add_sub_one, ih]
      · rfl
      · rw [hsize]
        omega

theorem wideEnd_over : MAX_INLINE_RESULT_BYTES
    < (Utf8.encode (String.ofList wideEnd).toList).length := by
  rw [String.toList_ofList, wideEnd, length_encode_replicate]
  decide

/-- The limit falls inside the sample's last character. -/
theorem truncation_keeps_front_wideEnd :
    ∃ p, Utf8.LongestFitting MAX_INLINE_RESULT_BYTES
        (String.ofList wideEnd).toList p ∧
      ToolResult.clamp { content := String.ofList wideEnd, exitCode := 0,
                         isError := false, truncated := false }
        = { content := String.ofList (p ++ cutEnd MAX_INLINE_RESULT_BYTES p)
              ++ "\n[truncated]"
            exitCode := 0
            isError := false
            truncated := true } := by
  have hrun : (fixedTool (String.ofList wideEnd)).run [] fixedRuntime
      = (.ok (ToolResult.clamp _), fixedRuntime) := rfl
  exact (truncation_keeps_front rfl hrun).2 wideEnd_over

/-- The limit falls inside the last character, and what is returned has a
character that the text has not. -/
theorem truncation_adds_replacement :
    ∃ r, (fixedTool (String.ofList wideEnd)).run [] fixedRuntime
        = (.ok r, fixedRuntime) ∧
      r.truncated = true ∧
      ¬ ∃ p, p <+: wideEnd ∧
        r.content = String.ofList p ++ "\n[truncated]" := by
  refine ⟨_, rfl, ?_⟩
  unfold ToolResult.clamp
  rw [Utf8.utf8ByteSize_eq, if_pos wideEnd_over]
  refine ⟨rfl, ?_⟩
  rintro ⟨p, hp, hcontent⟩
  have hhead : decodeHead MAX_INLINE_RESULT_BYTES wideEnd
      = List.replicate 65535 'a' ++ [Utf8.replacement] :=
    decodeHead_replicate 65535 1 ['é']
  have hlists := congrArg String.toList hcontent
  rw [String.toList_ofList, hhead, String.toList_append, String.toList_append,
    String.toList_ofList, String.toList_ofList, List.append_left_inj,
    String.toList_ofList] at hlists
  have hmem : Utf8.replacement ∈ wideEnd := by
    refine hp.subset ?_
    rw [← hlists]
    exact List.mem_append_right _ (List.mem_singleton_self _)
  rcases List.mem_append.mp hmem with hfront | hend
  · exact absurd (List.eq_of_mem_replicate hfront) (by decide)
  · exact absurd (List.mem_singleton.mp hend) (by decide)

end AgentAnvil.Sdk
