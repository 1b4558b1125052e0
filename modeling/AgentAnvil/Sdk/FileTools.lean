/-
The file tools (`tools/file_read.py`, `tools/file_write.py`,
`tools/file_edit.py`), and what of `tools/base.py` only they use.

`Platform` is what the tools are given: how paths are resolved, how text is
encoded, and the words of the decoder's complaints. Python's text may hold
lone surrogates, which no `String` does; that a text cannot be encoded is
therefore the platform's to say. `isinstance(x, int)` holds of the
booleans, which are written `True` and `False`.
-/
import AgentAnvil.Lib.Disk
import AgentAnvil.Lib.Lines
import AgentAnvil.Lib.Utf8
import AgentAnvil.Sdk.Tools

namespace AgentAnvil.Sdk

open Fs

-- =============================================================== platform

structure Platform where
  /-- the directory the process runs in -/
  cwd : Location
  cwd_entries : ∀ name ∈ cwd, isEntry name = true
  /-- `path.resolve()` -/
  resolve : Tree → Path → Except Exc Location
  resolve_canonical : ∀ t path q, resolve t path = .ok q →
    Canonical t cwd path q
  /-- `text.encode("utf-8")` -/
  encode : String → Except Exc (List UInt8)
  encode_utf8 : ∀ text bytes, encode text = .ok bytes →
    bytes = Utf8.encode text.toList
  /-- `str` of the error `decode` raises -/
  decodeError : List UInt8 → String

namespace Platform

variable (p : Platform)

def resolved (path : Path) : Py Disk Location := do
  sysCall
  let d ← Py.get
  Py.ofExcept (p.resolve d.tree path)

def encoded (text : String) : Py Disk (List UInt8) :=
  Py.ofExcept (p.encode text)

end Platform

/-- A platform whose paths are walked with so many steps, and that encodes
every text. -/
def Platform.walking (fuel : Nat) : Platform where
  cwd := []
  cwd_entries := fun _ h => absurd h List.not_mem_nil
  resolve t path :=
    match realpath t fuel (path.start []) path.parts with
    | some q => .ok q
    | none => .error ⟨"RuntimeError", "Symlink loop"⟩
  resolve_canonical := by
    intro t path q h
    split at h
    next q' hwalk =>
      rw [← Except.ok.inj h]
      exact walk_of_realpath hwalk
    next => cases h
  encode text := .ok (Utf8.encode text.toList)
  encode_utf8 := fun _ _ h => (Except.ok.inj h).symm
  decodeError _ := ""

-- ============================================================== arguments

/-- An `int`, and how it is written. -/
structure PyInt where
  value : Int
  text : String
  deriving DecidableEq, Repr

def PyInt.of (n : Int) : PyInt := ⟨n, toString n⟩

/-- `x`, if `isinstance(x, int)`. -/
def asInt : Json → Option PyInt
  | .int n => some (.of n)
  | .bool true => some ⟨1, "True"⟩
  | .bool false => some ⟨0, "False"⟩
  | _ => none

/-- `args.get(key)`, if it is a string. -/
def stringArgument (args : List (String × Json)) (key : String) :
    Option String :=
  match args.lookup key with
  | some (.str s) => some s
  | _ => none

/-- `args.get(key)`, if it is an integer. -/
def intArgument (args : List (String × Json)) (key : String) :
    Option PyInt :=
  (args.lookup key).bind asInt

/-- `args.get("path")`, if it is a string and not empty. -/
def pathArgument (args : List (String × Json)) : Option String :=
  (stringArgument args "path").filter (· ≠ "")

-- ================================================================ results

abbrev FileResult := List FileMutation × ToolResult

def refused (content : String) : FileResult :=
  ([], { content, exitCode := 2, isError := true, truncated := false })

def succeeded (mutations : List FileMutation) (content : String) :
    FileResult :=
  (mutations,
    { content, exitCode := 0, isError := false, truncated := false })

def sha256Bytes (data : List UInt8) : String :=
  "sha256:" ++ Sha256.hexdigest (Sha256.sum256 data)

/-- The event `emit_file_mutation` emits. -/
def fileMutation (path : Location) (workspace : Path) (operation : String)
    (sizeBefore sizeAfter : Nat) (contentsAfter : List UInt8) :
    FileMutation where
  path := textFrom workspace path
  operation := operation
  sizeBefore := sizeBefore
  sizeAfter := sizeAfter
  hashAfter := if operation ≠ "delete" then sha256Bytes contentsAfter else ""

/-- A body that returns its result and the events it emitted before. -/
def asToolRun (body : Py Disk FileResult) (d : Disk) : ToolRun Disk :=
  match body d with
  | (.ok (mutations, result), d) => ⟨mutations, .ok result, d⟩
  | (.error exc, d) => ⟨[], .error exc, d⟩

/-- `(workspace / path).resolve()`, if it is below `workspace.resolve()`. -/
def resolveBelow (p : Platform) (workspace : Path) (path : String) :
    Py Disk (Option Location) := do
  let target ← p.resolved (workspace.join (Path.parse path))
  let root ← p.resolved workspace
  return if root <+: target then some target else none

/-- The check all three tools start with, and what they do after it. -/
def inWorkspace (p : Platform) (workspace : Path) (tool path : String)
    (next : Location → Py Disk FileResult) : Py Disk FileResult := do
  match ← resolveBelow p workspace path with
  | none => return refused (tool ++ ": path escapes workspace: " ++ path)
  | some target => next target

-- ============================================================== file_read

namespace FileReadTool

def name : String := "file_read"

def MAX_FILE_BYTES : Nat := 1024 * 1024

/-- `f"{i}: {lines[i - 1]}"`. -/
def numbered (lines : List (List Char)) (i : Nat) : List Char :=
  Nat.toDigits 10 i ++ ':' :: ' ' :: lines.getD (i - 1) []

/-- The lines from `start` to `stop`. -/
def formatRange (lines : List (List Char)) (start stop : PyInt) :
    FileResult :=
  let start := if 1 < start.value then start else .of 1
  let stop := if stop.value < lines.length then stop else .of lines.length
  if stop.value < start.value ∧ lines ≠ [] then
    refused ("file_read: empty range start_line=" ++ start.text
      ++ " end_line=" ++ stop.text)
  else
    succeeded [] (String.ofList (['\n'].intercalate
      ((List.range' start.value.toNat
        (stop.value + 1 - start.value).toNat).map (numbered lines))))

/-- The lines that are asked for. -/
def format (args : List (String × Json)) (lines : List (List Char)) :
    FileResult :=
  match (args.lookup "start_line").elim (some (.of 1)) asInt,
    (args.lookup "end_line").elim (some (.of lines.length)) asInt with
  | some start, some stop => formatRange lines start stop
  | _, _ => refused "file_read: start_line / end_line must be integers"

/-- What is done with a file of the workspace. -/
def readTarget (p : Platform) (args : List (String × Json)) (path : String)
    (target : Location) : Py Disk FileResult := do
  if ← pathExists target then
    if ← isFile target then
      let size ← statSize target
      if MAX_FILE_BYTES < size then
        return refused ("file_read: file too large (" ++ toString size
          ++ " bytes, max " ++ toString MAX_FILE_BYTES ++ ")")
      else
        let bytes ← readBytes target
        match Utf8.decode bytes with
        | none =>
            return refused
              ("file_read: not utf-8 decodable: " ++ p.decodeError bytes)
        | some text => return format args (Lines.textLines text)
    else return refused ("file_read: not a regular file: " ++ path)
  else return refused ("file_read: not found: " ++ path)

def _run (p : Platform) (workspace : Path) (args : List (String × Json)) :
    Py Disk FileResult :=
  match pathArgument args with
  | none => return refused "file_read: missing 'path'"
  | some path =>
      inWorkspace p workspace name path (readTarget p args path)

end FileReadTool

-- ============================================================= file_write

namespace FileWriteTool

def name : String := "file_write"

/-- `target.stat().st_size if target.exists() else 0`. -/
def sizeIfExists (target : Location) : Py Disk Nat := do
  if ← pathExists target then statSize target else return 0

/-- What is done at a location of the workspace. -/
def writeTarget (p : Platform) (workspace : Path) (path content : String)
    (target : Location) : Py Disk FileResult := do
  let sizeBefore ← sizeIfExists target
  let operation := if ← pathExists target then "edit" else "create"
  mkdirs target.dropLast
  let encoded ← p.encoded content
  writeBytes target encoded
  return succeeded
    [fileMutation target workspace operation sizeBefore encoded.length
      encoded]
    ("file_write: wrote " ++ toString encoded.length ++ " bytes to " ++ path)

def _run (p : Platform) (workspace : Path) (args : List (String × Json)) :
    Py Disk FileResult :=
  match pathArgument args with
  | none => return refused "file_write: missing 'path'"
  | some path =>
      match stringArgument args "content" with
      | none => return refused "file_write: 'content' must be a string"
      | some content =>
          inWorkspace p workspace name path
            (writeTarget p workspace path content)

end FileWriteTool

-- ============================================================== file_edit

namespace FileEditTool

def name : String := "file_edit"

/-- `new_content.split("\n") if new_content else []`. -/
def newLinesSplit (newContent : List Char) : List (List Char) :=
  if newContent = [] then [] else newContent.splitOn '\n'

/-- The lines joined, and a final newline if the file had one. -/
def joined (endedWithNewline : Bool) (edited : List (List Char)) :
    List Char :=
  let newText := ['\n'].intercalate edited
  if endedWithNewline ∧ newText.getLast? ≠ some '\n' then newText ++ ['\n']
  else newText

/-- The new text of a file, or why the edit is refused. -/
def edited (text : List Char) (start stop : PyInt)
    (newContent : List Char) : Except String (List Char) :=
  let contentLines := Lines.newlineLines text
  let n := contentLines.length
  let endedWithNewline := text.getLast? = some '\n'
  if (n + 1 : Int) < start.value then
    .error ("file_edit: start_line " ++ start.text
      ++ " is past EOF (file has " ++ toString n
      ++ " lines). To append, use start_line=" ++ toString (n + 1) ++ ".")
  else if (n : Int) < start.value then
    if stop.value < start.value then
      .error ("file_edit: end_line " ++ stop.text ++ " < start_line "
        ++ start.text)
    else
      .ok (joined endedWithNewline
        (contentLines ++ newLinesSplit newContent))
  else
    let endClamped := min stop.value n
    .ok (joined endedWithNewline
      (contentLines.take (start.value - 1).toNat
        ++ newLinesSplit newContent ++ contentLines.drop endClamped.toNat))

/-- `f"{min(end, n) if start <= n else end}"`. -/
def lastText (n : Nat) (start stop : PyInt) : String :=
  if start.value ≤ n ∧ (n : Int) < stop.value then toString n else stop.text

/-- What is done with something in the workspace. -/
def editTarget (p : Platform) (workspace : Path) (start stop : PyInt)
    (newContent : String) (target : Location) : Py Disk FileResult := do
  let originalBytes ← readBytes target
  match Utf8.decode originalBytes with
  | none =>
      return refused
        ("file_edit: not utf-8 decodable: " ++ p.decodeError originalBytes)
  | some text =>
      match edited text start stop newContent.toList with
      | .error content => return refused content
      | .ok newText => do
          let encoded ← p.encoded (String.ofList newText)
          writeBytes target encoded
          return succeeded
            [fileMutation target workspace "edit" originalBytes.length
              encoded.length encoded]
            ("file_edit: replaced lines " ++ start.text ++ "-"
              ++ lastText (Lines.newlineLines text).length start stop
              ++ " (" ++ toString originalBytes.length ++ " -> "
              ++ toString encoded.length ++ " bytes)")

/-- What is done with a range and a text that are well-formed. -/
def editRange (p : Platform) (workspace : Path) (path : String)
    (start stop : PyInt) (newContent : String) : Py Disk FileResult :=
  if start.value < 1 ∨ stop.value < start.value then
    return refused ("file_edit: invalid range start_line=" ++ start.text
      ++ " end_line=" ++ stop.text)
  else
    inWorkspace p workspace name path fun target => do
      if ← pathExists target then
        editTarget p workspace start stop newContent target
      else return refused ("file_edit: not found: " ++ path)

def _run (p : Platform) (workspace : Path) (args : List (String × Json)) :
    Py Disk FileResult :=
  match pathArgument args with
  | none => return refused "file_edit: missing 'path'"
  | some path =>
      match intArgument args "start_line", intArgument args "end_line" with
      | some start, some stop =>
          match stringArgument args "new_content" with
          | none => return refused "file_edit: 'new_content' must be a string"
          | some newContent =>
              editRange p workspace path start stop newContent
      | _, _ =>
          return refused "file_edit: start_line / end_line must be integers"

end FileEditTool

-- ============================================================== the three

inductive FileTool where
  | read
  | write
  | edit
  deriving DecidableEq, Repr

def FileTool._run (p : Platform) (workspace : Path) :
    FileTool → List (String × Json) → Py Disk FileResult
  | .read => FileReadTool._run p workspace
  | .write => FileWriteTool._run p workspace
  | .edit => FileEditTool._run p workspace

end AgentAnvil.Sdk
