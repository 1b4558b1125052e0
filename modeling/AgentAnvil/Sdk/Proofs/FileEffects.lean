/-
All a call of a file tool can come to (`Effect`).

The three tools share their shape: arguments are checked, the path is
resolved and compared with the workspace, and only then is anything looked
at, made or written. A call that gets that far is about one location, the
one the path names, and on the way to it directories are made at most.

There is one lemma for each tool, and what holds of all of them is a case
analysis over the effects. A read leaves the tree as it was
(`read_untouched`), and so does an edit that does not go through, unless
its write breaks off (`edit_cases`).
-/
import AgentAnvil.Sdk.FileTools

namespace AgentAnvil.Sdk

open Fs

-- ============================================================ vocabulary

/-- From one disk to another by work on one location: nothing else changed
but that directories were made on the way, and nothing else was opened. -/
structure Reached (q : Location) (d d' : Disk) : Prop where
  grown : ∀ p, p ≠ q → d'.tree.node p = d.tree.node p ∨
    (d.tree.node p = none ∧ d'.tree.node p = some .directory ∧ p <+: q)
  opened : ∃ log, d'.accesses = d.accesses ++ log ∧ ∀ a ∈ log,
    a.location = q ∨ (d.tree.node a.location = none ∧ a.location <+: q)
  torn : d'.torn = d.torn

/-- The location the arguments of a call name, below the workspace's. -/
structure Names (p : Platform) (workspace : Path)
    (args : List (String × Json)) (t : Tree) (q : Location) : Prop where
  canonical : ∃ path, pathArgument args = some path ∧
    Canonical t p.cwd (workspace.join (Path.parse path)) q
  below : ∃ root, Canonical t p.cwd workspace root ∧ root <+: q

/-- What a write finds at its location, and reports of it. -/
def FoundBefore (node : Option Node) (operation : String) (sizeBefore : Nat) :
    Prop :=
  (node = none ∧ operation = "create" ∧ sizeBefore = 0) ∨
    ∃ old, node = some (.file old) ∧ operation = "edit" ∧
      sizeBefore = old.length

/-- The bytes the arguments of a call would have stored at a location: the
content of a write, or the text an edit makes of the one that is there. -/
inductive Wanted (args : List (String × Json)) (t : Tree) (q : Location) :
    List UInt8 → Prop where
  | content {content} (argument : stringArgument args "content"
        = some content) :
      Wanted args t q (Utf8.encode content.toList)
  | edited {start stop newContent text newText}
      (startLine : intArgument args "start_line" = some start)
      (endLine : intArgument args "end_line" = some stop)
      (replacement : stringArgument args "new_content" = some newContent)
      (before : t.node q = some (.file (Utf8.encode text)))
      (edited : FileEditTool.edited text start stop newContent.toList
        = .ok newText) :
      Wanted args t q (Utf8.encode newText)

/-- A store of wanted bytes that broke off: a front part of them is in the
file, which is new or was a file before. No whole disk comes to this. -/
structure Torn (args : List (String × Json)) (q : Location) (d d' : Disk) :
    Prop where
  tears : ¬ d.Whole
  before : d.tree.node q = none ∨ ∃ old, d.tree.node q = some (.file old)
  after : ∃ bytes part, Wanted args d.tree q bytes ∧ part <+: bytes ∧
    d'.tree.node q = some (.file part)

/-- An error result, if there is a result. -/
def Refused (r : Except Exc FileResult) : Prop :=
  ∀ res, r = .ok res → ∃ content, res = refused content

/-- An answer without an event, if there is an answer. -/
def Silent (r : Except Exc FileResult) : Prop :=
  ∀ res, r = .ok res →
    (∃ content, res = refused content) ∨ ∃ content, res = succeeded [] content

/-- What a call comes to: its result or exception, and the disk. -/
inductive Effect (p : Platform) (workspace : Path)
    (args : List (String × Json)) (d : Disk) :
    Except Exc FileResult → Disk → Prop where
  /-- an exception before anything was touched -/
  | raised {exc d'} (quiet : d.Quiet d') : Effect p workspace args d
      (.error exc) d'
  /-- an error result before anything was touched -/
  | rejected {content d'} (quiet : d.Quiet d') : Effect p workspace args d
      (.ok (refused content)) d'
  /-- the file was read at most -/
  | looked {q r d'} (names : Names p workspace args d.tree q)
      (reached : Reached q d d') (tree : d'.tree = d.tree)
      (silent : Silent r) :
      Effect p workspace args d r d'
  /-- an exception, with the file as it was -/
  | failed {q exc d'} (names : Names p workspace args d.tree q)
      (reached : Reached q d d')
      (kept : d'.tree.node q = d.tree.node q) :
      Effect p workspace args d (.error exc) d'
  /-- an exception, with a part of the file stored -/
  | torn {q exc d'} (names : Names p workspace args d.tree q)
      (reached : Reached q d d') (torn : Torn args q d d') :
      Effect p workspace args d (.error exc) d'
  /-- the file was stored -/
  | stored {q operation sizeBefore bytes content d'}
      (names : Names p workspace args d.tree q) (reached : Reached q d d')
      (before : FoundBefore (d.tree.node q) operation sizeBefore)
      (after : d'.tree.node q = some (.file bytes)) :
      Effect p workspace args d
        (.ok (succeeded [fileMutation q workspace operation sizeBefore
          bytes.length bytes] content)) d'

/-- A call that left the tree as it was. -/
structure Untouched (p : Platform) (workspace : Path)
    (args : List (String × Json)) (d : Disk) (r : Except Exc FileResult)
    (d' : Disk) : Prop where
  effect : Effect p workspace args d r d'
  tree : d'.tree = d.tree

/-- A call that came to nothing: an error result or an exception, and the
tree as it was. -/
structure Declined (p : Platform) (workspace : Path)
    (args : List (String × Json)) (d : Disk) (r : Except Exc FileResult)
    (d' : Disk) : Prop extends Untouched p workspace args d r d' where
  refused : Refused r

/-- What a call that is to store a file comes to. -/
inductive Mutated (p : Platform) (workspace : Path)
    (args : List (String × Json)) (d : Disk) :
    Except Exc FileResult → Disk → Prop where
  | declined {r d'} (declined : Declined p workspace args d r d') :
      Mutated p workspace args d r d'
  /-- an exception, with the file as it was -/
  | failed {q exc d'} (names : Names p workspace args d.tree q)
      (reached : Reached q d d')
      (kept : d'.tree.node q = d.tree.node q) :
      Mutated p workspace args d (.error exc) d'
  /-- an exception, with a part of the file stored -/
  | torn {q exc d'} (names : Names p workspace args d.tree q)
      (reached : Reached q d d') (torn : Torn args q d d') :
      Mutated p workspace args d (.error exc) d'
  | stored {q operation sizeBefore bytes content d'}
      (names : Names p workspace args d.tree q) (reached : Reached q d d')
      (before : FoundBefore (d.tree.node q) operation sizeBefore)
      (after : d'.tree.node q = some (.file bytes)) :
      Mutated p workspace args d
        (.ok (succeeded [fileMutation q workspace operation sizeBefore
          bytes.length bytes] content)) d'

/-- An edit that got as far as its write: it went through, with the text it
found and the text it stored, or the write broke off. -/
inductive Edited (p : Platform) (workspace : Path)
    (args : List (String × Json)) (d : Disk) :
    Except Exc FileResult → Disk → Prop where
  | torn {q exc d'} (names : Names p workspace args d.tree q)
      (reached : Reached q d d') (torn : Torn args q d d') :
      Edited p workspace args d (.error exc) d'
  | stored {q start stop newContent text newText content d'}
      (names : Names p workspace args d.tree q) (reached : Reached q d d')
      (startLine : intArgument args "start_line" = some start)
      (endLine : intArgument args "end_line" = some stop)
      (replacement : stringArgument args "new_content" = some newContent)
      (range : 1 ≤ start.value ∧ start.value ≤ stop.value)
      (before : d.tree.node q = some (.file (Utf8.encode text)))
      (edited : FileEditTool.edited text start stop newContent.toList
        = .ok newText)
      (after : d'.tree.node q = some (.file (Utf8.encode newText))) :
      Edited p workspace args d
        (.ok (succeeded [fileMutation q workspace "edit"
          (Utf8.encode text).length (Utf8.encode newText).length
          (Utf8.encode newText)] content)) d'

-- ============================================================== reaching

namespace Reached

variable {q : Location} {d d' d'' : Disk}

theorem of_quiet (h : d.Quiet d') : Reached q d d' where
  grown p _ := Or.inl (by rw [h.1])
  opened := ⟨[], by rw [h.2, List.append_nil], fun a ha => by cases ha⟩
  torn := h.torn

theorem absent (h : Reached q d d') {p : Location} (hp : p ≠ q)
    (hnone : d'.tree.node p = none) : d.tree.node p = none := by
  rcases h.grown p hp with hsame | ⟨hbefore, -⟩
  · rw [← hsame, hnone]
  · exact hbefore

theorem trans (h : Reached q d d') (h' : Reached q d' d'') :
    Reached q d d'' where
  grown p hp := by
    rcases h'.grown p hp with hsame | ⟨hnone, hdir, hbelow⟩
    · rw [hsame]
      exact h.grown p hp
    · exact Or.inr ⟨h.absent hp hnone, hdir, hbelow⟩
  opened := by
    obtain ⟨log, hlog, hopened⟩ := h.opened
    obtain ⟨log', hlog', hopened'⟩ := h'.opened
    refine ⟨log ++ log', by rw [hlog', hlog, List.append_assoc], ?_⟩
    intro a ha
    rcases List.mem_append.mp ha with ha | ha
    · exact hopened a ha
    · by_cases hq : a.location = q
      · exact Or.inl hq
      · rcases hopened' a ha with heq | ⟨hnone, hbelow⟩
        · exact absurd heq hq
        · exact Or.inr ⟨h.absent hq hnone, hbelow⟩
  torn := h'.torn.trans h.torn

/-- Directories made above a file leave everything below them as it was. -/
theorem of_made (h : d.MadeDirs q.dropLast d') : Reached q d d' where
  grown p _ := (h.grown p).imp_right fun ⟨hnone, hdir, hbelow⟩ =>
    ⟨hnone, hdir, hbelow.trans (List.dropLast_prefix q)⟩
  opened := by
    obtain ⟨log, hlog, hmade⟩ := h.made
    refine ⟨log, hlog, fun a ha => Or.inr ⟨(hmade a ha).1, ?_⟩⟩
    exact (hmade a ha).2.trans (List.dropLast_prefix q)
  torn := h.torn

/-- A file opened, and nothing changed but the file. -/
theorem of_opened {a : Access} (ha : a.location = q) (h : d.Opened a d')
    (htree : ∀ p, p ≠ q → d'.tree.node p = d.tree.node p) :
    Reached q d d' where
  grown p hp := Or.inl (htree p hp)
  opened := by
    rcases h.2 with h | h
    · exact ⟨[], by rw [h, List.append_nil], fun b hb => by cases hb⟩
    · refine ⟨[a], h, ?_⟩
      intro b hb
      rw [List.mem_singleton.mp hb]
      exact Or.inl ha
  torn := h.1

end Reached

/-- Making the directories above a location leaves the location alone. -/
theorem made_kept {q : Location} {d d' : Disk}
    (h : d.MadeDirs q.dropLast d') : d'.tree.node q = d.tree.node q := by
  rcases h.grown q with hsame | ⟨hnone, -, hbelow⟩
  · exact hsame
  · exfalso
    by_cases hq : q = []
    · rw [hq, d.tree.root] at hnone
      cases hnone
    · have hlength := hbelow.length_le
      have hpos := List.length_pos_iff.mpr hq
      rw [List.length_dropLast] at hlength
      omega

-- ============================================================ the checks

theorem refused_refused (content : String) :
    Refused (.ok (refused content)) := by
  intro res h
  exact ⟨content, (Except.ok.inj h).symm⟩

theorem refused_error (exc : Exc) : Refused (.error exc) := by
  intro res h
  cases h

theorem Refused.silent {r : Except Exc FileResult} (h : Refused r) :
    Silent r := fun res hres => Or.inl (h res hres)

section

variable {p : Platform} {workspace : Path} {args : List (String × Json)}
  {d d' : Disk} {q : Location}

/-- Resolving is quiet, and gives the place the path leads to. -/
theorem resolved_spec {path : Path} {r : Except Exc Location}
    (h : p.resolved path d = (r, d')) :
    d.Quiet d' ∧ ∀ q, r = .ok q → Canonical d.tree p.cwd path q := by
  rcases call_cases h with h | ⟨rfl, exc, rfl⟩
  · rw [Py.bind_ok (Py.get_apply _), Py.ofExcept_apply] at h
    injection h with hr hd
    subst hd
    refine ⟨d.quiet_called, ?_⟩
    intro q hq
    exact p.resolve_canonical _ _ _ (hr.trans hq)
  · exact ⟨d.quiet_called, fun q hq => by cases hq⟩

/-- A path that resolves below the workspace leads below it, links followed.
-/
theorem resolveBelow_spec {path : String}
    {r : Except Exc (Option Location)}
    (h : resolveBelow p workspace path d = (r, d')) :
    d.Quiet d' ∧ ∀ q, r = .ok (some q) →
      Canonical d.tree p.cwd (workspace.join (Path.parse path)) q ∧
        ∃ root, Canonical d.tree p.cwd workspace root ∧ root <+: q := by
  rcases Py.bind_cases h with ⟨target, d₁, htarget, h⟩ | ⟨exc, hexc, rfl⟩
  · obtain ⟨hquiet, hcanonical⟩ := resolved_spec htarget
    rcases Py.bind_cases h with ⟨root, d₂, hroot, h⟩ | ⟨exc, hexc, rfl⟩
    · obtain ⟨hquiet', hcanonical'⟩ := resolved_spec hroot
      injection h with hr hd
      subst hr
      subst hd
      refine ⟨hquiet.trans hquiet', ?_⟩
      intro q hq
      have hq := Except.ok.inj hq
      split at hq
      next hbelow =>
        rw [← Option.some.inj hq]
        have hroot := hcanonical' root rfl
        rw [hquiet.1] at hroot
        exact ⟨hcanonical target rfl, root, hroot, hbelow⟩
      next => cases hq
    · exact ⟨hquiet.trans (resolved_spec hexc).1, fun q hq => by cases hq⟩
  · exact ⟨(resolved_spec hexc).1, fun q hq => by cases hq⟩

/-- A path is rejected, or what comes next is about the location it
names. -/
theorem inWorkspace_cases {P : Prop} {tool path : String}
    {next : Location → Py Disk FileResult} {r : Except Exc FileResult}
    (hpath : pathArgument args = some path)
    (h : inWorkspace p workspace tool path next d = (r, d'))
    (hdeclined : Declined p workspace args d r d' → P)
    (hnext : ∀ q d₁, d.Quiet d₁ → Names p workspace args d.tree q →
      next q d₁ = (r, d') → P) : P := by
  rcases Py.bind_cases h with ⟨found, d₁, hfound, h⟩ | ⟨exc, hexc, rfl⟩
  · obtain ⟨hquiet, hnames⟩ := resolveBelow_spec hfound
    cases found with
    | none =>
        injection h with hr hd
        refine hdeclined ?_
        rw [← hr, ← hd]
        exact ⟨⟨.rejected hquiet, hquiet.1⟩, refused_refused _⟩
    | some q =>
        obtain ⟨hcanonical, hbelow⟩ := hnames q rfl
        exact hnext q d₁ hquiet ⟨⟨path, hpath, hcanonical⟩, hbelow⟩ h
  · have hquiet := (resolveBelow_spec hexc).1
    exact hdeclined ⟨⟨.raised hquiet, hquiet.1⟩, refused_error exc⟩

/-- An argument that is missing or has the wrong type. -/
theorem rejected_declined {content : String} {r : Except Exc FileResult}
    (h : (pure (refused content) : Py Disk FileResult) d = (r, d')) :
    Declined p workspace args d r d' := by
  injection h with hr hd
  rw [← hr, ← hd]
  exact ⟨⟨.rejected (Disk.Quiet.refl d), rfl⟩, refused_refused _⟩

-- ============================================================== file_read

theorem declined_of_quiet {r : Except Exc FileResult}
    (hnames : Names p workspace args d.tree q) (hquiet : d.Quiet d')
    (hrefused : Refused r) : Declined p workspace args d r d' where
  effect := .looked hnames (.of_quiet hquiet) hquiet.1 hrefused.silent
  tree := hquiet.1
  refused := hrefused

/-- Whatever `file_read` shows, it reports no mutation. -/
theorem silent_format {args : List (String × Json)}
    {lines : List (List Char)} {r : Except Exc FileResult}
    (h : .ok (FileReadTool.format args lines) = r) : Silent r := by
  rintro res rfl
  rw [← Except.ok.inj h, FileReadTool.format]
  split
  · exact (ite_eq_or_eq _ _ _).imp (fun h => ⟨_, h⟩) fun h => ⟨_, h⟩
  · exact Or.inl ⟨_, rfl⟩

/-- The bytes were read. -/
theorem untouched_of_read {r : Except Exc FileResult} {d₁ : Disk}
    (hnames : Names p workspace args d.tree q) (hquiet : d.Quiet d₁)
    (htree : d'.tree = d₁.tree) (hopened : d₁.Opened (.read q) d')
    (hsilent : Silent r) : Untouched p workspace args d r d' := by
  have hsame := htree.trans hquiet.1
  refine ⟨.looked hnames ((Reached.of_quiet hquiet).trans ?_) hsame hsilent,
    hsame⟩
  exact .of_opened rfl hopened fun p _ => by rw [htree]

theorem declined_of_read {r : Except Exc FileResult} {d₁ : Disk}
    (hnames : Names p workspace args d.tree q) (hquiet : d.Quiet d₁)
    (htree : d'.tree = d₁.tree) (hopened : d₁.Opened (.read q) d')
    (hrefused : Refused r) : Declined p workspace args d r d' where
  toUntouched :=
    untouched_of_read hnames hquiet htree hopened hrefused.silent
  refused := hrefused

/-- A statement that only looks: it raises, or the body goes on. -/
theorem look_cases {P : Prop} {α : Type} {m : Py Disk α}
    {f : α → Py Disk FileResult} {r : Except Exc FileResult} {d₁ : Disk}
    (hnames : Names p workspace args d.tree q) (hquiet : d.Quiet d₁)
    (hlook : ∀ {result d₂}, m d₁ = (result, d₂) → d₁.Quiet d₂)
    (h : (m >>= f) d₁ = (r, d'))
    (hdeclined : Declined p workspace args d r d' → P)
    (hnext : ∀ a d₂, m d₁ = (.ok a, d₂) → d.Quiet d₂ → f a d₂ = (r, d') →
      P) : P := by
  rcases Py.bind_cases h with ⟨a, d₂, hm, h⟩ | ⟨exc, hexc, rfl⟩
  · exact hnext a d₂ hm (hquiet.trans (hlook hm)) h
  · exact hdeclined (declined_of_quiet hnames (hquiet.trans (hlook hexc))
      (refused_error exc))

/-- The body ends with an error result. -/
theorem refused_declined {content : String} {r : Except Exc FileResult}
    {d₁ : Disk} (hnames : Names p workspace args d.tree q)
    (hquiet : d.Quiet d₁)
    (h : (pure (refused content) : Py Disk FileResult) d₁ = (r, d')) :
    Declined p workspace args d r d' := by
  injection h with hr hd
  subst hd hr
  exact declined_of_quiet hnames hquiet (refused_refused content)

/-- Whatever a read answers, it looked. -/
theorem readTarget_untouched {path : String} {r : Except Exc FileResult}
    {d₁ : Disk} (hquiet : d.Quiet d₁)
    (hnames : Names p workspace args d.tree q)
    (h : FileReadTool.readTarget p args path q d₁ = (r, d')) :
    Untouched p workspace args d r d' := by
  refine look_cases hnames hquiet (fun h => (pathExists_spec h).1) h
    Declined.toUntouched ?_
  intro there d₂ _ hquiet h
  cases there with
  | false => exact (refused_declined hnames hquiet h).toUntouched
  | true =>
      refine look_cases hnames hquiet (fun h => (isFile_spec h).1) h
        Declined.toUntouched ?_
      intro regular d₃ _ hquiet h
      cases regular with
      | false => exact (refused_declined hnames hquiet h).toUntouched
      | true =>
          refine look_cases hnames hquiet (fun h => (statSize_spec h).1) h
            Declined.toUntouched ?_
          intro size d₄ _ hquiet h
          split at h
          · exact (refused_declined hnames hquiet h).toUntouched
          · rcases Py.bind_cases h with ⟨bytes, d₅, hread, h⟩ | ⟨exc, hexc, rfl⟩
            swap
            · obtain ⟨htree, hopened, -⟩ := readBytes_spec hexc
              exact untouched_of_read hnames hquiet htree hopened
                (refused_error exc).silent
            obtain ⟨htree, hopened, -⟩ := readBytes_spec hread
            cases htext : Utf8.decode bytes with
            | none =>
                rw [htext] at h
                injection h with hr hd
                subst hd hr
                exact untouched_of_read hnames hquiet htree hopened
                  (refused_refused _).silent
            | some text =>
                rw [htext] at h
                injection h with hr hd
                subst hd
                exact untouched_of_read hnames hquiet htree hopened
                  (silent_format hr)

/-- `file_read` opens its file at most, and leaves the tree. -/
theorem read_untouched {r : Except Exc FileResult}
    (h : FileReadTool._run p workspace args d = (r, d')) :
    Untouched p workspace args d r d' := by
  rw [FileReadTool._run] at h
  cases hpath : pathArgument args with
  | none =>
      rw [hpath] at h
      exact (rejected_declined h).toUntouched
  | some path =>
      rw [hpath] at h
      exact inWorkspace_cases hpath h Declined.toUntouched
        fun q d₁ hquiet hnames hnext =>
          readTarget_untouched hquiet hnames hnext

-- ============================================================= file_write

/-- The size before is that of the old content, or 0 if there was none. -/
theorem sizeIfExists_spec {r : Except Exc Nat}
    (h : FileWriteTool.sizeIfExists q d = (r, d')) :
    d.Quiet d' ∧ ∀ n, r = .ok n → (d.tree.node q = none → n = 0) ∧
      ∀ old, d.tree.node q = some (.file old) → n = old.length := by
  rcases Py.bind_cases h with ⟨there, d₁, hthere, h⟩ | ⟨exc, hexc, rfl⟩
  swap
  · exact ⟨(pathExists_spec hexc).1, fun n hn => by cases hn⟩
  obtain ⟨hquiet, hthere⟩ := pathExists_spec hthere
  have hthere := hthere there rfl
  cases there with
  | false =>
      injection h with hr hd
      subst hd hr
      refine ⟨hquiet, ?_⟩
      intro n hn
      refine ⟨fun _ => (Except.ok.inj hn).symm, ?_⟩
      intro old hold
      rw [hold] at hthere
      cases hthere
  | true =>
      obtain ⟨hquiet', hsize⟩ := statSize_spec h
      refine ⟨hquiet.trans hquiet', ?_⟩
      intro n hn
      constructor
      · intro hnone
        rw [hnone] at hthere
        cases hthere
      · intro old hold
        exact hsize n old hn (by rw [hquiet.1, hold])

/-- The body ends with the file stored, the write fails, or it breaks
off. -/
theorem store_cases {bytes : List UInt8} {res : FileResult}
    {r : Except Exc FileResult} {d₁ : Disk} (hreached : Reached q d d₁)
    (hkept : d₁.tree.node q = d.tree.node q)
    (hwanted : Wanted args d.tree q bytes)
    (h : (do
      writeBytes q bytes
      return res) d₁ = (r, d')) :
    Reached q d d' ∧
      ((r = .ok res ∧ Tree.Stored q bytes d₁.tree d'.tree) ∨
        ∃ exc, r = .error exc ∧ (d'.tree = d₁.tree ∨ Torn args q d d')) := by
  rcases Py.bind_cases h with ⟨u, d₂, hwrite, h⟩ | ⟨exc, hexc, rfl⟩
  · obtain ⟨hopened, hwrote⟩ := writeBytes_spec hwrite
    injection h with hr hd
    subst hd
    refine ⟨hreached.trans (.of_opened rfl hopened fun o => hwrote.node_ne),
      Or.inl ⟨hr.symm, ?_⟩⟩
    cases hwrote with
    | stored stored => exact stored
  · obtain ⟨hopened, hwrote⟩ := writeBytes_spec hexc
    refine ⟨hreached.trans (.of_opened rfl hopened fun o => hwrote.node_ne),
      Or.inr ⟨exc, rfl, ?_⟩⟩
    cases hwrote with
    | failed tree => exact Or.inl tree
    | @torn exc part tears front stored =>
        refine Or.inr ⟨?_, ?_, bytes, part, hwanted, front, stored.node_self⟩
        · intro hwhole
          refine tears ?_
          intro n
          rw [hreached.torn]
          exact hwhole n
        · rw [← hkept]
          exact stored.before

/-- The part of `file_write` that writes: the directories above, then the
content, then the event that reports both sizes. -/
theorem writeTarget_mutates {path content : String}
    {r : Except Exc FileResult} {d₁ : Disk} (hquiet : d.Quiet d₁)
    (hnames : Names p workspace args d.tree q)
    (hcontent : stringArgument args "content" = some content)
    (h : FileWriteTool.writeTarget p workspace path content q d₁ = (r, d')) :
    Mutated p workspace args d r d' := by
  refine look_cases hnames hquiet (fun h => (sizeIfExists_spec h).1) h
    .declined ?_
  intro size d₂ hsize hquiet₂ h
  obtain ⟨hnone, hfile⟩ := (sizeIfExists_spec hsize).2 size rfl
  rw [hquiet.1] at hnone hfile
  refine look_cases hnames hquiet₂ (fun h => (pathExists_spec h).1) h
    .declined ?_
  intro again d₃ hagain hquiet₃ h
  have hagain := (pathExists_spec hagain).2 again rfl
  rw [hquiet₂.1] at hagain
  rcases Py.bind_cases h with ⟨u, d₄, hmade, h⟩ | ⟨exc, hexc, rfl⟩
  swap
  · have hmade := mkdirs_spec hexc
    refine .failed hnames ((Reached.of_quiet hquiet₃).trans (.of_made hmade)) ?_
    rw [made_kept hmade, hquiet₃.1]
  have hmade := mkdirs_spec hmade
  have hreached : Reached q d d₄ :=
    (Reached.of_quiet hquiet₃).trans (.of_made hmade)
  have hkept : d₄.tree.node q = d.tree.node q := by
    rw [made_kept hmade, hquiet₃.1]
  rcases Py.bind_cases h with ⟨bytes, d₅, hencoded, h⟩ | ⟨exc, hexc, rfl⟩
  swap
  · injection hexc with _ hd
    subst hd
    exact .failed hnames hreached hkept
  injection hencoded with hbytes hd
  subst hd
  have hwanted : Wanted args d.tree q bytes := by
    rw [p.encode_utf8 _ _ hbytes]
    exact .content hcontent
  obtain ⟨hreached', ⟨rfl, hstored⟩ | ⟨exc, rfl, htree | htorn⟩⟩ :=
    store_cases hreached hkept hwanted h
  rotate_left
  · exact .failed hnames hreached' (by rw [htree, hkept])
  · exact .torn hnames hreached' htorn
  refine .stored hnames hreached' ?_ hstored.node_self
  have hthere := hstored.before
  rw [hkept] at hthere
  rcases hthere with hnode | ⟨old, hnode⟩
  · rw [hnode] at hagain
    subst hagain
    exact Or.inl ⟨hnode, rfl, hnone hnode⟩
  · rw [hnode] at hagain
    subst hagain
    exact Or.inr ⟨old, hnode, rfl, hfile old hnode⟩

/-- `file_write` mutates its file or refuses, whatever its arguments. -/
theorem write_mutates {r : Except Exc FileResult}
    (h : FileWriteTool._run p workspace args d = (r, d')) :
    Mutated p workspace args d r d' := by
  rw [FileWriteTool._run] at h
  cases hpath : pathArgument args with
  | none =>
      rw [hpath] at h
      exact .declined (rejected_declined h)
  | some path =>
      rw [hpath] at h
      cases hcontent : stringArgument args "content" with
      | none =>
          rw [hcontent] at h
          exact .declined (rejected_declined h)
      | some content =>
          rw [hcontent] at h
          exact inWorkspace_cases hpath h .declined
            fun q d₁ hquiet hnames hnext =>
              writeTarget_mutates hquiet hnames hcontent hnext

-- ============================================================== file_edit

/-- An edit looks, is refused by the disk, or gets as far as storing what
it has made of the text. -/
theorem editTarget_cases {start stop : PyInt} {newContent : String}
    {r : Except Exc FileResult} {d₁ : Disk} (hquiet : d.Quiet d₁)
    (hnames : Names p workspace args d.tree q)
    (hstart : intArgument args "start_line" = some start)
    (hstop : intArgument args "end_line" = some stop)
    (hnew : stringArgument args "new_content" = some newContent)
    (hrange : 1 ≤ start.value ∧ start.value ≤ stop.value)
    (h : FileEditTool.editTarget p workspace start stop newContent q d₁
      = (r, d')) :
    Declined p workspace args d r d' ∨ Edited p workspace args d r d' := by
  rcases Py.bind_cases h with ⟨original, d₂, hread, h⟩ | ⟨exc, hexc, rfl⟩
  swap
  · obtain ⟨htree, hopened, -⟩ := readBytes_spec hexc
    exact Or.inl (declined_of_read hnames hquiet htree hopened
      (refused_error exc))
  obtain ⟨htree, hopened, hcontent⟩ := readBytes_spec hread
  have hnode := hcontent original rfl
  rw [hquiet.1] at hnode
  cases htext : Utf8.decode original with
  | none =>
      rw [htext] at h
      injection h with hr hd
      subst hd hr
      exact Or.inl (declined_of_read hnames hquiet htree hopened
        (refused_refused _))
  | some text =>
      rw [htext] at h
      have horiginal := Utf8.decode_eq_some.mp htext
      cases hedited : FileEditTool.edited text start stop newContent.toList with
      | error content =>
        simp only [hedited] at h
        injection h with hr hd
        subst hd hr
        exact Or.inl (declined_of_read hnames hquiet htree hopened
          (refused_refused _))
      | ok newText =>
        simp only [hedited] at h
        rcases Py.bind_cases h with ⟨bytes, d₃, hencoded, h⟩ | ⟨exc, hexc, rfl⟩
        swap
        · injection hexc with _ hd
          subst hd
          exact Or.inl (declined_of_read hnames hquiet htree hopened
            (refused_error exc))
        injection hencoded with hbytes hd
        subst hd
        have hbytes := p.encode_utf8 _ _ hbytes
        rw [String.toList_ofList] at hbytes
        have hreached : Reached q d d₂ := (Reached.of_quiet hquiet).trans
          (.of_opened rfl hopened fun p _ => by rw [htree])
        have hfound := htree.trans hquiet.1
        subst horiginal hbytes
        obtain ⟨hreached', ⟨rfl, hstored⟩ | ⟨exc, rfl, hsame | htorn⟩⟩ :=
          store_cases hreached (by rw [hfound])
            (.edited hstart hstop hnew hnode hedited) h
        · exact Or.inr (.stored hnames hreached' hstart hstop hnew hrange
            hnode hedited hstored.node_self)
        · have hkept := hsame.trans hfound
          exact Or.inl ⟨⟨.failed hnames hreached' (by rw [hkept]), hkept⟩,
            refused_error exc⟩
        · exact Or.inr (.torn hnames hreached' htorn)

/-- The checks of the line range, in the source's order; past them the file is
edited. -/
theorem editRange_cases {path : String} {start stop : PyInt}
    {newContent : String} {r : Except Exc FileResult}
    (hpath : pathArgument args = some path)
    (hstart : intArgument args "start_line" = some start)
    (hstop : intArgument args "end_line" = some stop)
    (hnew : stringArgument args "new_content" = some newContent)
    (h : FileEditTool.editRange p workspace path start stop newContent d
      = (r, d')) :
    Declined p workspace args d r d' ∨ Edited p workspace args d r d' := by
  unfold FileEditTool.editRange at h
  split at h
  · exact Or.inl (rejected_declined h)
  next hvalid =>
    have hrange : 1 ≤ start.value ∧ start.value ≤ stop.value := by
      omega
    refine inWorkspace_cases hpath h Or.inl ?_
    intro q d₁ hquiet hnames hnext
    refine look_cases hnames hquiet (fun h => (pathExists_spec h).1) hnext
      Or.inl ?_
    intro there d₂ _ hquiet h
    cases there with
    | false => exact Or.inl (refused_declined hnames hquiet h)
    | true =>
        exact editTarget_cases hquiet hnames hstart hstop hnew hrange h

/-- `file_edit` declines or edits, whatever its arguments. -/
theorem edit_cases {r : Except Exc FileResult}
    (h : FileEditTool._run p workspace args d = (r, d')) :
    Declined p workspace args d r d' ∨ Edited p workspace args d r d' := by
  rw [FileEditTool._run] at h
  cases hpath : pathArgument args with
  | none =>
      rw [hpath] at h
      exact Or.inl (rejected_declined h)
  | some path =>
      rw [hpath] at h
      cases hstart : intArgument args "start_line" with
      | none =>
          rw [hstart] at h
          exact Or.inl (rejected_declined h)
      | some start =>
          cases hstop : intArgument args "end_line" with
          | none =>
              rw [hstart, hstop] at h
              exact Or.inl (rejected_declined h)
          | some stop =>
              rw [hstart, hstop] at h
              cases hnew : stringArgument args "new_content" with
              | none =>
                  simp only [hnew] at h
                  exact Or.inl (rejected_declined h)
              | some newContent =>
                  simp only [hnew] at h
                  exact editRange_cases hpath hstart hstop hnew h

/-- An edit is a mutation with no directories made. -/
theorem edit_mutates {r : Except Exc FileResult}
    (h : FileEditTool._run p workspace args d = (r, d')) :
    Mutated p workspace args d r d' := by
  rcases edit_cases h with hdeclined | hedited
  · exact .declined hdeclined
  · cases hedited with
    | torn names reached torn => exact .torn names reached torn
    | stored names reached _ _ _ _ before _ after =>
        exact .stored names reached (Or.inr ⟨_, before, rfl, rfl⟩) after

-- ============================================================== the three

theorem Mutated.effect {r : Except Exc FileResult}
    (h : Mutated p workspace args d r d') :
    Effect p workspace args d r d' := by
  cases h with
  | declined declined => exact declined.effect
  | failed names reached kept => exact .failed names reached kept
  | torn names reached torn => exact .torn names reached torn
  | stored names reached before after =>
      exact .stored names reached before after

/-- A call that is to store a file: any but a read. -/
theorem mutated_of_run {tool : FileTool} (htool : tool ≠ .read)
    {r : Except Exc FileResult}
    (h : tool._run p workspace args d = (r, d')) :
    Mutated p workspace args d r d' := by
  cases tool with
  | read => exact absurd rfl htool
  | write => exact write_mutates h
  | edit => exact edit_mutates h

/-- The three file tools, one by one. -/
theorem effect_of_run {tool : FileTool} {r : Except Exc FileResult}
    (h : tool._run p workspace args d = (r, d')) :
    Effect p workspace args d r d' := by
  cases tool with
  | read => exact (read_untouched h).effect
  | write => exact (write_mutates h).effect
  | edit => exact (edit_mutates h).effect

/-- No call changes which writes break off. -/
theorem Effect.torn_eq {r : Except Exc FileResult}
    (h : Effect p workspace args d r d') : d'.torn = d.torn := by
  cases h with
  | raised quiet => exact quiet.torn
  | rejected quiet => exact quiet.torn
  | looked names reached => exact reached.torn
  | failed names reached => exact reached.torn
  | torn names reached => exact reached.torn
  | stored names reached => exact reached.torn

/-- No tool changes which writes break off. -/
theorem Effect.whole {r : Except Exc FileResult}
    (h : Effect p workspace args d r d') (hwhole : d.Whole) : d'.Whole := by
  unfold Disk.Whole
  rwa [h.torn_eq]

end

end AgentAnvil.Sdk
