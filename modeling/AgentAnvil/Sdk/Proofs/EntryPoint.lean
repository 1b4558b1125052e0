/-
What the entry point does to the disk, and what its exit code says.

Before a run nothing is touched but directories, which are made, and the
events file of an earlier run (`SetUp`). `main` has three outcomes
(`main_outcomes`): there is no task, and it exits 1 having only looked;
something fails before the run, and no trace is opened; or it exits 0, and
then a whole run of the task that was on the disk is in a fresh trace,
whatever became of the agent. So the exit code is 0 just when a trace was
written, and a trace never holds events of two runs.

Each function of `Main` has its spec lemma, and `prepare_spec` puts them
together: what has been done so far is `Kept`, one statement after another
(`kept_bind`). All of it is for an events file that is no link: a link is
unlinked if it leads somewhere and opened through if it does not, and paths
may lead elsewhere afterwards.
-/
import AgentAnvil.Sdk.Main
import AgentAnvil.Sdk.Proofs.FileEffects
import AgentAnvil.Sdk.Transcript

namespace AgentAnvil.Sdk

open Fs

-- ==================================================== statement vocabulary

/-- Where the events of a run go. -/
def IsEventsFile (p : Platform) (d : Disk) (args : Args) (q : Location) :
    Prop :=
  ∃ dir, Canonical d.tree p.cwd (Path.parse args.traceDir) dir
    ∧ q = dir ++ ["events.jsonl"]

/-- There is no link in the place of the events file. -/
def PlainEvents (p : Platform) (d : Disk) (args : Args) : Prop :=
  ∀ q, IsEventsFile p d args q → ∀ target,
    d.tree.node q ≠ some (.link target)

/-- Outside of `S` directories were made, and nothing else was done. -/
def SetUp (S : Location → Prop) (d d' : Disk) : Prop :=
  ∀ q, ¬ S q → d'.tree.node q = d.tree.node q
    ∨ (d.tree.node q = none ∧ d'.tree.node q = some .directory)

-- ============================================================ setting up

section

variable {S T : Location → Prop} {d d' d'' : Disk} {q : Location}

theorem SetUp.of_tree (h : d'.tree = d.tree) : SetUp S d d' := by
  intro q hq
  rw [h]
  exact Or.inl rfl

/-- Making directories is part of setting up. -/
theorem SetUp.of_madeDirs (h : d.MadeDirs q d') : SetUp S d d' := by
  intro p hp
  rcases h.grown p with hsame | ⟨hnone, hdir, -⟩
  · exact Or.inl hsame
  · exact Or.inr ⟨hnone, hdir⟩

theorem SetUp.trans (h : SetUp S d d') (h' : SetUp S d' d'') :
    SetUp S d d'' := by
  intro q hq
  rcases h' q hq with hsame | ⟨hnone, hdir⟩
  · rw [hsame]
    exact h q hq
  · rcases h q hq with hsame | ⟨-, hbefore⟩
    · rw [← hsame]
      exact Or.inr ⟨hnone, hdir⟩
    · rw [hbefore] at hnone
      cases hnone

theorem SetUp.mono (h : SetUp S d d') (hST : ∀ q, S q → T q) :
    SetUp T d d' :=
  fun q hq => h q fun hS => hq (hST q hS)

/-- A change in one place sets up that place. -/
theorem SetUp.of_ne (h : ∀ p, p ≠ q → d'.tree.node p = d.tree.node p) :
    SetUp (· = q) d d' :=
  fun p hp => Or.inl (h p hp)

/-- Making directories makes no link and takes none away. -/
theorem sameLinks_of_madeDirs (h : d.MadeDirs q d') :
    Tree.SameLinks d.tree d'.tree := by
  intro p target
  rcases h.grown p with hsame | ⟨hnone, hdir, -⟩
  · rw [hsame]
  · simp [hnone, hdir]

end

-- ============================================================ what is done

section

variable {p : Platform} {path : Path} {d d' : Disk} {q : Location}

/-- Looking for a file is quiet; if it is there, the path leads to it. -/
theorem fileAt_spec {r : Except Exc (Option Location)}
    (h : fileAt p path d = (r, d')) :
    d.Quiet d' ∧ ∀ q, r = .ok (some q) →
      Canonical d.tree p.cwd path q := by
  rcases call_cases h with h | ⟨rfl, exc, rfl⟩
  · rw [Py.bind_ok (Py.get_apply _)] at h
    cases hresolve : p.resolve d.called.tree path with
    | ok q =>
        simp only [hresolve] at h
        injection h with hr hd
        refine ⟨hd ▸ d.quiet_called, ?_⟩
        intro q' hq'
        rw [← hr] at hq'
        by_cases hfile : isRegular (d.called.tree.node q)
        · rw [if_pos hfile] at hq'
          cases hq'
          exact p.resolve_canonical _ _ _ hresolve
        · rw [if_neg hfile] at hq'
          cases hq'
    | error exc =>
        simp only [hresolve] at h
        injection h with hr hd
        refine ⟨hd ▸ d.quiet_called, ?_⟩
        intro q' hq'
        rw [← hr] at hq'
        cases hq'
  · exact ⟨d.quiet_called, fun q hq => by cases hq⟩

/-- Making a directory at a path makes directories only, and then there is one
where the path led before. -/
theorem mkdirAt_spec {r : Except Exc Location}
    (h : mkdirAt p path d = (r, d')) :
    (∃ q, d.MadeDirs q d')
      ∧ ∀ q, r = .ok q → Canonical d.tree p.cwd path q
          ∧ d'.tree.node q = some .directory := by
  rcases Py.bind_cases h with ⟨q, d₁, hresolve, h⟩ | ⟨exc, hresolve, rfl⟩
  · obtain ⟨hquiet, hcanonical⟩ := resolved_spec hresolve
    rcases Py.bind_cases h with ⟨u, d₂, hmake, h⟩ | ⟨exc, hmake, rfl⟩
    · injection h with hr hd
      rw [← hd]
      refine ⟨⟨q, (Disk.MadeDirs.of_quiet hquiet).trans
        (mkdirs_spec hmake)⟩, ?_⟩
      intro q' hq'
      rw [← hr] at hq'
      cases hq'
      exact ⟨hcanonical q rfl, mkdirs_made hmake⟩
    · exact ⟨⟨q, (Disk.MadeDirs.of_quiet hquiet).trans (mkdirs_spec hmake)⟩,
        fun q' hq' => by cases hq'⟩
  · exact ⟨⟨[], .of_quiet (resolved_spec hresolve).1⟩,
      fun q' hq' => by cases hq'⟩

/-- Where no link is in its place, the events file is its entry in the
trace directory. -/
theorem followEvents_plain {args : Args} {t : Tree}
    (hplain : ∀ target, t.node (q ++ ["events.jsonl"]) ≠ some (.link target)) :
    followEvents p args q t = some (q ++ ["events.jsonl"]) := by
  unfold followEvents
  split
  next target hlink => exact absurd hlink (hplain target)
  next => rfl
/-- No step of `main` decides which writes break off; loading a task does not.
-/
theorem loadTask_torn {t : YamlText} :
    Py.Keeps Disk.torn (loadTask t q) :=
  .bind (.of_final fun h => (readBytes_spec h).2.1.1) fun _ => .ofExcept _

/-- Loading a task leaves the tree, and parses what was in the file. -/
theorem loadTask_spec {t : YamlText} {r : Except Exc AgentTaskSpec}
    (h : loadTask t q d = (r, d')) :
    d'.tree = d.tree ∧ ∀ spec, r = .ok spec → ∃ bytes,
      d.tree.node q = some (.file bytes) ∧ parseTask t bytes = .ok spec := by
  rcases Py.bind_cases h with ⟨bytes, d₁, hread, h⟩ | ⟨exc, hread, rfl⟩
  · obtain ⟨htree, -, hnode⟩ := readBytes_spec hread
    injection h with hr hd
    rw [← hd]
    exact ⟨htree, fun spec hspec => ⟨bytes, hnode bytes rfl, hr.trans hspec⟩⟩
  · exact ⟨(readBytes_spec hread).1, fun spec hspec => by cases hspec⟩

end

section

variable {κ φ : Type} {inst : Installation κ φ} {environ : Environ}

/-- Reading the key changes nothing, whether it can be decoded or not. -/
theorem readKey_spec {q : Location} {f : List UInt8 → Py Disk (Option String)}
    {r : Except Exc (Option String)} {d d' : Disk}
    (hf : ∀ bytes d, (f bytes d).2 = d)
    (h : (readBytes q >>= f) d = (r, d')) : d'.tree = d.tree := by
  rcases Py.bind_cases h with ⟨bytes, d₁, hread, h⟩ | ⟨exc, hread, rfl⟩
  · have hsame : d' = d₁ := by
      rw [← hf bytes d₁, h]
    rw [hsame, (readBytes_spec hread).1]
  · exact (readBytes_spec hread).1

theorem readApiKey_spec {apiKeyFile : Option String}
    {r : Except Exc (Option String)} {d d' : Disk}
    (h : readApiKey inst environ apiKeyFile d = (r, d')) :
    d'.tree = d.tree := by
  unfold readApiKey at h
  cases hgiven : apiKeyFile.filter (· ≠ "") with
  | none =>
      simp only [hgiven] at h
      injection h with hr hd
      rw [← hd]
  | some name =>
      simp only [hgiven] at h
      rcases Py.bind_cases h with ⟨file, d₁, hfile, h⟩ | ⟨exc, hfile, rfl⟩
      · have htree := (fileAt_spec hfile).1.1
        cases file with
        | none =>
            injection h with hr hd
            rw [← hd, htree]
        | some q =>
            rw [← htree]
            refine readKey_spec (fun bytes d => ?_) h
            cases Utf8.decode bytes <;> rfl
      · exact (fileAt_spec hfile).1.1

theorem readApiKey_torn {apiKeyFile : Option String} :
    Py.Keeps Disk.torn (readApiKey inst environ apiKeyFile) := by
  unfold readApiKey
  cases apiKeyFile.filter (· ≠ "") with
  | none => exact .pure _
  | some file =>
      refine .bind (.of_final fun h => (fileAt_spec h).1.torn) fun found => ?_
      cases found with
      | none => exact .pure _
      | some q =>
          refine .bind (.of_final fun h => (readBytes_spec h).2.1.1)
            fun bytes => ?_
          cases hdecode : Utf8.decode bytes <;>
          · intro d
            rfl

-- ============================================================ the outcomes

/-- Everything a run starts from: the task that is on the disk, a client,
an events file that is new, and a workspace. -/
structure Prepared (inst : Installation κ φ) (environ : Environ)
    (args : Args) (taskPath : Location) (d d' : Disk)
    (inv : Invocation (Disk × κ)) (path : Location) (before : List UInt8) :
    Prop where
  task : ∃ bytes spec apiKey client,
    d.tree.node taskPath = some (.file bytes)
      ∧ parseTask inst.yaml bytes = .ok spec
      ∧ makeClient inst environ (providerOf args spec) (modelOf spec) apiKey
          = .ok client
      ∧ inv = invocationOf inst args spec client
  events : IsEventsFile inst.host.toPlatform d args path
  fresh : before = []
  opened : d'.tree.node path = some (.file [])
  workspace : ∃ root, Canonical d.tree inst.host.cwd
      (Path.parse args.workspace) root
    ∧ d'.tree.node root = some .directory

/-- Which file is the events file is the tree's to say. -/
theorem IsEventsFile.of_tree {p : Platform} {args : Args} {d d' : Disk}
    (htree : d'.tree = d.tree) {q : Location}
    (h : IsEventsFile p d' args q) : IsEventsFile p d args q := by
  unfold IsEventsFile at h ⊢
  rwa [htree] at h

/-- There is one events file. -/
theorem IsEventsFile.unique {p : Platform} {args : Args} {d : Disk}
    {q q' : Location} (h : IsEventsFile p d args q)
    (h' : IsEventsFile p d args q') : q = q' := by
  obtain ⟨dir, hdir, rfl⟩ := h
  obtain ⟨dir', hdir', rfl⟩ := h'
  rw [hdir.unique hdir']

/-- It depends on the tree of the disk and on nothing else. -/
theorem Prepared.of_tree {args : Args} {taskPath : Location}
    {d₀ d d' : Disk} {inv : Invocation (Disk × κ)} {path : Location}
    {before : List UInt8} (htree : d.tree = d₀.tree)
    (h : Prepared inst environ args taskPath d d' inv path before) :
    Prepared inst environ args taskPath d₀ d' inv path before where
  task := by
    have htask := h.task
    rwa [htree] at htask
  events := h.events.of_tree htree
  fresh := h.fresh
  opened := h.opened
  workspace := by
    have hworkspace := h.workspace
    rwa [htree] at hworkspace

-- ========================================================= what is prepared

/-- What has been done before a run so far: directories were made, the
events file is gone or as it was, and every path leads where it led. -/
structure Kept (p : Platform) (args : Args) (d d' : Disk) : Prop where
  setUp : SetUp (IsEventsFile p d args) d d'
  links : Tree.SameLinks d.tree d'.tree

namespace Kept

variable {p : Platform} {args : Args} {d d₁ d₂ : Disk}

theorem of_tree (htree : d₁.tree = d.tree) : Kept p args d d₁ where
  setUp := .of_tree htree
  links := by
    rw [htree]
    exact .refl d.tree

/-- Directories may be made: they are no links. -/
theorem madeDirs {q : Location} (h : Kept p args d d₁)
    (hmade : d₁.MadeDirs q d₂) : Kept p args d d₂ where
  setUp := h.setUp.trans (.of_madeDirs hmade)
  links := h.links.trans (sameLinks_of_madeDirs hmade)

/-- So may those on the way to a path. -/
theorem mkdirAt {path : Path} {r : Except Exc Location}
    (h : Kept p args d d₁) (hmake : mkdirAt p path d₁ = (r, d₂)) :
    Kept p args d d₂ := by
  obtain ⟨⟨q, hmade⟩, -⟩ := mkdirAt_spec hmake
  exact h.madeDirs hmade

theorem canonical {path : Path} {q : Location} (h : Kept p args d d₁)
    (hpath : Canonical d₁.tree p.cwd path q) :
    Canonical d.tree p.cwd path q :=
  Walk.congr hpath h.links.symm

/-- There is still no link in the place of the events file. -/
theorem plain (hplain : PlainEvents p d args) (h : Kept p args d d₁)
    {q : Location} (hq : IsEventsFile p d args q) (target : Path) :
    d₁.tree.node q ≠ some (.link target) :=
  fun hlink => hplain q hq target ((h.links q target).mpr hlink)

/-- The entry of the events file has been touched, and nothing else. -/
theorem touched {q : Location} (h : Kept p args d d₁)
    (hq : IsEventsFile p d args q)
    (hne : ∀ o, o ≠ q → d₂.tree.node o = d₁.tree.node o) :
    SetUp (IsEventsFile p d args) d d₂ := by
  refine h.setUp.trans ((SetUp.of_ne hne).mono ?_)
  rintro o rfl
  exact hq

end Kept

section

variable {p : Platform} {args : Args} {d d₁ d₂ : Disk} {dir : Location}

/-- Only a file can be cleared away, and then nothing is in its place. -/
theorem clearEvents_spec (hplain : PlainEvents p d args)
    (hkept : Kept p args d d₁)
    (hevents : IsEventsFile p d args (dir ++ ["events.jsonl"]))
    {r : Except Exc Unit} (h : clearEvents p args dir d₁ = (r, d₂)) :
    SetUp (IsEventsFile p d args) d d₂
      ∧ (r = .ok () → Kept p args d d₂
          ∧ d₂.tree.node (dir ++ ["events.jsonl"]) = none
          ∧ ∀ q, d₁.tree.node q = some .directory →
              d₂.tree.node q = some .directory) := by
  have hnot := hkept.plain hplain hevents
  rcases Py.bind_cases h with ⟨b, d₃, hexists, h⟩ | ⟨exc, hexists, rfl⟩
  swap
  · obtain ⟨⟨htree, -⟩, -⟩ := ask_spec hexists
    exact ⟨hkept.setUp.trans (.of_tree htree), fun hr => by cases hr⟩
  obtain ⟨⟨htree, -⟩, hb⟩ := ask_spec hexists
  have hb := hb b rfl
  rw [Disk.called_tree, followEvents_plain hnot, Option.bind_some] at hb
  cases b with
  | false =>
      injection h with hr hd
      rw [← hd, htree]
      refine ⟨hkept.setUp.trans (.of_tree htree), fun _ => ⟨?_, ?_, ?_⟩⟩
      · exact ⟨hkept.setUp.trans (.of_tree htree), by rw [htree]; exact hkept.links⟩
      · simpa using hb.symm
      · exact fun q hq => hq
  | true =>
      obtain ⟨hne, hcleared⟩ := unlink_spec h
      rw [htree] at hne hcleared
      refine ⟨hkept.touched hevents hne, ?_⟩
      intro hr
      obtain ⟨hdir, hnone⟩ := hcleared hr
      refine ⟨⟨hkept.touched hevents hne, hkept.links.trans ?_⟩, hnone, ?_⟩
      · intro q target
        by_cases hq : q = dir ++ ["events.jsonl"]
        · rw [hq, hnone]
          simp [hnot target]
        · rw [hne q hq]
      · intro q hq
        rw [hne q, hq]
        rintro rfl
        exact hdir hq

/-- The events file is open in its place: the file that was there, or a new
one. -/
theorem openEvents_spec (hplain : PlainEvents p d args)
    (hkept : Kept p args d d₁)
    {r : Except Exc (Location × List UInt8)}
    (h : openEvents p args d₁ = (r, d₂)) :
    SetUp (IsEventsFile p d args) d d₂
      ∧ ∀ path before, r = .ok (path, before) →
          IsEventsFile p d args path
            ∧ d₂.tree.node path = some (.file before)
            ∧ (d₁.tree.node path = none → before = [])
            ∧ ∀ q, d₁.tree.node q = some .directory →
                d₂.tree.node q = some .directory := by
  rcases Py.bind_cases h with ⟨dir, d₃, hmake, h⟩ | ⟨exc, hmake, rfl⟩
  swap
  · exact ⟨(hkept.mkdirAt hmake).setUp, fun _ _ hr => by cases hr⟩
  have hkept₃ := hkept.mkdirAt hmake
  obtain ⟨⟨q₀, hmade⟩, hdir⟩ := mkdirAt_spec hmake
  obtain ⟨hcanonical, hthere⟩ := hdir dir rfl
  have hevents : IsEventsFile p d args (dir ++ ["events.jsonl"]) :=
    ⟨dir, hkept.canonical hcanonical, rfl⟩
  rw [Py.bind_ok (Py.get_apply _),
    followEvents_plain (hkept₃.plain hplain hevents)] at h
  rcases Py.bind_cases h with ⟨content, d₄, hopen, h⟩ | ⟨exc, hopen, rfl⟩
  swap
  · exact ⟨hkept₃.touched hevents (openAppend_spec hopen).1,
      fun _ _ hr => by cases hr⟩
  injection h with hr hd
  subst hd
  obtain ⟨hne, hopened⟩ := openAppend_spec hopen
  refine ⟨hkept₃.touched hevents hne, ?_⟩
  intro path before hok
  rw [← hr] at hok
  cases hok
  obtain ⟨hfile, hempty, hnot⟩ := hopened content rfl
  refine ⟨hevents, hfile, ?_, ?_⟩
  · intro hnone
    refine hempty ?_
    rcases hmade.grown (dir ++ ["events.jsonl"]) with hsame | ⟨-, hmade, -⟩
    · rw [hsame, hnone]
    · exact absurd hmade hnot
  · intro q hq
    have hq := hmade.directory hq
    rw [hne q, hq]
    rintro rfl
    exact hnot hq

end

/-- One statement of what is done before a run: it raises, or the rest goes
on. -/
theorem setUp_bind {α β : Type} {m : Py Disk α} {f : α → Py Disk β}
    {S : Location → Prop} {Q : β → Prop} {r : Except Exc β}
    {d d₁ d' : Disk} (h : (m >>= f) d₁ = (r, d'))
    (hraises : ∀ exc, m d₁ = (.error exc, d') → SetUp S d d')
    (hnext : ∀ a d₂, m d₁ = (.ok a, d₂) → f a d₂ = (r, d') →
      SetUp S d d' ∧ ∀ b, r = .ok b → Q b) :
    SetUp S d d' ∧ ∀ b, r = .ok b → Q b := by
  rcases Py.bind_cases h with ⟨a, d₂, hm, h⟩ | ⟨exc, hm, rfl⟩
  · exact hnext a d₂ hm h
  · exact ⟨hraises exc hm, fun b hb => by cases hb⟩

/-- From the old events file to the new one, with the client made in between:
what is opened is empty, and in the place of what was cleared away. -/
theorem freshEvents_spec {α β : Type} {p : Platform} {args : Args}
    {d d₁ d' : Disk} {dir : Location} {made : Except Exc α} {f : α → β}
    {r : Except Exc (β × Location × List UInt8)}
    (hplain : PlainEvents p d args) (hkept : Kept p args d d₁)
    (hevents : IsEventsFile p d args (dir ++ ["events.jsonl"]))
    (h : (do
      clearEvents p args dir
      let client ← Py.ofExcept made
      let (path, before) ← openEvents p args
      return (f client, path, before)) d₁ = (r, d')) :
    SetUp (IsEventsFile p d args) d d'
      ∧ ∀ ready, r = .ok ready →
          (∃ client, made = .ok client ∧ ready.1 = f client)
            ∧ IsEventsFile p d args ready.2.1
            ∧ ready.2.2 = []
            ∧ d'.tree.node ready.2.1 = some (.file [])
            ∧ ∀ q, d₁.tree.node q = some .directory →
                d'.tree.node q = some .directory := by
  refine setUp_bind h
    (fun exc hclear => (clearEvents_spec hplain hkept hevents hclear).1) ?_
  intro _ d₂ hclear h
  obtain ⟨hkept₂, hnone, hdirs₂⟩ :=
    (clearEvents_spec hplain hkept hevents hclear).2 rfl
  refine setUp_bind h ?_ ?_
  · intro exc hclient
    injection hclient with _ hd
    rw [← hd]
    exact hkept₂.setUp
  intro client d₃ hclient h
  injection hclient with hmade hd
  subst hd
  refine setUp_bind h
    (fun exc hopen => (openEvents_spec hplain hkept₂ hopen).1) ?_
  rintro ⟨path, before⟩ d₄ hopen h
  obtain ⟨hsetup, hopened⟩ := openEvents_spec hplain hkept₂ hopen
  obtain ⟨hpath, hfile, hempty, hdirs₄⟩ := hopened path before rfl
  have hbefore : before = [] := by
    refine hempty ?_
    rw [hpath.unique hevents, hnone]
  injection h with hr hd
  subst hd
  refine ⟨hsetup, ?_⟩
  intro ready hok
  rw [← hr] at hok
  cases hok
  exact ⟨⟨client, hmade, rfl⟩, hpath, hbefore, hbefore ▸ hfile,
    fun q hq => hdirs₄ q (hdirs₂ q hq)⟩

/-- The body of `main` up to the run, statement by statement: whatever it came
to, only the events file and directories changed, and what it hands on is as
the arguments ask. -/
theorem prepare_spec {args : Args} {taskPath : Location} {d d' : Disk}
    {r : Except Exc (Invocation (Disk × κ) × Location × List UInt8)}
    (hplain : PlainEvents inst.host.toPlatform d args)
    (h : prepare inst environ args taskPath d = (r, d')) :
    SetUp (IsEventsFile inst.host.toPlatform d args) d d'
      ∧ ∀ ready, r = .ok ready →
          Prepared inst environ args taskPath d d' ready.1 ready.2.1
            ready.2.2 := by
  refine setUp_bind h (fun exc hload => .of_tree (loadTask_spec hload).1) ?_
  intro spec d₁ hload h
  obtain ⟨htree₁, htask⟩ := loadTask_spec hload
  refine setUp_bind h
    (fun exc hkey => .of_tree ((readApiKey_spec hkey).trans htree₁)) ?_
  intro apiKey d₂ hkey h
  have hkept₂ : Kept inst.host.toPlatform args d d₂ :=
    .of_tree ((readApiKey_spec hkey).trans htree₁)
  refine setUp_bind h (fun exc hwork => (hkept₂.mkdirAt hwork).setUp) ?_
  intro workspace d₃ hwork h
  have hkept₃ := hkept₂.mkdirAt hwork
  obtain ⟨hroot, hroot₃⟩ := (mkdirAt_spec hwork).2 workspace rfl
  refine setUp_bind h (fun exc htrace => (hkept₃.mkdirAt htrace).setUp) ?_
  intro dir d₄ htrace h
  obtain ⟨⟨q, hmade₄⟩, hdir⟩ := mkdirAt_spec htrace
  have hevents : IsEventsFile inst.host.toPlatform d args
      (dir ++ ["events.jsonl"]) :=
    ⟨dir, hkept₃.canonical (hdir dir rfl).1, rfl⟩
  obtain ⟨hsetup, hfresh⟩ :=
    freshEvents_spec hplain (hkept₃.mkdirAt htrace) hevents h
  refine ⟨hsetup, ?_⟩
  intro ready hok
  obtain ⟨⟨client, hclient, hinv⟩, hpath, hempty, hopened, hdirs⟩ :=
    hfresh ready hok
  obtain ⟨bytes, hnode, hparse⟩ := htask spec rfl
  exact {
    task := ⟨bytes, spec, apiKey, client, hnode, hparse, hclient, hinv⟩
    events := hpath
    fresh := hempty
    opened := hopened
    workspace := ⟨workspace, hkept₂.canonical hroot,
      hdirs _ (hmade₄.directory hroot₃)⟩ }

/-- Which writes break off is as it was before. -/
theorem prepare_torn (args : Args) (taskPath : Location) :
    Py.Keeps Disk.torn (prepare inst environ args taskPath) := by
  have hmkdirAt : ∀ path,
      Py.Keeps Disk.torn (mkdirAt inst.host.toPlatform path) := by
    intro path
    refine .of_final fun h => ?_
    obtain ⟨⟨q, hmade⟩, -⟩ := mkdirAt_spec h
    exact hmade.torn
  refine .bind loadTask_torn fun spec => ?_
  refine .bind readApiKey_torn fun apiKey => ?_
  refine .bind (hmkdirAt _) fun _ => ?_
  refine .bind (hmkdirAt _) fun traceDir => ?_
  refine .bind ?_ fun _ => ?_
  · refine .bind (.of_final fun h => (ask_spec h).1.torn) fun b => ?_
    cases b with
    | true => exact unlink_torn _
    | false => exact .pure ()
  refine .bind (.ofExcept _) fun client => ?_
  refine .bind ?_ fun _ => .pure _
  refine .bind (hmkdirAt _) fun traceDir => .bind .get fun d => ?_
  cases followEvents inst.host.toPlatform args traceDir d.tree with
  | some target => exact (openAppend_torn target).bind fun before => .pure _
  | none => exact orFail_torn _ _

/-- Nothing has come of the process but what was done to its disk. -/
structure Unstarted (p p' : Process κ) : Prop where
  client : p'.client = p.client
  trace : p'.trace = p.trace
  stdout : p'.stdout = p.stdout

/-- A whole run of the task at `taskPath`, and its events in a trace of
their own. -/
structure Ran (inst : Installation κ φ) (environ : Environ)
    (options : Options) (taskPath : Location) (p p' : Process κ)
    (inv : Invocation (Disk × κ)) (d : Disk) (path : Location) : Prop where
  named : Canonical p.disk.tree inst.host.cwd
    (Path.parse (parseArgs environ options).task) taskPath
  setUp : SetUp (IsEventsFile inst.host.toPlatform p.disk
    (parseArgs environ options)) p.disk d
  torn : d.torn = p.disk.torn
  prepared : Prepared inst environ (parseArgs environ options) taskPath
    p.disk d inv path []
  disk : p'.disk = (execute inv (d, p.client) inst.clock).2.runtime.world.1
  client : p'.client
    = (execute inv (d, p.client) inst.clock).2.runtime.world.2
  trace : p'.trace
    = some ⟨path, [], eventsOf inv (d, p.client) inst.clock⟩
  stdout : p'.stdout = p.stdout
    ++ if (parseArgs environ options).echoEvents then
        eventsOf inv (d, p.client) inst.clock else []

/-- The OS clock is never used up. -/
theorem Installation.clock_lasts (inst : Installation κ φ) (n : Nat) :
    inst.clock.Lasts n :=
  Clock.lasts_system inst.wall inst.mono 0 n

variable (inst) in
/-- The run in the with block never raises. -/
theorem traced_eq (inv : Invocation (Disk × κ)) (path : Location)
    (before : List UInt8) (echo : Bool) (p : Process κ) :
    ∃ done, traced inst inv path before echo p = (.ok done, { p with
      disk := (execute inv (p.disk, p.client) inst.clock).2.runtime.world.1
      client := (execute inv (p.disk, p.client) inst.clock).2.runtime.world.2
      trace := some
        ⟨path, before, eventsOf inv (p.disk, p.client) inst.clock⟩
      stdout := p.stdout ++ if echo then
        eventsOf inv (p.disk, p.client) inst.clock else [] }) := by
  exact ⟨_, Prod.ext (execute_returns inv (inst.clock_lasts _)) rfl⟩

theorem onDisk_cases {α : Type} {m : Py Disk α} {p p' : Process κ}
    {r : Except Exc α} (h : onDisk m p = (r, p')) :
    m p.disk = (r, p'.disk) ∧ p' = { p with disk := p'.disk } := by
  injection h with hr hp
  rw [← hp, ← hr]
  exact ⟨rfl, rfl⟩

/-- How `main` ends, with no link in the place of the events file. Without a
task it exits 1, and has only looked. What
fails before the run fails with no trace opened, and of what was on the
disk only an events file of an earlier run can be gone. Otherwise it exits
0, whatever became of the agent: a whole run of the task that was on the
disk is in a trace that holds nothing else. -/
theorem main_outcomes {options : Options} {p p' : Process κ}
    {r : Except Exc Int} (hplain : PlainEvents inst.host.toPlatform p.disk
      (parseArgs environ options))
    (h : main inst environ options p = (r, p')) :
    (r = .ok 1 ∧ p.disk.Quiet p'.disk ∧ Unstarted p p')
      ∨ ((∃ exc, r = .error exc) ∧ Unstarted p p'
          ∧ SetUp (IsEventsFile inst.host.toPlatform p.disk
              (parseArgs environ options)) p.disk p'.disk)
      ∨ (r = .ok 0 ∧ ∃ taskPath inv d path,
          Ran inst environ options taskPath p p' inv d path) := by
  unfold main at h
  rcases Py.bind_cases h with ⟨file, p₁, hfile, h⟩ | ⟨exc, hfile, rfl⟩
  case inr =>
    obtain ⟨hlook, hp⟩ := onDisk_cases hfile
    refine Or.inr (Or.inl ⟨⟨exc, rfl⟩, ?_, .of_tree (fileAt_spec hlook).1.1⟩)
    rw [hp]
    exact ⟨rfl, rfl, rfl⟩
  obtain ⟨hlook, hp₁⟩ := onDisk_cases hfile
  obtain ⟨hquiet, hcanonical⟩ := fileAt_spec hlook
  have hback : ∀ q, IsEventsFile inst.host.toPlatform p₁.disk
      (parseArgs environ options) q → IsEventsFile inst.host.toPlatform p.disk
        (parseArgs environ options) q := fun q => .of_tree hquiet.1
  have hplain₁ : PlainEvents inst.host.toPlatform p₁.disk
      (parseArgs environ options) := by
    intro q hq target
    rw [hquiet.1]
    exact hplain q (hback q hq) target
  cases file with
  | none =>
      injection h with hr hp
      rw [← hp]
      refine Or.inl ⟨hr.symm, hquiet, ?_⟩
      rw [hp₁]
      exact ⟨rfl, rfl, rfl⟩
  | some taskPath =>
      rcases Py.bind_cases h with ⟨⟨inv, path, before⟩, p₂, hprepare, h⟩
        | ⟨exc, hprepare, rfl⟩
      · obtain ⟨hdisk, hp₂⟩ := onDisk_cases hprepare
        obtain ⟨hsetup, hprepared⟩ := prepare_spec hplain₁ hdisk
        have hready := (hprepared _ rfl).of_tree hquiet.1
        have hbefore := hready.fresh
        subst hbefore
        obtain ⟨done, htraced⟩ := traced_eq inst inv path []
          (parseArgs environ options).echoEvents p₂
        have hclient : p₂.client = p.client := by rw [hp₂, hp₁]
        have hstdout : p₂.stdout = p.stdout := by rw [hp₂, hp₁]
        rw [hclient, hstdout] at htraced
        have hend := (Py.bind_ok htraced).symm.trans h
        injection hend with hr hp
        refine Or.inr (Or.inr ⟨hr.symm, taskPath, inv, p₂.disk, path, ?_⟩)
        rw [← hp]
        exact {
          named := hcanonical taskPath rfl
          setUp := (SetUp.of_tree hquiet.1).trans (hsetup.mono hback)
          torn := (prepare_torn _ taskPath).final hdisk |>.trans hquiet.torn
          prepared := hready
          disk := rfl
          client := rfl
          trace := rfl
          stdout := rfl }
      · obtain ⟨hdisk, hp₂⟩ := onDisk_cases hprepare
        refine Or.inr (Or.inl ⟨⟨exc, rfl⟩, ?_,
          (SetUp.of_tree hquiet.1).trans ((prepare_spec hplain₁ hdisk).1.mono hback)⟩)
        rw [hp₂, hp₁]
        exact ⟨rfl, rfl, rfl⟩

end

-- ==================================================== where nothing fails

section

variable {p : Platform} {path : Path} {d : Disk} {q : Location}

/-- On a sound disk a file that is there is found. -/
theorem fileAt_ok (hsound : d.Sound) (hpath : p.resolve d.tree path = .ok q)
    {bytes : List UInt8} (hfile : d.tree.node q = some (.file bytes)) :
    fileAt p path d = (.ok (some q), d.called) := by
  unfold fileAt
  rw [Py.bind_ok (sysCall_ok hsound), Py.bind_ok (Py.get_apply _),
    Disk.called_tree]
  simp only [hpath, hfile, isRegular, if_true]
  rfl

/-- A directory that is there is accepted. -/
theorem mkdirAt_ok (hsound : d.Sound) (hpath : p.resolve d.tree path = .ok q)
    (hdir : d.tree.node q = some .directory) :
    mkdirAt p path d = (.ok q, d.called.called.called) := by
  have hresolve : p.resolved path d = (.ok q, d.called) := by
    unfold Platform.resolved
    rw [Py.bind_ok (sysCall_ok hsound), Py.bind_ok (Py.get_apply _),
      Disk.called_tree, hpath]
    rfl
  have hsound' : d.called.Sound := hsound
  unfold mkdirAt
  rw [Py.bind_ok hresolve, Py.bind_ok (mkdirs_ok hsound' hdir)]
  rfl

/-- Without an events file there is nothing to clear. -/
theorem clearEvents_ok {args : Args} (hsound : d.Sound)
    (hnone : d.tree.node (q ++ ["events.jsonl"]) = none) :
    clearEvents p args q d = (.ok (), d.called) := by
  have hplain : ∀ target,
      d.tree.node (q ++ ["events.jsonl"]) ≠ some (.link target) := by
    simp [hnone]
  have hexist : eventsExist p args q d = (.ok false, d.called) := by
    unfold eventsExist
    rw [Py.bind_ok (sysCall_ok hsound), Py.bind_ok (Py.get_apply _),
      Disk.called_tree, followEvents_plain hplain, Option.bind_some, hnone]
    rfl
  unfold clearEvents
  rw [Py.bind_ok hexist]
  rfl

theorem openEvents_ok {args : Args} (hsound : d.Sound)
    (hpath : p.resolve d.tree (Path.parse args.traceDir) = .ok q)
    (hdir : d.tree.node q = some .directory)
    (hnone : d.tree.node (q ++ ["events.jsonl"]) = none) :
    ∃ d', openEvents p args d = (.ok (q ++ ["events.jsonl"], []), d') := by
  have hplain : ∀ target,
      d.tree.node (q ++ ["events.jsonl"]) ≠ some (.link target) := by
    simp [hnone]
  have hsound' : d.called.called.called.Sound := hsound
  have hparent : d.called.called.called.tree.node
      (q ++ ["events.jsonl"]).dropLast = some .directory := by
    rw [List.dropLast_concat]
    exact hdir
  obtain ⟨d', hopen⟩ := openAppend_ok hsound' hparent hnone
  have hfollow : followEvents p args q d.called.called.called.tree
      = some (q ++ ["events.jsonl"]) := followEvents_plain hplain
  refine ⟨d', ?_⟩
  unfold openEvents
  rw [Py.bind_ok (mkdirAt_ok hsound hpath hdir), Py.bind_ok (Py.get_apply _),
    hfollow]
  exact Py.bind_ok hopen

theorem loadTask_ok {t : YamlText} {bytes : List UInt8} (hsound : d.Sound)
    (hfile : d.tree.node q = some (.file bytes)) :
    loadTask t q d = (parseTask t bytes, d.called.logged (.read q)) := by
  unfold loadTask
  rw [Py.bind_ok (readBytes_ok hsound hfile)]
  rfl

end

section

variable {κ φ : Type} {inst : Installation κ φ} {environ : Environ}
  {options : Options} {p : Process κ}

/-- The mounts a container starts with, as the entry point looks at them:
the task, a workspace, and a trace directory with no events in it. -/
structure Ready (p : Platform) (args : Args) (d : Disk)
    (taskPath : Location) (bytes : List UInt8) : Prop where
  sound : d.Sound
  task : p.resolve d.tree (Path.parse args.task) = .ok taskPath
    ∧ d.tree.node taskPath = some (.file bytes)
  workspace : ∃ q, p.resolve d.tree (Path.parse args.workspace) = .ok q
    ∧ d.tree.node q = some .directory
  traceDir : ∃ q, p.resolve d.tree (Path.parse args.traceDir) = .ok q
    ∧ d.tree.node q = some .directory
    ∧ d.tree.node (q ++ ["events.jsonl"]) = none

/-- There is nothing in the place of the events file, so no link. -/
theorem Ready.plain {p : Platform} {args : Args} {d : Disk}
    {taskPath : Location} {bytes : List UInt8}
    (h : Ready p args d taskPath bytes) : PlainEvents p d args := by
  rintro q ⟨dir, hdir, rfl⟩ target hlink
  obtain ⟨dir', hresolve, -, hnone⟩ := h.traceDir
  rw [hdir.unique (p.resolve_canonical _ _ _ hresolve), hnone] at hlink
  cases hlink

/-- No key, in a file or in the environment. -/
structure Keyless (environ : Environ) : Prop where
  file : environ.lookup "AGENT_ANVIL_API_KEY_FILE" = none
  key : environ.lookup "ANTHROPIC_API_KEY" = none

/-- Without a key in the environment none is read. -/
theorem readApiKey_keyless (h : Keyless environ) (d : Disk) :
    readApiKey inst environ (environ.lookup "AGENT_ANVIL_API_KEY_FILE") d
      = (.ok none, d) := by
  rw [h.file]
  show (Except.ok (environ.lookup "ANTHROPIC_API_KEY"), d) = _
  rw [h.key]

/-- With its mounts ready and no key, what is prepared for a run fails if
the task cannot be loaded or its client cannot be made, and else not. -/
theorem prepare_ready {args : Args} {d : Disk} {taskPath : Location}
    {bytes : List UInt8}
    (h : Ready inst.host.toPlatform args d taskPath bytes)
    (hkeyless : Keyless environ) :
    ((prepare inst environ args taskPath d).1.map fun _ => ())
      = (parseTask inst.yaml bytes >>= fun spec =>
          (makeClient inst environ (providerOf args spec) (modelOf spec)
            none).map fun _ => ()) := by
  have hload := loadTask_ok (t := inst.yaml) h.sound h.task.2
  unfold prepare
  cases hparse : parseTask inst.yaml bytes with
  | error exc =>
      rw [hparse] at hload
      rw [Py.bind_error hload]
      rfl
  | ok spec =>
      rw [hparse] at hload
      obtain ⟨work, hwork, hworkDir⟩ := h.workspace
      obtain ⟨dir, htrace, hdir, hnone⟩ := h.traceDir
      rw [Py.bind_ok hload, Py.bind_ok (readApiKey_keyless hkeyless _)]
      have hsound : ∀ d' : Disk, d'.faults = d.faults → d'.Sound := by
        intro d' hfaults n
        rw [hfaults]
        exact h.sound n
      have hmakeWork := mkdirAt_ok (d := d.called.logged (.read taskPath))
        (hsound _ rfl) hwork hworkDir
      have hmakeTrace := mkdirAt_ok
        (d := (d.called.logged (.read taskPath)).called.called.called)
        (hsound _ rfl) htrace hdir
      have hsound' : (d.called.logged
          (.read taskPath)).called.called.called.called.called.called.Sound :=
        hsound _ rfl
      have hclear : clearEvents inst.host.toPlatform args dir _ = _ :=
        clearEvents_ok hsound' hnone
      rw [Py.bind_ok hmakeWork, Py.bind_ok hmakeTrace, Py.bind_ok hclear]
      show _ = (makeClient inst environ _ _ none).map _
      cases hclient : makeClient inst environ (providerOf args spec)
        (modelOf spec) none with
      | error exc => rfl
      | ok client =>
          have hopens : ∃ d', openEvents inst.host.toPlatform args
              (d.called.logged (.read
                taskPath)).called.called.called.called.called.called.called
              = (.ok (dir ++ ["events.jsonl"], []), d') :=
            openEvents_ok (hsound _ rfl) htrace hdir hnone
          obtain ⟨d', hopen⟩ := hopens
          rw [Py.bind_ok (Py.ofExcept_apply _ _), Py.bind_ok hopen]
          rfl

/-- A task on its mounts is run if it loads and its client needs no key. -/
theorem main_ready {taskPath : Location} {bytes : List UInt8}
    (h : Ready inst.host.toPlatform (parseArgs environ options) p.disk taskPath
      bytes) (hkeyless : Keyless environ) :
    (main inst environ options p).1 = .ok 0 ↔ ∃ spec client,
      parseTask inst.yaml bytes = .ok spec
        ∧ makeClient inst environ (providerOf (parseArgs environ options) spec)
            (modelOf spec) none = .ok client := by
  have hcalled : Ready inst.host.toPlatform (parseArgs environ options)
      p.disk.called taskPath bytes :=
    ⟨h.sound, h.task, h.workspace, h.traceDir⟩
  have hprepare := prepare_ready hcalled hkeyless
  have hfile : onDisk (fileAt inst.host.toPlatform
      (Path.parse (parseArgs environ options).task)) p
      = (.ok (some taskPath), { p with disk := p.disk.called }) :=
    Py.zoom_eq (fileAt_ok h.sound h.task.1 h.task.2)
  have hmain : main inst environ options p
      = runTask inst environ (parseArgs environ options) taskPath
        { p with disk := p.disk.called } := Py.bind_ok hfile
  rw [hmain]
  unfold runTask
  rcases hready : prepare inst environ (parseArgs environ options) taskPath
    p.disk.called with ⟨prepared, d⟩
  have hdisk : onDisk (prepare inst environ (parseArgs environ options)
      taskPath) { p with disk := p.disk.called }
      = (prepared, { p with disk := d }) := Py.zoom_eq hready
  rw [hready] at hprepare
  cases prepared with
  | error exc =>
      rw [Py.bind_error hdisk]
      constructor
      · intro hzero
        cases hzero
      · rintro ⟨spec, client, hparse, hclient⟩
        rw [hparse] at hprepare
        show _ = Except.ok (0 : Int)
        simp only [bind, Except.bind, hclient, Except.map] at hprepare
        cases hprepare
  | ok x =>
      obtain ⟨inv, path, before⟩ := x
      obtain ⟨done, htraced⟩ := traced_eq inst inv path before
        (parseArgs environ options).echoEvents { p with disk := d }
      rw [Py.bind_ok hdisk]
      simp only
      rw [Py.bind_ok htraced]
      refine ⟨fun _ => ?_, fun _ => rfl⟩
      cases hparse : parseTask inst.yaml bytes with
      | error exc =>
          rw [hparse] at hprepare
          cases hprepare
      | ok spec =>
          rw [hparse] at hprepare
          cases hclient : makeClient inst environ
            (providerOf (parseArgs environ options) spec) (modelOf spec)
            none with
          | error exc =>
              simp only [bind, Except.bind, hclient] at hprepare
              cases hprepare
          | ok client => exact ⟨spec, client, rfl, hclient⟩

end

-- ================================================================== examples

namespace Sample

/-- A host without a shell, a parser that knows no text and no provider. -/
def bare : Installation Unit Unit where
  host :=
    { toPlatform := .walking 20
      shell := fun _ _ _ d => (.timeoutExpired, d)
      repr := fun _ => "" }
  yaml :=
    { safeLoad := fun _ => .error ⟨"ScannerError", ""⟩
      int := fun _ => .error (validationError "int")
      decodeError := fun _ => "" }
  anthropic _ := .error ⟨"ImportError", ""⟩
  wall _ := "2026-01-15T10:30:00.123Z"
  mono := everyMsNs
  wallStart := 0
  wallEnd := 0

/-- A process on this tree, of which nothing has come. -/
def processOn (t : Tree) : Process Unit where
  disk := .ofTree t
  client := ()
  trace := none
  stdout := []
  stderr := []

end Sample

end AgentAnvil.Sdk
