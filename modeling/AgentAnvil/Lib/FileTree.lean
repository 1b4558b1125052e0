/-
File trees with symbolic links, and what a path names in one.

A location is the names from the root down to a node; it says where
something is. A path is what a program writes: it may be relative, go up,
and run through links. `Walk` leads from the one to the other, one part at
a time: a link is replaced by its target before what follows it is looked
at, and `..` goes up from where the walk has come.

A walk depends on the links of a tree and on nothing else (`Walk.congr`),
ends in one place (`Walk.unique`), and only names it could find in a
directory are on the location it ends at (`Walk.entries`). There is no link
on the way to that location (`Walk.linkless`), so it is its own path
(`walk_of_linkless`).
-/
import Mathlib.Data.List.Infix
import Mathlib.Data.String.Basic

namespace Fs

-- ================================================================= paths

/-- What a path starts with. Exactly two slashes are a root of their own. -/
inductive Root where
  | relative
  | slash
  | slashes
  deriving DecidableEq, Repr

/-- A part of a path. -/
def isPart (s : String) : Bool :=
  s ≠ "" && s ≠ "." && !s.toList.contains '/'

/-- A part that can be the name of a node. -/
def isEntry (s : String) : Bool := isPart s && s ≠ ".."

structure Path where
  root : Root
  parts : List String
  parted : ∀ part ∈ parts, isPart part = true
  deriving DecidableEq

namespace Path

def rootOf : List Char → Root
  | '/' :: '/' :: '/' :: _ => .slash
  | '/' :: '/' :: _ => .slashes
  | '/' :: _ => .slash
  | _ => .relative

/-- What is between the slashes. Empty pieces and dots are no parts. -/
def parse (s : String) : Path where
  root := rootOf s.toList
  parts := ((s.toList.splitOn '/').map String.ofList).filter isPart
  parted := fun _ hpart => (List.mem_filter.mp hpart).2

/-- A path seen from another: an absolute one is not. -/
def join (p q : Path) : Path :=
  if q.root = .relative then
    { root := p.root
      parts := p.parts ++ q.parts
      parted := fun part hpart =>
        (List.mem_append.mp hpart).elim (p.parted part) (q.parted part) }
  else q

end Path

-- ================================================================== trees

abbrev Location := List String

inductive Node where
  | file (content : List UInt8)
  | directory
  | link (target : Path)
  deriving DecidableEq

/-- What is in a tree is in a directory of it. -/
structure Tree where
  node : Location → Option Node
  root : node [] = some .directory
  closed : ∀ p n, node (p ++ [n]) ≠ none → node p = some .directory

namespace Tree

/-- Only the root. -/
def empty : Tree where
  node p := if p = [] then some .directory else none
  root := rfl
  closed := by
    intro p n h
    rw [if_neg (by simp)] at h
    exact absurd rfl h

/-- A node in a directory, where there is no directory yet. -/
def put (t : Tree) (q : Location) (node : Node)
    (hparent : t.node q.dropLast = some .directory)
    (hq : t.node q ≠ some .directory) : Tree where
  node p := if p = q then some node else t.node p
  root := by
    rw [if_neg, t.root]
    intro h
    rw [← h, t.root] at hq
    exact hq rfl
  closed := by
    intro p n h
    by_cases hpq : p ++ [n] = q
    · subst hpq
      rw [List.dropLast_concat] at hparent
      rw [if_neg (by simp), hparent]
    · rw [if_neg hpq] at h
      have hp := t.closed p n h
      rw [if_neg, hp]
      rintro rfl
      exact hq hp

/-- Without a node that is no directory. -/
def remove (t : Tree) (q : Location)
    (hq : t.node q ≠ some .directory) : Tree where
  node p := if p = q then none else t.node p
  root := by
    rw [if_neg, t.root]
    intro h
    rw [← h, t.root] at hq
    exact hq rfl
  closed := by
    intro p n h
    by_cases hpq : p ++ [n] = q
    · rw [if_pos hpq] at h
      exact absurd rfl h
    · rw [if_neg hpq] at h
      have hp := t.closed p n h
      rw [if_neg, hp]
      rintro rfl
      exact hq hp

variable {t : Tree} {p q : Location} {node : Node}
  {hparent : t.node q.dropLast = some .directory}
  {hq : t.node q ≠ some .directory}

@[simp] theorem put_self : (t.put q node hparent hq).node q = some node :=
  if_pos rfl

@[simp] theorem put_ne (h : p ≠ q) :
    (t.put q node hparent hq).node p = t.node p :=
  if_neg h

/-- What a node is in is a directory. -/
theorem directory_of_below (hq : t.node q ≠ none) (h : p <+: q)
    (hne : p ≠ q) : t.node p = some .directory := by
  obtain ⟨rest, rfl⟩ := h
  induction rest using List.reverseRecOn with
  | nil => exact absurd (List.append_nil p).symm hne
  | append_singleton rest n ih =>
      rw [← List.append_assoc] at hq
      have hparent := t.closed _ _ hq
      by_cases hrest : rest = []
      · rwa [hrest, List.append_nil] at hparent
      · refine ih ?_ (by simpa using hrest)
        rw [hparent]
        exact Option.some_ne_none _

/-- A directory is below directories only. -/
theorem directory_above (hq : t.node q = some .directory) (h : p <+: q) :
    t.node p = some .directory := by
  by_cases hne : p = q
  · rw [hne, hq]
  · exact directory_of_below (by rw [hq]; exact Option.some_ne_none _) h hne

/-- Two trees with the same links. -/
def SameLinks (t t' : Tree) : Prop :=
  ∀ p target, t.node p = some (.link target) ↔ t'.node p = some (.link target)

theorem SameLinks.refl (t : Tree) : SameLinks t t := fun _ _ => Iff.rfl

theorem SameLinks.symm {t t' : Tree} (h : SameLinks t t') : SameLinks t' t :=
  fun p target => (h p target).symm

theorem SameLinks.trans {t t' t'' : Tree} (h : SameLinks t t')
    (h' : SameLinks t' t'') : SameLinks t t'' :=
  fun p target => (h p target).trans (h' p target)

/-- No link is at a location or on the way to it. -/
def Linkless (t : Tree) (q : Location) : Prop :=
  ∀ p, p <+: q → ∀ target, t.node p ≠ some (.link target)

theorem linkless_nil (t : Tree) : Linkless t [] := by
  intro p hp target
  rw [List.prefix_nil.mp hp, t.root]
  simp

/-- Without links on the way to a place, there are none on the way to a place
above it. -/
theorem Linkless.above {t : Tree} {p q : Location} (h : Linkless t q)
    (hp : p <+: q) : Linkless t p :=
  fun o ho => h o (ho.trans hp)

theorem Linkless.congr {t t' : Tree} {q : Location} (h : Linkless t q)
    (hlinks : SameLinks t t') : Linkless t' q :=
  fun p hp target hnode => h p hp target ((hlinks p target).mpr hnode)

end Tree

-- ================================================================== walks

/-- Where a path starts, seen from a location. -/
def Path.start (path : Path) (cur : Location) : Location :=
  if path.root = .relative then cur else []

/-- Going along parts from a location. -/
inductive Walk (t : Tree) : Location → List String → Location → Prop where
  | done {cur} : Walk t cur [] cur
  | up {cur parts q} (next : Walk t cur.dropLast parts q) :
      Walk t cur (".." :: parts) q
  | follow {cur name parts q target} (hname : name ≠ "..")
      (hlink : t.node (cur ++ [name]) = some (.link target))
      (next : Walk t (target.start cur) (target.parts ++ parts) q) :
      Walk t cur (name :: parts) q
  | enter {cur name parts q} (hname : name ≠ "..")
      (hlink : ∀ target, t.node (cur ++ [name]) ≠ some (.link target))
      (next : Walk t (cur ++ [name]) parts q) : Walk t cur (name :: parts) q

/-- The location a path is at, for a program that runs in `cwd`. -/
def Canonical (t : Tree) (cwd : Location) (path : Path) (q : Location) :
    Prop :=
  Walk t (path.start cwd) path.parts q

namespace Walk

variable {t t' : Tree} {cur q q' : Location} {parts : List String}

theorem unique (h : Walk t cur parts q) (h' : Walk t cur parts q') :
    q = q' := by
  induction h with
  | done =>
      cases h'
      rfl
  | up _ ih =>
      cases h' with
      | up next => exact ih next
      | follow hname => exact absurd rfl hname
      | enter hname => exact absurd rfl hname
  | follow hname hlink _ ih =>
      cases h' with
      | up => exact absurd rfl hname
      | follow _ hlink' next =>
          rw [hlink] at hlink'
          injection hlink' with hnode
          injection hnode with htarget
          subst htarget
          exact ih next
      | enter _ hlink' => exact absurd hlink (hlink' _)
  | enter hname hlink _ ih =>
      cases h' with
      | up => exact absurd rfl hname
      | follow _ hlink' => exact absurd hlink' (hlink _)
      | enter _ _ next => exact ih next

/-- Trees with the same links are walked alike. -/
theorem congr (h : Walk t cur parts q) (hlinks : Tree.SameLinks t t') :
    Walk t' cur parts q := by
  induction h with
  | done => exact .done
  | up _ ih => exact .up ih
  | follow hname hlink _ ih =>
      exact .follow hname ((hlinks _ _).mp hlink) ih
  | enter hname hlink _ ih =>
      refine .enter hname ?_ ih
      intro target htarget
      exact hlink target ((hlinks _ _).mpr htarget)

/-- The names on the way are names of nodes. -/
theorem entries (h : Walk t cur parts q)
    (hcur : ∀ name ∈ cur, isEntry name = true)
    (hparts : ∀ part ∈ parts, isPart part = true) :
    ∀ name ∈ q, isEntry name = true := by
  induction h with
  | done => exact hcur
  | up _ ih =>
      refine ih (fun name hname => hcur name (List.mem_of_mem_dropLast hname))
        fun part hpart => hparts part (List.mem_cons_of_mem _ hpart)
  | @follow cur name parts q target hname hlink _ ih =>
      refine ih ?_ ?_
      · intro name' hname'
        unfold Path.start at hname'
        split at hname'
        · exact hcur name' hname'
        · cases hname'
      · intro part hpart
        rcases List.mem_append.mp hpart with h | h
        · exact target.parted part h
        · exact hparts part (List.mem_cons_of_mem _ h)
  | @enter cur name parts q hname hlink _ ih =>
      refine ih ?_ fun part hpart =>
        hparts part (List.mem_cons_of_mem _ hpart)
      intro name' hname'
      rcases List.mem_append.mp hname' with h | h
      · exact hcur name' h
      · rw [List.mem_singleton.mp h, isEntry,
          hparts name List.mem_cons_self]
        simpa using hname

/-- A walk that sets out where no link is ends where no link is. -/
theorem linkless (h : Walk t cur parts q) (hcur : Tree.Linkless t cur) :
    Tree.Linkless t q := by
  induction h with
  | done => exact hcur
  | up _ ih => exact ih (hcur.above (List.dropLast_prefix _))
  | @follow cur name parts q target hname hlink _ ih =>
      refine ih ?_
      unfold Path.start
      split
      · exact hcur
      · exact Tree.linkless_nil t
  | @enter cur name parts q hname hlink _ ih =>
      refine ih ?_
      intro p hp
      rcases List.prefix_concat_iff.mp hp with heq | habove
      · rw [heq]
        exact hlink
      · exact hcur p habove

end Walk

/-- Where no link is on the way, a location is reached by its own names. -/
theorem walk_of_linkless {t : Tree} {cur : Location} {parts : List String}
    (h : Tree.Linkless t (cur ++ parts))
    (hparts : ∀ part ∈ parts, part ≠ "..") :
    Walk t cur parts (cur ++ parts) := by
  induction parts generalizing cur with
  | nil =>
      rw [List.append_nil]
      exact .done
  | cons name parts ih =>
      have hcons : cur ++ name :: parts = cur ++ [name] ++ parts := by
        rw [List.append_assoc, List.singleton_append]
      rw [hcons] at h ⊢
      refine .enter (hparts name List.mem_cons_self) ?_
        (ih h fun part hpart => hparts part (List.mem_cons_of_mem _ hpart))
      exact h _ (List.prefix_append _ _)

/-- A walk that gives up after so many steps, as a loop of links needs. -/
def realpath (t : Tree) : Nat → Location → List String → Option Location
  | 0, _, _ => none
  | _ + 1, cur, [] => some cur
  | fuel + 1, cur, name :: parts =>
      if name = ".." then realpath t fuel cur.dropLast parts
      else
        match t.node (cur ++ [name]) with
        | some (.link target) =>
            realpath t fuel (target.start cur) (target.parts ++ parts)
        | _ => realpath t fuel (cur ++ [name]) parts

/-- What `realpath` returns is where the path leads. -/
theorem walk_of_realpath {t : Tree} {fuel : Nat} {cur q : Location}
    {parts : List String} (h : realpath t fuel cur parts = some q) :
    Walk t cur parts q := by
  induction fuel generalizing cur parts with
  | zero => cases h
  | succ fuel ih =>
      cases parts with
      | nil =>
          injection h with h
          rw [h]
          exact .done
      | cons name parts =>
          rw [realpath] at h
          by_cases hname : name = ".."
          · rw [if_pos hname] at h
            rw [hname]
            exact .up (ih h)
          · rw [if_neg hname] at h
            split at h
            next target hlink => exact .follow hname hlink (ih h)
            next hlink => exact .enter hname hlink (ih h)

-- =================================================================== text

/-- The parts with slashes between them. -/
def slashed (names : Location) : List Char :=
  ['/'].intercalate (names.map String.toList)

/-- `str` of an absolute path. -/
def absoluteText (q : Location) : String := String.ofList ('/' :: slashed q)

/-- `str` of a relative path. -/
def relativeText (names : Location) : String :=
  if names = [] then "." else String.ofList (slashed names)

theorem isPart_iff {s : String} :
    isPart s = true ↔ s ≠ "" ∧ s ≠ "." ∧ '/' ∉ s.toList := by
  simp [isPart, and_assoc]

/-- A name of a directory entry can stand in a path. -/
theorem isPart_of_isEntry {s : String} (h : isEntry s = true) :
    isPart s = true := by
  unfold isEntry at h
  rw [Bool.and_eq_true] at h
  exact h.1

/-- The text of the first name, and a slash before the others. -/
theorem slashed_cons (name : String) (rest : Location) :
    slashed (name :: rest)
      = name.toList ++ if rest = [] then [] else '/' :: slashed rest := by
  cases rest with
  | nil => simp [slashed, List.intercalate]
  | cons n rest => simp [slashed, List.intercalate]

/-- A path written from names starts with no slash and is not the dot, so it
is neither absolute nor empty. -/
theorem slashed_start {names : Location} (hnil : names ≠ [])
    (h : ∀ name ∈ names, isPart name = true) :
    slashed names ≠ [] ∧ (slashed names).head? ≠ some '/' ∧
      slashed names ≠ ['.'] := by
  obtain ⟨name, rest, rfl⟩ := List.exists_cons_of_ne_nil hnil
  obtain ⟨hempty, hdot, hslash⟩ := isPart_iff.mp (h name List.mem_cons_self)
  obtain ⟨c, cs, hc⟩ := List.exists_cons_of_ne_nil
    (mt String.toList_eq_nil_iff.mp hempty)
  rw [hc] at hslash
  rw [slashed_cons, hc, List.cons_append]
  refine ⟨List.cons_ne_nil _ _, ?_, ?_⟩
  · intro heq
    rw [List.head?_cons] at heq
    exact hslash (by rw [Option.some.inj heq]; exact List.mem_cons_self)
  · intro heq
    injection heq with hdot' hrest
    obtain ⟨hcs, -⟩ := List.append_eq_nil_iff.mp hrest
    refine hdot (String.toList_inj.mp ?_)
    rw [hc, hdot', hcs]
    rfl

/-- Splitting at the slashes gives the parts back. -/
theorem splitOn_slashed {names : Location} (hnil : names ≠ [])
    (h : ∀ name ∈ names, isPart name = true) :
    (slashed names).splitOn '/' = names.map String.toList := by
  refine List.splitOn_intercalate '/' ?_ (by simpa using hnil)
  intro cs hcs
  obtain ⟨name, hname, rfl⟩ := List.mem_map.mp hcs
  exact (isPart_iff.mp (h name hname)).2.2

/-- Names without slashes can be read off their path. -/
theorem slashed_injective {p q : Location}
    (hp : ∀ name ∈ p, isPart name = true)
    (hq : ∀ name ∈ q, isPart name = true)
    (h : slashed p = slashed q) : p = q := by
  by_cases hpnil : p = []
  · by_cases hqnil : q = []
    · rw [hpnil, hqnil]
    · rw [hpnil] at h
      exact absurd h.symm (slashed_start hqnil hq).1
  · by_cases hqnil : q = []
    · rw [hqnil] at h
      exact absurd h (slashed_start hpnil hp).1
    · have hmap : p.map String.toList = q.map String.toList := by
        rw [← splitOn_slashed hpnil hp, ← splitOn_slashed hqnil hq, h]
      exact List.map_injective_iff.mpr (fun _ _ => String.toList_inj.mp) hmap

/-- The text of a relative path says which place it is, the dot of the empty
one included. -/
theorem relativeText_injective {p q : Location}
    (hp : ∀ name ∈ p, isPart name = true)
    (hq : ∀ name ∈ q, isPart name = true)
    (h : relativeText p = relativeText q) : p = q := by
  have hdot : ∀ {names : Location}, names ≠ [] →
      (∀ name ∈ names, isPart name = true) →
      relativeText names ≠ "." := by
    intro names hnil hnames heq
    unfold relativeText at heq
    rw [if_neg hnil] at heq
    have htext := congrArg String.toList heq
    rw [String.toList_ofList] at htext
    exact (slashed_start hnil hnames).2.2 htext
  by_cases hpnil : p = []
  · by_cases hqnil : q = []
    · rw [hpnil, hqnil]
    · rw [hpnil] at h
      exact absurd h.symm (hdot hqnil hq)
  · by_cases hqnil : q = []
    · rw [hqnil] at h
      exact absurd h (hdot hpnil hp)
    · unfold relativeText at h
      rw [if_neg hpnil, if_neg hqnil] at h
      exact slashed_injective hp hq (String.ofList_injective h)

theorem rootOf_relative {cs : List Char} (h : cs.head? ≠ some '/') :
    Path.rootOf cs = .relative := by
  cases cs with
  | nil => rfl
  | cons c cs =>
      have hc : c ≠ '/' := fun heq => h (congrArg some heq)
      rw [Path.rootOf]
      · intro cs' heq
        exact hc (List.cons.inj heq).1
      · intro cs' heq
        exact hc (List.cons.inj heq).1
      · intro cs' heq
        exact hc (List.cons.inj heq).1

/-- The text of a relative path is read as that path. -/
theorem parse_relativeText {names : Location}
    (h : ∀ name ∈ names, isPart name = true) :
    (Path.parse (relativeText names)).root = .relative ∧
      (Path.parse (relativeText names)).parts = names := by
  by_cases hnil : names = []
  · rw [hnil]
    decide
  · have htext : (relativeText names).toList = slashed names := by
      unfold relativeText
      rw [if_neg hnil, String.toList_ofList]
    have hparts : (names.map String.toList).map String.ofList = names := by
      rw [List.map_map]
      exact (List.map_congr_left fun name _ =>
        String.ofList_toList).trans (List.map_id names)
    constructor
    · show Path.rootOf (relativeText names).toList = .relative
      rw [htext]
      exact rootOf_relative (slashed_start hnil h).2.1
    · show (((relativeText names).toList.splitOn '/').map
        String.ofList).filter isPart = names
      rw [htext, splitOn_slashed hnil h, hparts]
      exact List.filter_eq_self.mpr h

/-- The text of an absolute path is read as one. -/
theorem parse_absoluteText (q : Location) :
    (Path.parse (absoluteText q)).root ≠ .relative := by
  show Path.rootOf (absoluteText q).toList ≠ .relative
  unfold absoluteText
  rw [String.toList_ofList]
  unfold Path.rootOf
  split <;> simp_all

/-- The text of what is below a directory, from there, or else from the
root: `relative_to` where it does not raise, and the path itself where it
does. -/
def textFrom (base : Path) (q : Location) : String :=
  if base.root = .slash ∧ base.parts <+: q then
    relativeText (q.drop base.parts.length)
  else absoluteText q

/-- Two locations have two texts. -/
theorem textFrom_injective {base : Path} {p q : Location}
    (hp : ∀ name ∈ p, isEntry name = true)
    (hq : ∀ name ∈ q, isEntry name = true)
    (h : textFrom base p = textFrom base q) : p = q := by
  have hparts : ∀ {names : Location} {n : Nat},
      (∀ name ∈ names, isEntry name = true) →
      ∀ name ∈ names.drop n, isPart name = true := by
    intro names n hnames name hname
    exact isPart_of_isEntry (hnames name (List.mem_of_mem_drop hname))
  have hslash : ∀ {names rest : Location},
      (∀ name ∈ rest, isPart name = true) →
      relativeText rest ≠ absoluteText names := by
    intro names rest hrest heq
    unfold relativeText absoluteText at heq
    by_cases hnil : rest = []
    · rw [if_pos hnil] at heq
      have := congrArg String.toList heq
      simp at this
    · rw [if_neg hnil] at heq
      have htext := String.ofList_injective heq
      exact (slashed_start hnil hrest).2.1 (by rw [htext]; rfl)
  unfold textFrom at h
  by_cases hbp : base.root = .slash ∧ base.parts <+: p
  · rw [if_pos hbp] at h
    by_cases hbq : base.root = .slash ∧ base.parts <+: q
    · rw [if_pos hbq] at h
      have hdrop := relativeText_injective (hparts hp) (hparts hq) h
      rw [← List.prefix_iff_eq_append.mp hbp.2, hdrop,
        List.prefix_iff_eq_append.mp hbq.2]
    · rw [if_neg hbq] at h
      exact absurd h (hslash (hparts hp))
  · rw [if_neg hbp] at h
    by_cases hbq : base.root = .slash ∧ base.parts <+: q
    · rw [if_pos hbq] at h
      exact absurd h.symm (hslash (hparts hq))
    · rw [if_neg hbq] at h
      have htext := List.tail_eq_of_cons_eq (String.ofList_injective h)
      exact slashed_injective
        (fun name hname => isPart_of_isEntry (hp name hname))
        (fun name hname => isPart_of_isEntry (hq name hname)) htext

end Fs
