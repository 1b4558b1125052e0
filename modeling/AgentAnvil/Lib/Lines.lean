/-
The lines of a text.

`fileLines` is what iterating over a text file yields. `textLines` is what
Python makes of a file opened in text mode and split with `splitlines`:
carriage returns become newlines, and ten characters end a line.
`newlineLines` splits at newlines and at nothing else.

The last two number the lines of a text alike just when every other line boundary
in it is a carriage return before a newline, or the last character
(`length_textLines`); and then their lines are the same, up to that
boundary (`textLines_upTo`).
-/
import Mathlib.Data.List.Forall2
import Mathlib.Data.List.TakeWhile

namespace Lines

-- ============================================================ splitting

/-- The characters `str.splitlines` ends a line at. -/
def isLineBoundary (c : Char) : Bool :=
  [0x0a, 0x0b, 0x0c, 0x0d, 0x1c, 0x1d, 0x1e, 0x85, 0x2028, 0x2029].contains
    c.toNat

/-- `str.isspace` of a character. -/
def isSpace (c : Char) : Bool :=
  (0x09 ≤ c.toNat && c.toNat ≤ 0x0d) || (0x1c ≤ c.toNat && c.toNat ≤ 0x20)
    || (0x2000 ≤ c.toNat && c.toNat ≤ 0x200a)
    || [0x85, 0xa0, 0x1680, 0x2028, 0x2029, 0x202f, 0x205f, 0x3000].contains
      c.toNat

/-- `str.strip()`. -/
def strip (cs : List Char) : List Char :=
  ((cs.dropWhile isSpace).reverse.dropWhile isSpace).reverse

/-- `str.split()`. -/
def words (cs : List Char) : List (List Char) :=
  (cs.splitOnP isSpace).filter (· ≠ [])

/-- A character in front of the first line, which may be a new one. -/
def addToFirst (c : Char) : List (List Char) → List (List Char)
  | [] => [[c]]
  | line :: rest => (c :: line) :: rest

/-- The lines that reading a text file to its end yields, each with its
newline. -/
def fileLines : List Char → List (List Char)
  | [] => []
  | c :: cs =>
      if c = '\n' then [c] :: fileLines cs else addToFirst c (fileLines cs)

/-- `str.splitlines()`. -/
def splitlines : List Char → List (List Char)
  | [] => []
  | '\r' :: '\n' :: cs => [] :: splitlines cs
  | c :: cs =>
      if isLineBoundary c then [] :: splitlines cs
      else addToFirst c (splitlines cs)

/-- What reading in text mode makes of the ends of lines. -/
def universalNewlines : List Char → List Char
  | [] => []
  | '\r' :: '\n' :: cs => '\n' :: universalNewlines cs
  | '\r' :: cs => '\n' :: universalNewlines cs
  | c :: cs => c :: universalNewlines cs

def textLines (cs : List Char) : List (List Char) :=
  splitlines (universalNewlines cs)

/-- The pieces between newlines, without the empty piece after a final
newline. -/
def newlineLines (cs : List Char) : List (List Char) :=
  if cs.getLast? = some '\n' then (cs.splitOn '\n').dropLast
  else cs.splitOn '\n'

/-- The same, and no lines in an empty text. -/
def linesOrNone (cs : List Char) : List (List Char) :=
  if cs = [] then [] else newlineLines cs

/-- Every line boundary is a newline, a carriage return before one, or the
last character. -/
def NewlinesOnly (cs : List Char) : Prop :=
  ∀ before c after, cs = before ++ c :: after → isLineBoundary c = true →
    c = '\n' ∨ (c = '\r' ∧ after.head? = some '\n') ∨ after = []

/-- The second line is the first and at most a line boundary. -/
def UpToBoundary (s l : List Char) : Prop :=
  ∃ t, l = s ++ t ∧ (t = [] ∨ ∃ c, t = [c] ∧ isLineBoundary c = true)

-- =============================================== one character at a time

theorem textLines_newline (cs : List Char) :
    textLines ('\n' :: cs) = [] :: textLines cs := rfl

theorem textLines_crlf (cs : List Char) :
    textLines ('\r' :: '\n' :: cs) = [] :: textLines cs := rfl

theorem textLines_cr {cs : List Char} (h : cs.head? ≠ some '\n') :
    textLines ('\r' :: cs) = [] :: textLines cs := by
  have huniversal : universalNewlines ('\r' :: cs)
      = '\n' :: universalNewlines cs := by
    cases cs with
    | nil => rfl
    | cons c cs =>
        rw [universalNewlines]
        intro cs' heq
        injection heq with hc
        exact h (congrArg some hc)
  unfold textLines
  rw [huniversal]
  rfl

/-- Any other character ends a line or belongs to the first. -/
theorem textLines_cons {c : Char} {cs : List Char} (hc : c ≠ '\r') :
    textLines (c :: cs) = if isLineBoundary c then [] :: textLines cs
      else addToFirst c (textLines cs) := by
  have huniversal : universalNewlines (c :: cs)
      = c :: universalNewlines cs := by
    rw [universalNewlines]
    · intro cs' heq
      exact absurd heq hc
    · intro heq
      exact absurd heq hc
  rw [textLines, huniversal, splitlines]
  · rfl
  · intro cs' heq
    exact absurd heq hc

/-- A character starts a line only where there is none. -/
theorem addToFirst_length (c : Char) (lines : List (List Char)) :
    (addToFirst c lines).length = max 1 lines.length := by
  cases lines with
  | nil => rfl
  | cons line rest =>
      rw [addToFirst, List.length_cons, List.length_cons]
      omega

theorem addToFirst_of_ne_nil (c : Char) {lines : List (List Char)}
    (h : lines ≠ []) : addToFirst c lines = lines.modifyHead (List.cons c) := by
  cases lines with
  | nil => exact absurd rfl h
  | cons line rest => rfl

/-- A final newline ends the last line, and starts none. -/
theorem newlineLines_concat (cs : List Char) :
    newlineLines (cs ++ ['\n']) = cs.splitOn '\n' := by
  have hsplit : (cs ++ ['\n']).splitOn '\n' = cs.splitOn '\n' ++ [[]] :=
    List.splitOn_append_cons_self cs []
  unfold newlineLines
  rw [List.getLast?_concat, if_pos rfl, hsplit, List.dropLast_concat]

/-- Only a final newline is taken off. -/
theorem newlineLines_of_last {cs : List Char}
    (h : cs.getLast? ≠ some '\n') : newlineLines cs = cs.splitOn '\n' :=
  if_neg h

/-- The empty text apart, they are the lines at newlines. -/
theorem linesOrNone_cons (c : Char) (cs : List Char) :
    linesOrNone (c :: cs) = newlineLines (c :: cs) :=
  if_neg (List.cons_ne_nil c cs)

theorem splitOn_newline (cs : List Char) :
    ('\n' :: cs).splitOn '\n' = [] :: cs.splitOn '\n' := by
  rw [List.splitOn_cons_eq_if_modifyHead, if_pos (beq_self_eq_true _)]

theorem splitOn_other {c : Char} (hc : c ≠ '\n') (cs : List Char) :
    (c :: cs).splitOn '\n' = (cs.splitOn '\n').modifyHead (List.cons c) := by
  rw [List.splitOn_cons_eq_if_modifyHead, if_neg]
  simpa using hc

/-- A newline starts a line of its own, in front of the others. -/
theorem linesOrNone_newline (cs : List Char) :
    linesOrNone ('\n' :: cs) = [] :: linesOrNone cs := by
  rw [linesOrNone_cons]
  cases cs with
  | nil => exact newlineLines_concat []
  | cons d cs =>
      rw [linesOrNone_cons]
      by_cases hlast : (d :: cs).getLast? = some '\n'
      · obtain ⟨front, hfront⟩ := List.getLast?_eq_some_iff.mp hlast
        rw [hfront, ← List.cons_append, newlineLines_concat,
          newlineLines_concat, splitOn_newline]
      · rw [newlineLines_of_last hlast, newlineLines_of_last,
          splitOn_newline]
        rwa [List.getLast?_cons_cons]

theorem linesOrNone_other {c : Char} (hc : c ≠ '\n') (cs : List Char) :
    linesOrNone (c :: cs) = addToFirst c (linesOrNone cs) := by
  rw [linesOrNone_cons]
  cases cs with
  | nil =>
      rw [newlineLines_of_last, splitOn_other hc]
      · rfl
      · simpa using hc
  | cons d cs =>
      rw [linesOrNone_cons]
      by_cases hlast : (d :: cs).getLast? = some '\n'
      · obtain ⟨front, hfront⟩ := List.getLast?_eq_some_iff.mp hlast
        rw [hfront, ← List.cons_append, newlineLines_concat,
          newlineLines_concat, splitOn_other hc,
          addToFirst_of_ne_nil c (List.splitOn_ne_nil _ _)]
      · rw [newlineLines_of_last hlast, newlineLines_of_last,
          splitOn_other hc, addToFirst_of_ne_nil c (List.splitOn_ne_nil _ _)]
        rwa [List.getLast?_cons_cons]

/-- No line holds a newline. -/
theorem newline_notMem_splitlines (cs : List Char) :
    ∀ line ∈ splitlines cs, '\n' ∉ line := by
  induction cs using splitlines.induct with
  | case1 =>
      intro line hline
      cases hline
  | case2 cs ih =>
      intro line hline
      rcases List.mem_cons.mp hline with rfl | h
      · exact List.not_mem_nil
      · exact ih line h
  | case3 c cs hcrlf hc ih =>
      rw [splitlines, if_pos hc]
      · intro line hline
        rcases List.mem_cons.mp hline with rfl | h
        · exact List.not_mem_nil
        · exact ih line h
      · exact hcrlf
  | case4 c cs hcrlf hc ih =>
      rw [splitlines, if_neg hc]
      · have hne : '\n' ≠ c := by
          rintro rfl
          exact hc rfl
        cases hsplit : splitlines cs with
        | nil =>
            intro line hline
            rw [List.mem_singleton.mp hline]
            simpa using hne
        | cons first rest =>
            rw [hsplit] at ih
            intro line hline
            rcases List.mem_cons.mp hline with rfl | h
            · exact List.not_mem_cons_of_ne_of_not_mem hne
                (ih first List.mem_cons_self)
            · exact ih line (List.mem_cons_of_mem _ h)
      · exact hcrlf

-- ============================================================ file lines

theorem universalNewlines_of_no_cr {cs : List Char} (h : '\r' ∉ cs) :
    universalNewlines cs = cs := by
  induction cs with
  | nil => rfl
  | cons c cs ih =>
      have hc : c ≠ '\r' := fun heq => h (heq ▸ List.mem_cons_self)
      rw [universalNewlines, ih fun hmem => h (List.mem_cons_of_mem c hmem)]
      · intro cs' heq
        exact absurd heq hc
      · intro heq
        exact absurd heq hc

/-- A line, and what comes after it. -/
theorem fileLines_append {line : List Char} (h : '\n' ∉ line)
    (rest : List Char) :
    fileLines (line ++ '\n' :: rest) = (line ++ ['\n']) :: fileLines rest := by
  induction line with
  | nil => exact if_pos rfl
  | cons c line ih =>
      have hc : c ≠ '\n' := fun heq => h (heq ▸ List.mem_cons_self)
      rw [List.cons_append, fileLines, if_neg hc,
        ih fun hmem => h (List.mem_cons_of_mem c hmem)]
      rfl

/-- A last line without a newline. -/
theorem fileLines_last {line : List Char} (h : '\n' ∉ line)
    (hne : line ≠ []) : fileLines line = [line] := by
  induction line with
  | nil => exact absurd rfl hne
  | cons c line ih =>
      have hc : c ≠ '\n' := fun heq => h (heq ▸ List.mem_cons_self)
      rw [fileLines, if_neg hc]
      cases line with
      | nil => rfl
      | cons d line =>
          rw [ih (fun hmem => h (List.mem_cons_of_mem c hmem))
            (List.cons_ne_nil d line)]
          rfl

/-- Stripping a line that starts with no blank leaves its front. -/
theorem strip_cons {c : Char} (hc : isSpace c = false) (cs : List Char) :
    strip (c :: cs) <+: c :: cs ∧ strip (c :: cs) ≠ [] := by
  have hfront : (c :: cs).dropWhile isSpace = c :: cs := by
    rw [List.dropWhile_cons, if_neg (by rw [hc]; exact Bool.false_ne_true)]
  unfold strip
  rw [hfront]
  constructor
  · rw [← List.reverse_suffix, List.reverse_reverse]
    exact List.dropWhile_suffix _
  · intro hnil
    rw [List.reverse_eq_nil_iff, List.dropWhile_eq_nil_iff] at hnil
    have hspace := hnil c (List.mem_reverse.mpr List.mem_cons_self)
    rw [hc] at hspace
    cases hspace

/-- Stripping takes the blanks after a line that has none at its ends. -/
theorem strip_append {c d : Char} (hc : isSpace c = false)
    (hd : isSpace d = false) (cs : List Char) {blanks : List Char}
    (hblanks : ∀ b ∈ blanks, isSpace b = true) :
    strip (c :: cs ++ d :: blanks) = c :: cs ++ [d] := by
  have hfront : (c :: cs ++ d :: blanks).dropWhile isSpace
      = c :: cs ++ d :: blanks := by
    rw [List.cons_append, List.dropWhile_cons,
      if_neg (by rw [hc]; exact Bool.false_ne_true)]
  have hback : (c :: cs ++ d :: blanks).reverse
      = blanks.reverse ++ d :: (c :: cs).reverse := by
    rw [List.reverse_append, List.reverse_cons, List.append_assoc]
    rfl
  unfold strip
  rw [hfront, hback, List.dropWhile_append_of_pos, List.dropWhile_cons,
    if_neg (by rw [hd]; exact Bool.false_ne_true), List.reverse_cons,
    List.reverse_reverse]
  intro b hb
  exact hblanks b (List.mem_reverse.mp hb)

-- ======================================================== the same numbers

/-- The condition, character by character: a boundary must be a newline, the
start of a CRLF, or the last character. -/
theorem newlinesOnly_cons (c : Char) (cs : List Char) :
    NewlinesOnly (c :: cs)
      ↔ (isLineBoundary c = true →
          c = '\n' ∨ (c = '\r' ∧ cs.head? = some '\n') ∨ cs = [])
        ∧ NewlinesOnly cs := by
  constructor
  · intro h
    refine ⟨h [] c cs rfl, ?_⟩
    intro before d after heq hd
    exact h (c :: before) d after (by rw [heq, List.cons_append]) hd
  · rintro ⟨hhead, htail⟩ before d after heq hd
    cases before with
    | nil =>
        injection heq with hcd hrest
        subst hcd
        subst hrest
        exact hhead hd
    | cons b before =>
        injection heq with _ hrest
        exact htail before d after hrest hd

/-- A text that is not empty has a line. -/
theorem linesOrNone_ne_nil {cs : List Char} (h : cs ≠ []) :
    0 < (linesOrNone cs).length := by
  cases cs with
  | nil => exact absurd rfl h
  | cons c cs =>
      by_cases hc : c = '\n'
      · rw [hc, linesOrNone_newline, List.length_cons]
        omega
      · rw [linesOrNone_other hc, addToFirst_length]
        omega

theorem newlinesOnly_nil : NewlinesOnly [] := by
  intro before c after heq
  cases before with
  | nil => cases heq
  | cons b before => cases heq

/-- At a boundary newlines know nothing of, Python counts one line more,
but for the last character. -/
theorem length_of_extra {c : Char} {cs : List Char}
    (hb : isLineBoundary c = true) (hc : c ≠ '\n')
    (hcr : ¬ (c = '\r' ∧ cs.head? = some '\n'))
    (htext : textLines (c :: cs) = [] :: textLines cs)
    (ih : (linesOrNone cs).length ≤ (textLines cs).length) :
    (linesOrNone (c :: cs)).length ≤ (textLines (c :: cs)).length
      ∧ ((textLines (c :: cs)).length = (linesOrNone (c :: cs)).length
          ↔ NewlinesOnly (c :: cs)) := by
  rw [htext, linesOrNone_other hc, addToFirst_length, List.length_cons,
    newlinesOnly_cons]
  refine ⟨by omega, ?_⟩
  by_cases hnil : cs = []
  · subst hnil
    exact ⟨fun _ => ⟨fun _ => Or.inr (Or.inr rfl), newlinesOnly_nil⟩,
      fun _ => rfl⟩
  · have hpos := linesOrNone_ne_nil hnil
    constructor
    · intro h
      omega
    · rintro ⟨h, -⟩
      rcases h hb with h | h | h
      · exact absurd h hc
      · exact absurd h hcr
      · exact absurd h hnil

/-- Python counts at least as many lines, and as many just when newlines
are all there is. -/
theorem length_textLines (cs : List Char) :
    (linesOrNone cs).length ≤ (textLines cs).length
      ∧ ((textLines cs).length = (linesOrNone cs).length
          ↔ NewlinesOnly cs) := by
  induction cs using universalNewlines.induct with
  | case1 =>
      exact ⟨Nat.le_refl _, fun _ => newlinesOnly_nil, fun _ => rfl⟩
  | case2 cs ih =>
      -- a carriage return before a newline ends one line either way
      rw [textLines_crlf, linesOrNone_other (by decide),
        linesOrNone_newline, newlinesOnly_cons, newlinesOnly_cons]
      simp only [addToFirst, List.length_cons]
      refine ⟨by omega, ?_⟩
      rw [Nat.add_right_cancel_iff, ih.2]
      simp
  | case3 cs hcs ih =>
      have hhead : cs.head? ≠ some '\n' := by
        intro h
        obtain ⟨cs', hcs'⟩ := List.head?_eq_some_iff.mp h
        exact hcs cs' hcs'
      exact length_of_extra (by decide) (by decide) (fun h => hhead h.2)
        (textLines_cr hhead) ih.1
  | case4 c cs hcrlf hcr ih =>
      by_cases hc : c = '\n'
      · subst hc
        rw [textLines_newline, linesOrNone_newline, newlinesOnly_cons]
        simp only [List.length_cons]
        refine ⟨by omega, ?_⟩
        rw [Nat.add_right_cancel_iff, ih.2]
        simp
      · have htext : textLines (c :: cs) = _ := textLines_cons hcr
        cases hb : isLineBoundary c with
        | true =>
            rw [hb, if_pos rfl] at htext
            exact length_of_extra hb hc (fun h => hcr h.1) htext ih.1
        | false =>
            rw [hb, if_neg Bool.false_ne_true] at htext
            rw [htext, linesOrNone_other hc, addToFirst_length,
              addToFirst_length, newlinesOnly_cons]
            have hkeep : (max 1 (textLines cs).length
                  = max 1 (linesOrNone cs).length)
                ↔ (textLines cs).length = (linesOrNone cs).length := by
              by_cases hnil : cs = []
              · subst hnil
                exact ⟨fun _ => rfl, fun _ => rfl⟩
              · have hpos := linesOrNone_ne_nil hnil
                omega
            refine ⟨by omega, ?_⟩
            rw [hkeep, ih.2]
            constructor
            · intro h
              refine ⟨?_, h⟩
              intro hb'
              rw [hb] at hb'
              cases hb'
            · intro h
              exact h.2

-- ========================================================== the same lines

theorem upToBoundary_refl (l : List Char) : UpToBoundary l l :=
  ⟨[], (List.append_nil l).symm, Or.inl rfl⟩

/-- The lines stay alike when a character is put in front of both. -/
theorem UpToBoundary.addToFirst {ss ls : List (List Char)} (c : Char)
    (h : List.Forall₂ UpToBoundary ss ls) :
    List.Forall₂ UpToBoundary (addToFirst c ss) (addToFirst c ls) := by
  cases h with
  | nil => exact .cons (upToBoundary_refl [c]) .nil
  | cons hhead htail =>
      obtain ⟨t, ht, hend⟩ := hhead
      exact .cons ⟨t, by rw [ht, List.cons_append], hend⟩ htail

/-- A boundary newlines know nothing of comes last. -/
theorem upTo_last {c : Char} {cs : List Char} (hb : isLineBoundary c = true)
    (hc : c ≠ '\n') (hcr : ¬ (c = '\r' ∧ cs.head? = some '\n'))
    (h : NewlinesOnly (c :: cs)) : cs = [] := by
  rcases ((newlinesOnly_cons _ _).mp h).1 hb with h | h | h
  · exact absurd h hc
  · exact absurd h hcr
  · exact h

/-- Where newlines are all there is, the lines are the same. -/
theorem textLines_upTo {cs : List Char} (h : NewlinesOnly cs) :
    List.Forall₂ UpToBoundary (textLines cs) (linesOrNone cs) := by
  induction cs using universalNewlines.induct with
  | case1 => exact .nil
  | case2 cs ih =>
      rw [textLines_crlf, linesOrNone_other (by decide), linesOrNone_newline]
      have htail := (newlinesOnly_cons _ _).mp h
      refine .cons ⟨['\r'], rfl, Or.inr ⟨'\r', rfl, by decide⟩⟩
        (ih ((newlinesOnly_cons _ _).mp htail.2).2)
  | case3 cs hcs ih =>
      have hhead : cs.head? ≠ some '\n' := by
        intro h
        obtain ⟨cs', hcs'⟩ := List.head?_eq_some_iff.mp h
        exact hcs cs' hcs'
      have hnil := upTo_last (by decide) (by decide) (fun h => hhead h.2) h
      subst hnil
      exact .cons ⟨['\r'], rfl, Or.inr ⟨'\r', rfl, by decide⟩⟩ .nil
  | case4 c cs hcrlf hcr ih =>
      have htail := ((newlinesOnly_cons _ _).mp h).2
      by_cases hc : c = '\n'
      · subst hc
        rw [textLines_newline, linesOrNone_newline]
        exact .cons (upToBoundary_refl []) (ih htail)
      · have htext : textLines (c :: cs) = _ := textLines_cons hcr
        rw [linesOrNone_other hc, htext]
        cases hb : isLineBoundary c with
        | true =>
            have hnil := upTo_last hb hc (fun h => hcr h.1) h
            subst hnil
            exact .cons ⟨[c], rfl, Or.inr ⟨c, rfl, hb⟩⟩ .nil
        | false =>
            rw [if_neg Bool.false_ne_true]
            exact UpToBoundary.addToFirst c (ih htail)

-- ======================================================== replacing lines

/-- A text of these lines, with a newline at its end or without. -/
def textOf (endedWithNewline : Bool) (lines : List (List Char)) : List Char :=
  if endedWithNewline then lines.flatMap (· ++ ['\n'])
  else ['\n'].intercalate lines

/-- The lines with others in place of those from `start` to `stop`, which
are numbered from one; `stop` may be past the end. -/
def spliced (lines newLines : List (List Char)) (start stop : Int) :
    List (List Char) :=
  lines.take (start - 1).toNat ++ newLines
    ++ lines.drop (min stop lines.length).toNat

/-- A newline after each line is a newline between them and one more. -/
theorem textOf_terminated {lines : List (List Char)} (h : lines ≠ []) :
    textOf true lines = ['\n'].intercalate lines ++ ['\n'] := by
  unfold textOf
  rw [if_pos rfl]
  induction lines with
  | nil => exact absurd rfl h
  | cons line rest ih =>
      cases rest with
      | nil => simp
      | cons next rest =>
          rw [List.flatMap_cons, ih (List.cons_ne_nil next rest),
            List.intercalate_cons_cons, List.append_assoc, List.append_assoc,
            List.append_assoc]

/-- No line has a newline in it. -/
theorem newline_notMem_splitOn (cs : List Char) :
    ∀ line ∈ cs.splitOn '\n', '\n' ∉ line := by
  induction cs with
  | nil =>
      intro line hline
      rw [List.mem_singleton.mp hline]
      exact List.not_mem_nil
  | cons c cs ih =>
      by_cases hc : c = '\n'
      · rw [hc, splitOn_newline]
        intro line hline
        rcases List.mem_cons.mp hline with rfl | h
        · exact List.not_mem_nil
        · exact ih line h
      · rw [splitOn_other hc]
        cases hsplit : cs.splitOn '\n' with
        | nil => exact absurd hsplit (List.splitOn_ne_nil _ _)
        | cons first rest =>
            rw [hsplit] at ih
            intro line hline
            rcases List.mem_cons.mp hline with rfl | h
            · exact List.not_mem_cons_of_ne_of_not_mem (Ne.symm hc)
                (ih first List.mem_cons_self)
            · exact ih line (List.mem_cons_of_mem _ h)

theorem newline_notMem_newlineLines (cs : List Char) :
    ∀ line ∈ newlineLines cs, '\n' ∉ line := by
  intro line hline
  unfold newlineLines at hline
  split at hline
  · exact newline_notMem_splitOn cs line (List.dropLast_subset _ hline)
  · exact newline_notMem_splitOn cs line hline

theorem newlineLines_ne_nil (cs : List Char) : newlineLines cs ≠ [] := by
  by_cases hlast : cs.getLast? = some '\n'
  · obtain ⟨front, rfl⟩ := List.getLast?_eq_some_iff.mp hlast
    rw [newlineLines_concat]
    exact List.splitOn_ne_nil _ _
  · rw [newlineLines_of_last hlast]
    exact List.splitOn_ne_nil _ _

/-- A text is its lines. -/
theorem textOf_newlineLines (cs : List Char) :
    textOf (cs.getLast? = some '\n') (newlineLines cs) = cs := by
  by_cases hlast : cs.getLast? = some '\n'
  · obtain ⟨front, rfl⟩ := List.getLast?_eq_some_iff.mp hlast
    rw [decide_eq_true hlast, textOf_terminated (newlineLines_ne_nil _),
      newlineLines_concat, List.intercalate_splitOn]
  · rw [decide_eq_false hlast, newlineLines_of_last hlast]
    exact List.intercalate_splitOn '\n'

/-- Joined lines end in a newline when the last of several is blank. -/
theorem getLast?_intercalate {lines : List (List Char)}
    (h : ∀ line ∈ lines, '\n' ∉ line) :
    (['\n'].intercalate lines).getLast? = some '\n'
      ↔ lines.getLast? = some [] ∧ lines.length ≠ 1 := by
  induction lines with
  | nil => simp
  | cons line rest ih =>
      have ih := ih fun l hl => h l (List.mem_cons_of_mem line hl)
      cases rest with
      | nil =>
          rw [List.intercalate_singleton]
          constructor
          · intro hlast
            exact absurd (List.mem_of_getLast? hlast)
              (h line List.mem_cons_self)
          · rintro ⟨-, hlength⟩
            exact absurd rfl hlength
      | cons next rest =>
          rw [List.intercalate_cons_cons, List.append_assoc,
            List.getLast?_append, List.singleton_append, List.getLast?_cons,
            Option.some_or, Option.some_inj, List.getLast?_cons_cons]
          -- the last line is blank if nothing comes after the last newline
          by_cases hnil : ['\n'].intercalate (next :: rest) = []
          · have hblank : next :: rest = [[]] := by
              cases rest with
              | nil =>
                  rw [List.intercalate_singleton] at hnil
                  rw [hnil]
              | cons another rest =>
                  rw [List.intercalate_cons_cons] at hnil
                  simp at hnil
            rw [hnil, hblank]
            simp
          · obtain ⟨c, hc⟩ := Option.ne_none_iff_exists'.mp
              (mt List.getLast?_eq_none_iff.mp hnil)
            rw [hc] at ih ⊢
            rw [Option.getD_some, ← Option.some_inj, ih]
            have hone : (next :: rest).getLast? = some [] →
                (next :: rest).length ≠ 1 := by
              intro hlast hlength
              obtain ⟨only, honly⟩ := List.length_eq_one_iff.mp hlength
              rw [honly] at hlast hnil
              rw [List.intercalate_singleton] at hnil
              exact hnil (Option.some.inj hlast)
            simp only [List.length_cons]
            constructor
            · rintro ⟨hlast, -⟩
              exact ⟨hlast, by omega⟩
            · rintro ⟨hlast, -⟩
              exact ⟨hlast, hone hlast⟩

end Lines
