/-
The names an API server admits: DNS-1123 subdomains, and label values.

Both are texts of some characters that begin and end in some of them
(`Shaped`). A subdomain is labels joined by dots; what is appended to it
goes to its last label (`subdomainText_append`), and what is short enough
of it is a label value (`isLabelValue_of_subdomain`).
-/
import Mathlib.Data.List.Basic

namespace Dns1123

-- ============================================================== the syntax

/-- Characters from `inner`, of which the first and the last are from
`edge`. -/
def Shaped (edge inner : Char → Bool) (cs : List Char) : Prop :=
  cs.all inner = true ∧ cs.head?.any edge = true ∧
    cs.getLast?.any edge = true

instance (edge inner : Char → Bool) (cs : List Char) :
    Decidable (Shaped edge inner cs) :=
  instDecidableAnd

/-- `[a-z0-9]` -/
def isLowerAlnum (c : Char) : Bool := c.isLower || c.isDigit

/-- `[-a-z0-9]` -/
def isLabelChar (c : Char) : Bool := isLowerAlnum c || c == '-'

/-- `[a-z0-9]([-a-z0-9]*[a-z0-9])?` -/
def IsLabel : List Char → Prop := Shaped isLowerAlnum isLabelChar

instance (cs : List Char) : Decidable (IsLabel cs) :=
  inferInstanceAs (Decidable (Shaped _ _ cs))

/-- Labels joined by dots. -/
def SubdomainText (cs : List Char) : Prop := ∀ l ∈ cs.splitOn '.', IsLabel l

instance (cs : List Char) : Decidable (SubdomainText cs) :=
  List.decidableBAll _ _

def IsSubdomain (s : String) : Prop :=
  s.toList.length ≤ 253 ∧ SubdomainText s.toList

instance (s : String) : Decidable (IsSubdomain s) :=
  instDecidableAnd

/-- `[-A-Za-z0-9_.]` -/
def isValueChar (c : Char) : Bool :=
  c.isAlphanum || c == '-' || c == '_' || c == '.'

/-- `(([A-Za-z0-9][-A-Za-z0-9_.]*)?[A-Za-z0-9])?` -/
def IsLabelValue (s : String) : Prop :=
  s.toList.length ≤ 63 ∧
    (s = "" ∨ Shaped Char.isAlphanum isValueChar s.toList)

instance (s : String) : Decidable (IsLabelValue s) :=
  instDecidableAnd

-- =============================================================== the shape

section

variable {edge inner edge' inner' : Char → Bool} {cs ds : List Char}

theorem Shaped.ne_nil (h : Shaped edge inner cs) : cs ≠ [] := by
  rintro rfl
  cases h.2.1

/-- A shape of fewer characters is one of more. -/
theorem Shaped.mono (h : Shaped edge inner cs)
    (hedge : ∀ c, edge c = true → edge' c = true)
    (hinner : ∀ c, inner c = true → inner' c = true) :
    Shaped edge' inner' cs := by
  refine ⟨?_, ?_, ?_⟩
  · rw [List.all_eq_true]
    intro c hc
    exact hinner c (List.all_eq_true.mp h.1 c hc)
  · obtain ⟨c, hc, hcedge⟩ := (Option.any_eq_true _ _).mp h.2.1
    exact (Option.any_eq_true _ _).mpr ⟨c, hc, hedge c hcedge⟩
  · obtain ⟨c, hc, hcedge⟩ := (Option.any_eq_true _ _).mp h.2.2
    exact (Option.any_eq_true _ _).mpr ⟨c, hc, hedge c hcedge⟩

/-- A shaped text stays one with more of its characters after it. -/
theorem Shaped.append (h : Shaped edge inner cs)
    (hinner : ds.all inner = true) (hend : ds.getLast?.any edge = true) :
    Shaped edge inner (cs ++ ds) := by
  refine ⟨?_, ?_, ?_⟩
  · rw [List.all_append, h.1, hinner, Bool.and_self]
  · rw [List.head?_append_of_ne_nil _ h.ne_nil]
    exact h.2.1
  · rw [List.getLast?_append_of_ne_nil]
    · exact hend
    · rintro rfl
      cases hend

end

-- ============================================================== subdomains

/-- A label has no dot, so the dots of a name split it into its labels. -/
theorem isLabel_no_dot {l : List Char} (h : IsLabel l) : '.' ∉ l := by
  intro hdot
  exact absurd (List.all_eq_true.mp h.1 '.' hdot) (by decide)

/-- What is appended to joined pieces is appended to the last one. -/
theorem intercalate_append (init : List (List Char)) (last ds : List Char) :
    ['.'].intercalate (init ++ [last ++ ds])
      = ['.'].intercalate (init ++ [last]) ++ ds := by
  induction init with
  | nil => rw [List.nil_append, List.nil_append,
      List.intercalate_singleton, List.intercalate_singleton]
  | cons l init ih =>
      rw [List.cons_append, List.cons_append,
        List.intercalate_cons_of_ne_nil (by simp),
        List.intercalate_cons_of_ne_nil (by simp), ih]
      simp only [List.append_assoc]

/-- A subdomain stays one with more label characters after it. -/
theorem subdomainText_append {cs ds : List Char} (h : SubdomainText cs)
    (hinner : ds.all isLabelChar = true)
    (hend : ds.getLast?.any isLowerAlnum = true) :
    SubdomainText (cs ++ ds) := by
  obtain ⟨init, last, hsplit⟩ : ∃ init last,
      cs.splitOn '.' = init ++ [last] :=
    List.eq_nil_or_concat' (cs.splitOn '.') |>.resolve_left
      (List.splitOn_ne_nil _ _)
  unfold SubdomainText at h
  rw [hsplit] at h
  have hlabels : ∀ l ∈ init ++ [last ++ ds], IsLabel l := by
    intro l hl
    rcases List.mem_append.mp hl with hl | hl
    · exact h l (List.mem_append_left _ hl)
    · rw [List.mem_singleton.mp hl]
      exact (h last (List.mem_append_right _ (List.mem_singleton_self _))
        ).append hinner hend
  have htext : cs ++ ds = ['.'].intercalate (init ++ [last ++ ds]) := by
    rw [intercalate_append, ← hsplit, List.intercalate_splitOn]
  unfold SubdomainText
  rw [htext, List.splitOn_intercalate '.'
    (fun l hl => isLabel_no_dot (hlabels l hl)) (by simp)]
  exact hlabels

/-- Labels joined by dots are alphanumeric at both ends, and have dots and
hyphens in between. -/
theorem shaped_intercalate {ls : List (List Char)} (hne : ls ≠ [])
    (h : ∀ l ∈ ls, IsLabel l) :
    Shaped Char.isAlphanum isValueChar (['.'].intercalate ls) := by
  have hedge : ∀ c, isLowerAlnum c = true → c.isAlphanum = true := by
    intro c hc
    simp only [isLowerAlnum, Bool.or_eq_true] at hc
    show ((c.isUpper || c.isLower) || c.isDigit) = true
    rcases hc with hc | hc
    · rw [hc, Bool.or_true, Bool.true_or]
    · rw [hc, Bool.or_true]
  have hinner : ∀ c, isLabelChar c = true → isValueChar c = true := by
    intro c hc
    simp only [isLabelChar, Bool.or_eq_true] at hc
    simp only [isValueChar, Bool.or_eq_true]
    rcases hc with hc | hc
    · exact Or.inl (Or.inl (Or.inl (hedge c hc)))
    · exact Or.inl (Or.inl (Or.inr hc))
  induction ls with
  | nil => exact absurd rfl hne
  | cons l ls ih =>
      have hlabel := (h l List.mem_cons_self).mono hedge hinner
      by_cases hls : ls = []
      · rw [hls, List.intercalate_singleton]
        exact hlabel
      · have hrest := ih hls fun l hl => h l (List.mem_cons_of_mem _ hl)
        rw [List.intercalate_cons_of_ne_nil hls, List.append_assoc]
        refine hlabel.append ?_ ?_
        · rw [List.all_append, hrest.1, Bool.and_true]
          rfl
        · rw [List.getLast?_append_of_ne_nil _ hrest.ne_nil]
          exact hrest.2.2

/-- A subdomain is a label value if it is not too long for one. -/
theorem isLabelValue_iff {s : String} (h : IsSubdomain s) :
    IsLabelValue s ↔ s.toList.length ≤ 63 := by
  refine ⟨And.left, fun hlength => ⟨hlength, Or.inr ?_⟩⟩
  have hshaped := shaped_intercalate (List.splitOn_ne_nil '.' s.toList) h.2
  rwa [List.intercalate_splitOn] at hshaped

end Dns1123
