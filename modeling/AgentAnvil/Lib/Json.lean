/-
JSON values and their canonical text.

`dumps` is the canonical writer: no blanks, the entries of every object
sorted by key, and everything but printable ASCII escaped. It is the
composition of `canon`, which sorts, and `render`, which writes.

A value's text ends where it ends: no text of a value is the start of
another value's text followed by anything that may follow a value
(`render_append`). So the text determines the value, and the canonical
text determines it up to the order of the entries (`dumps_eq_iff`).

Numbers are integers, or finite floats carried as the text they are
written as.
-/
import AgentAnvil.Lib.Sha256
import Mathlib.Data.List.Sort
import Mathlib.Data.String.Basic

-- ================================================================ values

/-- The characters of a number's text. -/
def isNumberChar (c : Char) : Bool :=
  c.isDigit || c = '-' || c = '+' || c = '.' || c = 'e'

/-- The text of a finite float: made of the characters of numbers, and not
the text of an integer. -/
structure FloatText where
  chars : List Char
  number : ∀ c ∈ chars, isNumberChar c = true
  fraction : ∃ c ∈ chars, c = '.' ∨ c = 'e'

inductive Json where
  | null
  | bool (b : Bool)
  | int (n : Int)
  | float (text : FloatText)
  | str (s : String)
  | arr (items : List Json)
  | obj (entries : List (String × Json))

namespace Json

-- =============================================================== strings

/-- Four lowercase hexadecimal digits. -/
def hex4 (n : Nat) : List Char :=
  [Sha256.hexDigit (n / 4096 % 16), Sha256.hexDigit (n / 256 % 16),
    Sha256.hexDigit (n / 16 % 16), Sha256.hexDigit (n % 16)]

/-- One code unit, escaped. -/
def escapeUnit (n : Nat) : List Char := '\\' :: 'u' :: hex4 n

/-- A character inside a string: printable ASCII as it is, the short
escapes, and one or two escaped code units for the rest. -/
def escapeChar (c : Char) : List Char :=
  if c = '"' then ['\\', '"']
  else if c = '\\' then ['\\', '\\']
  else if c = '\n' then ['\\', 'n']
  else if c = '\r' then ['\\', 'r']
  else if c = '\t' then ['\\', 't']
  else if c = '\x0c' then ['\\', 'f']
  else if c = '\x08' then ['\\', 'b']
  else if 0x20 ≤ c.toNat ∧ c.toNat ≤ 0x7e then [c]
  else if c.toNat < 0x10000 then escapeUnit c.toNat
  else
    escapeUnit (0xd800 + (c.toNat - 0x10000) / 1024)
      ++ escapeUnit (0xdc00 + (c.toNat - 0x10000) % 1024)

/-- The characters of a string up to and including the closing quote. -/
def escaped : List Char → List Char
  | [] => ['"']
  | c :: cs => escapeChar c ++ escaped cs

def quoted (s : String) : List Char := '"' :: escaped s.toList

-- ============================================================== rendering

def intChars : Int → List Char
  | .ofNat n => Nat.toDigits 10 n
  | .negSucc n => '-' :: Nat.toDigits 10 (n + 1)

mutual

/-- The text of a value, with the entries as they stand. -/
def render : Json → List Char
  | .null => ['n', 'u', 'l', 'l']
  | .bool true => ['t', 'r', 'u', 'e']
  | .bool false => ['f', 'a', 'l', 's', 'e']
  | .int n => intChars n
  | .float f => f.chars
  | .str s => quoted s
  | .arr [] => ['[', ']']
  | .arr (x :: xs) => '[' :: (render x ++ renderItems xs)
  | .obj [] => ['{', '}']
  | .obj ((k, x) :: kvs) =>
      '{' :: (quoted k ++ ':' :: (render x ++ renderEntries kvs))

/-- The items after the first, and the closing bracket. -/
def renderItems : List Json → List Char
  | [] => [']']
  | x :: xs => ',' :: (render x ++ renderItems xs)

/-- The entries after the first, and the closing brace. -/
def renderEntries : List (String × Json) → List Char
  | [] => ['}']
  | (k, x) :: kvs =>
      ',' :: (quoted k ++ ':' :: (render x ++ renderEntries kvs))

end

/-- The order the entries of an object are written in. -/
def keyLe (p q : String × Json) : Prop := p.1 ≤ q.1

instance : DecidableRel keyLe := fun p q =>
  (inferInstance : Decidable (p.1 ≤ q.1))

mutual

/-- The entries of every object sorted by key. -/
def canon : Json → Json
  | .arr xs => .arr (canonItems xs)
  | .obj kvs => .obj ((canonEntries kvs).insertionSort keyLe)
  | .null => .null
  | .bool b => .bool b
  | .int n => .int n
  | .float f => .float f
  | .str s => .str s

def canonItems : List Json → List Json
  | [] => []
  | x :: xs => canon x :: canonItems xs

def canonEntries : List (String × Json) → List (String × Json)
  | [] => []
  | (k, x) :: kvs => (k, canon x) :: canonEntries kvs

end

/-- Two values that differ in the order of their entries at most. -/
def Same (a b : Json) : Prop := canon a = canon b

/-- The canonical text, encoded. -/
def dumps (a : Json) : List UInt8 :=
  (String.ofList (render (canon a))).toByteArray.data.toList

-- ============================================ strings end where they end

def unitValue (a b c d : Char) : Nat :=
  4096 * Sha256.digitValue a + 256 * Sha256.digitValue b
    + 16 * Sha256.digitValue c + Sha256.digitValue d

/-- What a short escape stands for. -/
def unescape (c : Char) : Char :=
  if c = 'n' then '\n'
  else if c = 'r' then '\r'
  else if c = 't' then '\t'
  else if c = 'f' then '\x0c'
  else if c = 'b' then '\x08'
  else c

/-- Read one character of a string back. -/
def readChar : List Char → Option (Char × List Char)
  | '\\' :: 'u' :: a :: b :: c :: d :: rest =>
      if 0xd800 ≤ unitValue a b c d ∧ unitValue a b c d < 0xdc00 then
        match rest with
        | '\\' :: 'u' :: a' :: b' :: c' :: d' :: rest =>
            some (Char.ofNat (0x10000 + (unitValue a b c d - 0xd800) * 1024
              + (unitValue a' b' c' d' - 0xdc00)), rest)
        | _ => none
      else some (Char.ofNat (unitValue a b c d), rest)
  | '\\' :: c :: rest => some (unescape c, rest)
  | c :: rest => some (c, rest)
  | [] => none

/-- Four hex digits hold a code unit. -/
theorem unitValue_hex4 {n : Nat} (h : n < 0x10000) :
    unitValue (Sha256.hexDigit (n / 4096 % 16))
      (Sha256.hexDigit (n / 256 % 16)) (Sha256.hexDigit (n / 16 % 16))
      (Sha256.hexDigit (n % 16)) = n := by
  have hdigit : ∀ m, Sha256.digitValue (Sha256.hexDigit (m % 16)) = m % 16 :=
    fun m => Sha256.digitValue_hexDigit _ (Nat.mod_lt _ (by decide))
  unfold unitValue
  rw [hdigit, hdigit, hdigit, hdigit]
  omega

/-- A unit that is no surrogate is read back as the character itself. -/
theorem readChar_escapeUnit {n : Nat} (h : n < 0xd800 ∨ 0xdc00 ≤ n)
    (hn : n < 0x10000) (rest : List Char) :
    readChar (escapeUnit n ++ rest) = some (Char.ofNat n, rest) := by
  simp only [escapeUnit, hex4, List.cons_append, List.nil_append, readChar,
    unitValue_hex4 hn]
  rw [if_neg (by omega)]

/-- A pair of surrogates is read back as the one character above the first
plane. -/
theorem readChar_escapeUnits {m n : Nat} (hm : m < 1024) (hn : n < 1024)
    (rest : List Char) :
    readChar (escapeUnit (0xd800 + m) ++ escapeUnit (0xdc00 + n) ++ rest)
      = some (Char.ofNat (0x10000 + m * 1024 + n), rest) := by
  simp only [escapeUnit, hex4, List.cons_append, List.nil_append, readChar]
  rw [unitValue_hex4 (by omega), unitValue_hex4 (by omega),
    if_pos (by omega)]
  simp only [Nat.add_sub_cancel_left]

/-- What `escapeChar` writes is read back. -/
theorem readChar_escapeChar (c : Char) (rest : List Char) :
    readChar (escapeChar c ++ rest) = some (c, rest) := by
  simp only [escapeChar]
  split
  next h => rw [h]; rfl
  next =>
  split
  next h => rw [h]; rfl
  next hslash =>
  split
  next h => rw [h]; rfl
  next =>
  split
  next h => rw [h]; rfl
  next =>
  split
  next h => rw [h]; rfl
  next =>
  split
  next h => rw [h]; rfl
  next =>
  split
  next h => rw [h]; rfl
  next =>
  split
  next =>
    -- a printable character that is no backslash stands for itself
    simp [readChar, hslash]
  next =>
  split
  next hsmall =>
    have hvalid := c.valid
    rw [readChar_escapeUnit ?_ hsmall, Char.ofNat_toNat]
    rcases hvalid with hlow | ⟨hhigh, -⟩
    · exact .inl hlow
    · exact .inr (by have := hhigh; simp only [Char.toNat] at *; omega)
  next hbig =>
    have hmax : c.toNat < 0x110000 := by
      rcases c.valid with hlow | ⟨-, hhigh⟩
      · exact Nat.lt_trans hlow (by decide)
      · exact hhigh
    rw [readChar_escapeUnits (by omega) (Nat.mod_lt _ (by decide))]
    have hsplit : 0x10000 + (c.toNat - 0x10000) / 1024 * 1024
        + (c.toNat - 0x10000) % 1024 = c.toNat := by omega
    rw [hsplit, Char.ofNat_toNat]

/-- A character's text starts with no quote: a quote ends the string. -/
theorem escapeChar_ne_quote (c : Char) (rest tail : List Char) :
    escapeChar c ++ rest ≠ '"' :: tail := by
  intro h
  have hread := readChar_escapeChar c rest
  have hquote : readChar ('"' :: tail) = some ('"', tail) := rfl
  rw [h, hquote] at hread
  cases hread
  simp [escapeChar] at h

/-- The characters of a string end where its quote stands: none of their texts
starts with one. -/
theorem escaped_append {cs ds r s : List Char}
    (h : escaped cs ++ r = escaped ds ++ s) : cs = ds ∧ r = s := by
  induction cs generalizing ds with
  | nil =>
      cases ds with
      | nil => exact ⟨rfl, List.cons.inj h |>.2⟩
      | cons d ds =>
          rw [escaped, escaped, List.append_assoc] at h
          exact absurd h.symm (escapeChar_ne_quote d _ _)
  | cons c cs ih =>
      cases ds with
      | nil =>
          rw [escaped, escaped, List.append_assoc] at h
          exact absurd h (escapeChar_ne_quote c _ _)
      | cons d ds =>
          rw [escaped, escaped, List.append_assoc, List.append_assoc] at h
          have hread := congrArg readChar h
          rw [readChar_escapeChar, readChar_escapeChar] at hread
          simp only [Option.some.injEq, Prod.mk.injEq] at hread
          obtain ⟨htail, hrest⟩ := ih hread.2
          exact ⟨by rw [hread.1, htail], hrest⟩

/-- A quoted string ends where it ends. -/
theorem quoted_append {a b : String} {r s : List Char}
    (h : quoted a ++ r = quoted b ++ s) : a = b ∧ r = s := by
  simp only [quoted, List.cons_append, List.cons.injEq, true_and] at h
  obtain ⟨hab, hrs⟩ := escaped_append h
  exact ⟨String.toList_inj.mp hab, hrs⟩

-- ============================================ numbers end where they end

/-- What may follow a value: nothing, or a character of no number. -/
def Ends (r : List Char) : Prop := ∀ c ∈ r.head?, isNumberChar c = false

theorem ends_cons {c : Char} (hc : isNumberChar c = false) (r : List Char) :
    Ends (c :: r) := by
  rintro d ⟨⟩
  exact hc

theorem isNumberChar_of_isDigit {c : Char} (h : c.isDigit = true) :
    isNumberChar c = true := by
  simp [isNumberChar, h]

/-- An integer is written in digits, with a sign at most. -/
theorem intChars_number (n : Int) :
    ∀ c ∈ intChars n, isNumberChar c = true := by
  intro c hc
  cases n with
  | ofNat n =>
      exact isNumberChar_of_isDigit
        (Nat.isDigit_of_mem_toDigits (by decide) (by decide) hc)
  | negSucc n =>
      rcases List.mem_cons.mp hc with rfl | hc
      · decide
      · exact isNumberChar_of_isDigit
          (Nat.isDigit_of_mem_toDigits (by decide) (by decide) hc)

/-- No integer is written with a point or an exponent. -/
theorem intChars_no_fraction (n : Int) :
    ∀ c ∈ intChars n, ¬ (c = '.' ∨ c = 'e') := by
  have hdigits : ∀ m, ∀ c ∈ Nat.toDigits 10 m, ¬ (c = '.' ∨ c = 'e') := by
    intro m c hc hf
    have hd := Nat.isDigit_of_mem_toDigits (by decide) (by decide) hc
    rcases hf with rfl | rfl <;> exact absurd hd (by decide)
  intro c hc
  cases n with
  | ofNat n => exact hdigits n c hc
  | negSucc n =>
      rcases List.mem_cons.mp hc with rfl | hc
      · decide
      · exact hdigits (n + 1) c hc

/-- The digits say which number it is: they are read back. -/
theorem toDigits_injective {m n : Nat}
    (h : Nat.toDigits 10 m = Nat.toDigits 10 n) : m = n := by
  have hval := congrArg (fun ds => Nat.ofDigitChars 10 ds 0) h
  simpa only [Nat.ofDigitChars_ten_toDigits] using hval

/-- No number of digits starts with a minus sign. -/
theorem toDigits_ne_minus (m : Nat) (cs : List Char) :
    Nat.toDigits 10 m ≠ '-' :: cs := by
  intro h
  have hmem : '-' ∈ Nat.toDigits 10 m := h ▸ List.mem_cons_self ..
  have hd := Nat.isDigit_of_mem_toDigits (by decide) (by decide) hmem
  exact absurd hd (by decide)

theorem intChars_injective {m n : Int} (h : intChars m = intChars n) :
    m = n := by
  cases m with
  | ofNat m =>
      cases n with
      | ofNat n => exact congrArg _ (toDigits_injective h)
      | negSucc n => exact absurd h (toDigits_ne_minus m _)
  | negSucc m =>
      cases n with
      | ofNat n => exact absurd h.symm (toDigits_ne_minus n _)
      | negSucc n =>
          have hmn := toDigits_injective (List.cons.inj h).2
          rw [Nat.succ.inj hmn]

/-- Two number texts followed by what may follow a value are split at the
same place. -/
theorem number_append {t u r s : List Char}
    (ht : ∀ c ∈ t, isNumberChar c = true)
    (hu : ∀ c ∈ u, isNumberChar c = true) (hr : Ends r) (hs : Ends s)
    (h : t ++ r = u ++ s) : t = u ∧ r = s := by
  have hcut : ∀ {t r : List Char}, (∀ c ∈ t, isNumberChar c = true) →
      Ends r → (t ++ r).takeWhile isNumberChar = t := by
    intro t r ht hr
    rw [List.takeWhile_append_of_pos ht]
    cases r with
    | nil => simp
    | cons c r => simp [hr c rfl]
  have htu : t = u := by
    rw [← hcut ht hr, h, hcut hu hs]
  subst htu
  exact ⟨rfl, List.append_cancel_left h⟩

-- ============================================= values end where they end

/-- What kind of value starts with this character; 7 if none does. -/
def headKind (c : Char) : Nat :=
  if c = 'n' then 0
  else if c = 't' then 1
  else if c = 'f' then 2
  else if c = '"' then 3
  else if c = '[' then 4
  else if c = '{' then 5
  else if isNumberChar c then 6
  else 7

def kind : Json → Nat
  | .null => 0
  | .bool true => 1
  | .bool false => 2
  | .str _ => 3
  | .arr _ => 4
  | .obj _ => 5
  | .int _ => 6
  | .float _ => 6

/-- A number starts in none of the other ways. -/
theorem headKind_of_number {c : Char} (h : isNumberChar c = true) :
    headKind c = 6 := by
  simp only [headKind]
  split
  next hc => subst hc; exact absurd h (by decide)
  next =>
  split
  next hc => subst hc; exact absurd h (by decide)
  next =>
  split
  next hc => subst hc; exact absurd h (by decide)
  next =>
  split
  next hc => subst hc; exact absurd h (by decide)
  next =>
  split
  next hc => subst hc; exact absurd h (by decide)
  next =>
  split
  next hc => subst hc; exact absurd h (by decide)
  next => rfl

/-- The first character of a value's text tells its kind. -/
theorem headKind_render (a : Json) (r : List Char) :
    (render a ++ r).head?.map headKind = some (kind a) := by
  have hnumber : ∀ t : List Char, t ≠ [] →
      (∀ c ∈ t, isNumberChar c = true) →
        (t ++ r).head?.map headKind = some 6 := by
    intro t ht hnum
    cases t with
    | nil => exact absurd rfl ht
    | cons c t =>
        exact congrArg some (headKind_of_number (hnum c (List.mem_cons_self ..)))
  cases a with
  | null => rfl
  | bool b => cases b <;> rfl
  | str s => rfl
  | arr xs => cases xs <;> rfl
  | obj kvs =>
      cases kvs with
      | nil => rfl
      | cons kv kvs => rfl
  | int n =>
      refine hnumber (intChars n) ?_ (intChars_number n)
      cases n with
      | ofNat n => exact Nat.toDigits_ne_nil
      | negSucc n => exact List.cons_ne_nil _ _
  | float f =>
      refine hnumber f.chars ?_ f.number
      obtain ⟨c, hc, -⟩ := f.fraction
      exact List.ne_nil_of_mem hc

/-- No value starts with a character of kind 7. -/
theorem render_ne_of_headKind (a : Json) {c : Char} (hc : headKind c = 7)
    (r s : List Char) : render a ++ r ≠ c :: s := by
  intro h
  have hhead := headKind_render a r
  rw [h] at hhead
  have hkind : headKind c = kind a := Option.some.inj hhead
  rw [hc] at hkind
  cases a with
  | bool b => cases b <;> cases hkind
  | _ => cases hkind

/-- What follows an item, a comma or the closing bracket, ends a number. -/
theorem ends_renderItems (xs : List Json) (r : List Char) :
    Ends (renderItems xs ++ r) := by
  cases xs with
  | nil => exact ends_cons (by decide) _
  | cons x xs => exact ends_cons (by decide) _

theorem ends_renderEntries (kvs : List (String × Json)) (r : List Char) :
    Ends (renderEntries kvs ++ r) := by
  cases kvs with
  | nil => exact ends_cons (by decide) _
  | cons kv kvs => exact ends_cons (by decide) _

theorem FloatText_ext {f g : FloatText} (h : f.chars = g.chars) : f = g := by
  cases f
  cases g
  cases h
  rfl

/-- Texts that start alike are of one kind of value. -/
theorem kind_eq {a b : Json} {r s : List Char}
    (h : render a ++ r = render b ++ s) : kind a = kind b := by
  have hhead := headKind_render a r
  rw [h, headKind_render b s] at hhead
  exact (Option.some.inj hhead).symm

-- Arrays, objects and strings are alone in their kind.

theorem arr_of_kind {b : Json} (h : kind b = 4) : ∃ ys, b = .arr ys := by
  cases b with
  | arr ys => exact ⟨ys, rfl⟩
  | bool b => cases b <;> cases h
  | _ => cases h

theorem obj_of_kind {b : Json} (h : kind b = 5) : ∃ kvs, b = .obj kvs := by
  cases b with
  | obj kvs => exact ⟨kvs, rfl⟩
  | bool b => cases b <;> cases h
  | _ => cases h

theorem str_of_kind {b : Json} (h : kind b = 3) : ∃ s, b = .str s := by
  cases b with
  | str s => exact ⟨s, rfl⟩
  | bool b => cases b <;> cases h
  | _ => cases h

/-- Of each of the kinds below them there is one value. -/
theorem literal_of_kind {a b : Json} (ha : kind a < 3)
    (h : kind a = kind b) : a = b := by
  cases a with
  | null =>
      cases b with
      | null => rfl
      | bool y => cases y <;> cases h
      | _ => cases h
  | bool x =>
      cases b with
      | bool y => cases x <;> cases y <;> first | rfl | cases h
      | _ => cases x <;> cases h
  | _ => exact absurd ha (by simp only [kind]; omega)

/-- The text of a number has no character that could follow it. -/
theorem render_number {a : Json} (ha : kind a = 6) :
    ∀ c ∈ render a, isNumberChar c = true := by
  cases a with
  | int n => exact intChars_number n
  | float f => exact f.number
  | bool x => cases x <;> cases ha
  | _ => cases ha

/-- An integer and a float differ in their text: only the float has a
fraction or an exponent. -/
theorem render_number_injective {a b : Json} (ha : kind a = 6)
    (hb : kind b = 6) (h : render a = render b) : a = b := by
  have hfloat : ∀ (n : Int) (f : FloatText), intChars n ≠ f.chars := by
    intro n f htext
    obtain ⟨c, hc, hfraction⟩ := f.fraction
    exact intChars_no_fraction n c (htext ▸ hc) hfraction
  cases a with
  | int m =>
      cases b with
      | int n => exact congrArg _ (intChars_injective h)
      | float f => exact absurd h (hfloat m f)
      | bool y => cases y <;> cases hb
      | _ => cases hb
  | float f =>
      cases b with
      | int n => exact absurd h.symm (hfloat n f)
      | float g => exact congrArg _ (FloatText_ext h)
      | bool y => cases y <;> cases hb
      | _ => cases hb
  | bool x => cases x <;> cases ha
  | _ => cases ha

/-- An item starts behind a bracket or a comma, and ends before the next
comma or the closing bracket. -/
theorem item_append {c : Char} {x y : Json} {xs ys : List Json}
    {r s : List Char}
    (h : c :: (render x ++ renderItems xs) ++ r
      = c :: (render y ++ renderItems ys) ++ s) :
    render x ++ (renderItems xs ++ r) = render y ++ (renderItems ys ++ s) := by
  rw [List.cons_append, List.cons_append, List.append_assoc,
    List.append_assoc] at h
  exact (List.cons.inj h).2

/-- So does an entry, whose key is a quoted string. -/
theorem entry_append {c : Char} {k k' : String} {x y : Json}
    {kvs kvs' : List (String × Json)} {r s : List Char}
    (h : c :: (quoted k ++ ':' :: (render x ++ renderEntries kvs)) ++ r
      = c :: (quoted k' ++ ':' :: (render y ++ renderEntries kvs')) ++ s) :
    k = k' ∧ render x ++ (renderEntries kvs ++ r)
      = render y ++ (renderEntries kvs' ++ s) := by
  rw [List.cons_append, List.cons_append, List.append_assoc,
    List.append_assoc] at h
  obtain ⟨hk, hrest⟩ := quoted_append (List.cons.inj h).2
  rw [List.cons_append, List.cons_append, List.append_assoc,
    List.append_assoc] at hrest
  exact ⟨hk, (List.cons.inj hrest).2⟩

/-- A closing bracket starts no value, so no text is of an empty array and
of one with items. -/
theorem arr_nil_ne_cons (y : Json) (ys : List Json) (r s : List Char) :
    render (.arr []) ++ r ≠ render (.arr (y :: ys)) ++ s := by
  intro h
  simp only [render, List.cons_append, List.append_assoc, List.cons.injEq,
    true_and] at h
  exact render_ne_of_headKind y (by decide) _ _ h.symm

/-- A closing brace is no quote. -/
theorem obj_nil_ne_cons (k : String) (y : Json) (kvs : List (String × Json))
    (r s : List Char) :
    render (.obj []) ++ r ≠ render (.obj ((k, y) :: kvs)) ++ s := by
  intro h
  exact absurd (List.cons.inj (List.cons.inj h).2).1 (by decide)

mutual

/-- The text of a value ends where it ends, and determines the value. -/
theorem render_append (a b : Json) {r s : List Char} (hr : Ends r)
    (hs : Ends s) (h : render a ++ r = render b ++ s) : a = b ∧ r = s := by
  have hkind := kind_eq h
  have hnumber : kind a = 6 → a = b ∧ r = s := by
    intro ha
    have hb := hkind.symm.trans ha
    obtain ⟨htext, hrs⟩ :=
      number_append (render_number ha) (render_number hb) hr hs h
    exact ⟨render_number_injective ha hb htext, hrs⟩
  have hliteral : kind a < 3 → a = b ∧ r = s := by
    intro ha
    have hab := literal_of_kind ha hkind
    rw [hab] at h
    exact ⟨hab, List.append_cancel_left h⟩
  cases a with
  | null => exact hliteral (by decide)
  | bool x => exact hliteral (by cases x <;> decide)
  | int m => exact hnumber rfl
  | float f => exact hnumber rfl
  | str x =>
      obtain ⟨y, rfl⟩ := str_of_kind hkind.symm
      obtain ⟨hxy, hrs⟩ := quoted_append h
      exact ⟨congrArg _ hxy, hrs⟩
  | arr xs =>
      obtain ⟨ys, rfl⟩ := arr_of_kind hkind.symm
      match xs, ys with
      | [], [] => exact ⟨rfl, List.append_cancel_left h⟩
      | [], y :: ys => exact absurd h (arr_nil_ne_cons y ys r s)
      | x :: xs, [] => exact absurd h.symm (arr_nil_ne_cons x xs s r)
      | x :: xs, y :: ys =>
          obtain ⟨hx, hitems⟩ := render_append x y (ends_renderItems xs r)
            (ends_renderItems ys s) (item_append h)
          obtain ⟨hxs, hrs⟩ := renderItems_append xs ys hitems
          exact ⟨by rw [hx, hxs], hrs⟩
  | obj kvs =>
      obtain ⟨kvs', rfl⟩ := obj_of_kind hkind.symm
      match kvs, kvs' with
      | [], [] => exact ⟨rfl, List.append_cancel_left h⟩
      | [], (k, y) :: kvs' => exact absurd h (obj_nil_ne_cons k y kvs' r s)
      | (k, x) :: kvs, [] => exact absurd h.symm (obj_nil_ne_cons k x kvs s r)
      | (k, x) :: kvs, (k', y) :: kvs' =>
          obtain ⟨hk, hvalue⟩ := entry_append h
          obtain ⟨hx, hentries⟩ := render_append x y
            (ends_renderEntries kvs r) (ends_renderEntries kvs' s) hvalue
          obtain ⟨hkvs, hrs⟩ := renderEntries_append kvs kvs' hentries
          exact ⟨by rw [hk, hx, hkvs], hrs⟩

/-- So do the items of an array, up to its closing bracket. -/
theorem renderItems_append (xs ys : List Json) {r s : List Char}
    (h : renderItems xs ++ r = renderItems ys ++ s) : xs = ys ∧ r = s := by
  match xs, ys with
  | [], [] => exact ⟨rfl, List.append_cancel_left h⟩
  | [], y :: ys => exact absurd (List.cons.inj h).1 (by decide)
  | x :: xs, [] => exact absurd (List.cons.inj h).1 (by decide)
  | x :: xs, y :: ys =>
      obtain ⟨hx, hitems⟩ := render_append x y (ends_renderItems xs r)
        (ends_renderItems ys s) (item_append h)
      obtain ⟨hxs, hrs⟩ := renderItems_append xs ys hitems
      exact ⟨by rw [hx, hxs], hrs⟩

/-- And the entries of an object, up to its closing brace. -/
theorem renderEntries_append (kvs kvs' : List (String × Json))
    {r s : List Char} (h : renderEntries kvs ++ r = renderEntries kvs' ++ s) :
    kvs = kvs' ∧ r = s := by
  match kvs, kvs' with
  | [], [] => exact ⟨rfl, List.append_cancel_left h⟩
  | [], (k, y) :: kvs' => exact absurd (List.cons.inj h).1 (by decide)
  | (k, x) :: kvs, [] => exact absurd (List.cons.inj h).1 (by decide)
  | (k, x) :: kvs, (k', y) :: kvs' =>
      obtain ⟨hk, hvalue⟩ := entry_append h
      obtain ⟨hx, hentries⟩ := render_append x y (ends_renderEntries kvs r)
        (ends_renderEntries kvs' s) hvalue
      obtain ⟨hkvs, hrs⟩ := renderEntries_append kvs kvs' hentries
      exact ⟨by rw [hk, hx, hkvs], hrs⟩

end

/-- The text determines the value. -/
theorem render_injective : Function.Injective render := by
  intro a b h
  have hnil : Ends [] := by
    rintro c ⟨⟩
  exact (render_append a b hnil hnil (by rw [h])).1

-- ===================================================== the canonical text

/-- The canonical text determines the value up to the order of entries,
and nothing more. -/
theorem dumps_eq_iff (a b : Json) : dumps a = dumps b ↔ Same a b := by
  constructor
  · intro h
    have hbytes : (String.ofList (render (canon a))).toByteArray
        = (String.ofList (render (canon b))).toByteArray :=
      ByteArray.ext (Array.toList_inj.mp h)
    have hchars := congrArg String.toList (String.toByteArray_inj.mp hbytes)
    rw [String.toList_ofList, String.toList_ofList] at hchars
    exact render_injective hchars
  · intro h
    unfold dumps
    rw [h]

theorem canonItems_eq (xs : List Json) : canonItems xs = xs.map canon := by
  induction xs with
  | nil => rfl
  | cons x xs ih => rw [canonItems, ih, List.map_cons]

/-- Arrays differ where their items do. -/
theorem same_arr_iff {xs ys : List Json} :
    Same (.arr xs) (.arr ys) ↔ xs.map canon = ys.map canon := by
  unfold Same
  rw [canon, canon, canonItems_eq, canonItems_eq, arr.injEq]

theorem canonEntries_eq (kvs : List (String × Json)) :
    canonEntries kvs = kvs.map fun kv => (kv.1, canon kv.2) := by
  induction kvs with
  | nil => rfl
  | cons kv kvs ih => rw [canonEntries, ih, List.map_cons]

/-- A rearrangement that leaves the keys in place leaves everything in
place. -/
theorem eq_of_perm_of_keys {kvs kvs' : List (String × Json)}
    (hkeys : kvs.map Prod.fst = kvs'.map Prod.fst)
    (hnodup : (kvs.map Prod.fst).Nodup) (h : kvs.Perm kvs') :
    kvs = kvs' := by
  induction kvs generalizing kvs' with
  | nil => exact h.nil_eq
  | cons kv kvs ih =>
      cases kvs' with
      | nil => cases hkeys
      | cons kv' kvs' =>
          rw [List.map_cons, List.map_cons] at hkeys
          obtain ⟨hkey, hrest⟩ := List.cons.inj hkeys
          have hhead : kv = kv' :=
            List.inj_on_of_nodup_map hnodup (List.mem_cons_self ..)
              (h.mem_iff.mpr (List.mem_cons_self ..)) hkey
          subst hhead
          rw [ih hrest (List.nodup_cons.mp hnodup).2 h.cons_inv]

/-- Objects with the same keys in the same places differ where their
values do. -/
theorem same_obj_iff {kvs kvs' : List (String × Json)}
    (hkeys : kvs.map Prod.fst = kvs'.map Prod.fst)
    (hnodup : (kvs.map Prod.fst).Nodup) :
    Same (.obj kvs) (.obj kvs')
      ↔ canonEntries kvs = canonEntries kvs' := by
  have hcanon : ∀ l : List (String × Json),
      (canonEntries l).map Prod.fst = l.map Prod.fst := by
    intro l
    rw [canonEntries_eq, List.map_map]
    rfl
  unfold Same
  rw [canon, canon]
  constructor
  · intro h
    injection h with hsorted
    have hperm : (canonEntries kvs).Perm (canonEntries kvs') :=
      ((List.perm_insertionSort keyLe _).symm.trans
        (List.Perm.of_eq hsorted)).trans (List.perm_insertionSort keyLe _)
    refine eq_of_perm_of_keys ?_ ?_ hperm
    · rw [hcanon, hcanon, hkeys]
    · rw [hcanon]
      exact hnodup
  · intro h
    rw [h]

end Json
