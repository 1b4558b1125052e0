/-
Text as bytes: the bytes of a text, the text of bytes that are one
(`decode`), the text of any bytes, where a replacement character stands for
what is malformed (`Replaced`), and the longest front of a text whose bytes
fit into some room (`fitting`).
-/
import Mathlib.Data.String.Basic

namespace Utf8

def encode (cs : List Char) : List UInt8 := cs.flatMap String.utf8EncodeChar

/-- The text, if the bytes are one. -/
def decode (bytes : List UInt8) : Option (List Char) :=
  (String.fromUTF8? bytes.toByteArray).map String.toList

/-- Strict decoding is the inverse of encoding, and of nothing more. -/
theorem decode_eq_some {bytes : List UInt8} {cs : List Char} :
    decode bytes = some cs ↔ bytes = encode cs := by
  have hchars : (String.ofList cs).toByteArray = (encode cs).toByteArray :=
    rfl
  unfold decode
  rw [Option.map_eq_some_iff]
  constructor
  · rintro ⟨s, hs, rfl⟩
    rw [String.ofList_toList] at hchars
    refine List.toByteArray_inj.mp (Eq.trans ?_ hchars)
    rw [String.fromUTF8?] at hs
    split at hs
    · rw [← Option.some.inj hs]
      rfl
    · cases hs
  · rintro rfl
    refine ⟨String.ofList cs, ?_, String.toList_ofList⟩
    rw [← hchars, String.fromUTF8?, dif_pos (String.ofList cs).isValidUTF8]
    rfl

theorem decode_encode (cs : List Char) : decode (encode cs) = some cs :=
  decode_eq_some.mpr rfl

theorem encode_injective : Function.Injective encode := by
  intro cs ds h
  have hdecode := decode_encode cs
  rw [h, decode_encode] at hdecode
  exact (Option.some.inj hdecode).symm

theorem encode_append (cs ds : List Char) :
    encode (cs ++ ds) = encode cs ++ encode ds :=
  List.flatMap_append

/-- No character's bytes are the start of another's. -/
theorem encodeChar_append {c d : Char} {r s : List UInt8}
    (h : String.utf8EncodeChar c ++ r = String.utf8EncodeChar d ++ s) :
    c = d ∧ r = s := by
  have hc := ByteArray.utf8DecodeChar?_utf8EncodeChar_append
    (b := r.toByteArray) (c := c)
  have hd := ByteArray.utf8DecodeChar?_utf8EncodeChar_append
    (b := s.toByteArray) (c := d)
  rw [← List.toByteArray_append, h, List.toByteArray_append, hd] at hc
  have hcd : d = c := Option.some.inj hc
  subst hcd
  exact ⟨rfl, List.append_cancel_left h⟩

/-- Bytes cut from the front of a text, if they are a text, are one cut
from its front. -/
theorem encode_append_eq {cs ds : List Char} {rest : List UInt8}
    (h : encode ds ++ rest = encode cs) :
    ∃ es, cs = ds ++ es ∧ rest = encode es := by
  induction ds generalizing cs with
  | nil => exact ⟨cs, rfl, h⟩
  | cons d ds ih =>
      cases cs with
      | nil =>
          have hempty : String.utf8EncodeChar d ++ (encode ds ++ rest) = [] :=
            (List.append_assoc _ _ _).symm.trans h
          exact absurd (List.append_eq_nil_iff.mp hempty).1
            String.utf8EncodeChar_ne_nil
      | cons c cs =>
          have hcons : String.utf8EncodeChar d ++ (encode ds ++ rest)
              = String.utf8EncodeChar c ++ encode cs :=
            (List.append_assoc _ _ _).symm.trans h
          obtain ⟨rfl, htail⟩ := encodeChar_append hcons
          obtain ⟨es, rfl, hes⟩ := ih htail
          exact ⟨es, rfl, hes⟩

theorem length_encode_cons (c : Char) (cs : List Char) :
    (encode (c :: cs)).length = c.utf8Size + (encode cs).length := by
  rw [encode, List.flatMap_cons, List.length_append,
    String.length_utf8EncodeChar, encode]

/-- Lean counts a string's bytes as its encoding has them. -/
theorem utf8ByteSize_eq (s : String) :
    s.utf8ByteSize = (encode s.toList).length := by
  have hchars : (String.ofList s.toList).toByteArray
      = (encode s.toList).toByteArray := rfl
  rw [String.ofList_toList] at hchars
  rw [← String.size_toByteArray, hchars, List.size_toByteArray]

-- ======================================================== malformed bytes

def replacement : Char := Char.ofNat 0xfffd

/-- Bytes that no character can begin with, as far as one replacement
character stands for them: the longest start of a character, or a byte that
starts none. -/
structure Malformed (bad rest : List UInt8) : Prop where
  nonempty : bad ≠ []
  none : ∀ c, ¬ String.utf8EncodeChar c <+: bad ++ rest
  start : bad.length = 1 ∨ ∃ c, bad <+: String.utf8EncodeChar c
  longest : ∀ b, b <+: bad ++ rest →
    (∃ c, b <+: String.utf8EncodeChar c) → b.length ≤ bad.length

/-- The text of bytes, where malformed ones are replaced. -/
inductive Replaced : List UInt8 → List Char → Prop where
  | nil : Replaced [] []
  | char {c : Char} {rest : List UInt8} {cs : List Char} :
      Replaced rest cs → Replaced (String.utf8EncodeChar c ++ rest) (c :: cs)
  | malformed {bad rest : List UInt8} {cs : List Char} :
      Malformed bad rest → Replaced rest cs →
      Replaced (bad ++ rest) (replacement :: cs)

/-- Two readings of the same bytes as a bad prefix and a rest: neither prefix
is longer. -/
theorem Malformed.length_le {bad rest bad' rest' : List UInt8}
    (h : Malformed bad rest) (h' : Malformed bad' rest')
    (heq : bad ++ rest = bad' ++ rest') : bad.length ≤ bad'.length := by
  rcases h.start with hone | hstart
  · rw [hone]
    exact List.length_pos_iff.mpr h'.nonempty
  · refine h'.longest bad ?_ hstart
    rw [← heq]
    exact List.prefix_append bad rest

/-- Bytes have one text. -/
theorem Replaced.unique {bytes : List UInt8} {cs ds : List Char}
    (h : Replaced bytes cs) (h' : Replaced bytes ds) : cs = ds := by
  induction h generalizing ds with
  | nil =>
      generalize hbytes : ([] : List UInt8) = bytes at h'
      cases h' with
      | nil => rfl
      | char _ =>
          exact absurd (List.append_eq_nil_iff.mp hbytes.symm).1
            String.utf8EncodeChar_ne_nil
      | malformed hbad _ =>
          exact absurd (List.append_eq_nil_iff.mp hbytes.symm).1
            hbad.nonempty
  | @char c rest cs _ ih =>
      generalize hbytes : String.utf8EncodeChar c ++ rest = bytes at h'
      cases h' with
      | nil =>
          exact absurd (List.append_eq_nil_iff.mp hbytes).1
            String.utf8EncodeChar_ne_nil
      | char h' =>
          obtain ⟨rfl, rfl⟩ := encodeChar_append hbytes
          rw [ih h']
      | malformed hbad _ =>
          refine absurd ?_ (hbad.none c)
          rw [← hbytes]
          exact List.prefix_append _ _
  | @malformed bad rest cs hbad _ ih =>
      generalize hbytes : bad ++ rest = bytes at h'
      cases h' with
      | nil =>
          exact absurd (List.append_eq_nil_iff.mp hbytes).1 hbad.nonempty
      | @char c _ _ _ =>
          refine absurd ?_ (hbad.none c)
          rw [hbytes]
          exact List.prefix_append _ _
      | malformed hbad' h' =>
          have hlength := Nat.le_antisymm (hbad.length_le hbad' hbytes)
            (hbad'.length_le hbad hbytes.symm)
          obtain ⟨rfl, rfl⟩ := List.append_inj hbytes hlength
          rw [ih h']

/-- The start of a character that is cut off is malformed as a whole. -/
theorem malformed_take {c : Char} {n : Nat} (hpos : 0 < n)
    (hcut : n < c.utf8Size) :
    Malformed ((String.utf8EncodeChar c).take n) [] where
  nonempty := by
    intro hempty
    have hlength := congrArg List.length hempty
    rw [List.length_take, String.length_utf8EncodeChar, List.length_nil]
      at hlength
    omega
  none := by
    intro d hd
    rw [List.append_nil] at hd
    obtain ⟨r, hr⟩ := hd.trans (List.take_prefix n _)
    rw [← List.append_nil (String.utf8EncodeChar c)] at hr
    obtain ⟨rfl, -⟩ := encodeChar_append hr
    have hle := hd.length_le
    rw [List.length_take, String.length_utf8EncodeChar] at hle
    omega
  start := Or.inr ⟨c, List.take_prefix n _⟩
  longest := by
    intro b hb _
    rw [List.append_nil] at hb
    exact hb.length_le

-- ============================================================== what fits

/-- The characters from the front whose bytes fit. -/
def fitting : Nat → List Char → List Char
  | _, [] => []
  | room, c :: cs =>
      if c.utf8Size ≤ room then c :: fitting (room - c.utf8Size) cs else []

/-- A front of a text whose bytes fit, and there is no longer one. -/
structure LongestFitting (room : Nat) (cs p : List Char) : Prop where
  front : p <+: cs
  fits : (encode p).length ≤ room
  longest : ∀ q, q <+: cs → (encode q).length ≤ room →
    q.length ≤ p.length

/-- The greedy cut keeps as many characters as fit. -/
theorem fitting_longest (room : Nat) (cs : List Char) :
    LongestFitting room cs (fitting room cs) := by
  induction cs generalizing room with
  | nil => exact ⟨List.nil_prefix, Nat.zero_le _, fun q hq _ => hq.length_le⟩
  | cons c cs ih =>
      rw [fitting]
      split
      · next hfits =>
          obtain ⟨hfront, hroom, hlongest⟩ := ih (room - c.utf8Size)
          refine ⟨List.cons_prefix_cons.mpr ⟨rfl, hfront⟩, ?_, ?_⟩
          · rw [length_encode_cons]
            omega
          · intro q hq hsize
            cases q with
            | nil => exact Nat.zero_le _
            | cons d q =>
                obtain ⟨rfl, htail⟩ := List.cons_prefix_cons.mp hq
                rw [length_encode_cons] at hsize
                have hrest := hlongest q htail (by omega)
                exact Nat.succ_le_succ hrest
      · next hover =>
          refine ⟨List.nil_prefix, Nat.zero_le _, ?_⟩
          intro q hq hsize
          cases q with
          | nil => exact Nat.zero_le _
          | cons d q =>
              obtain ⟨rfl, -⟩ := List.cons_prefix_cons.mp hq
              rw [length_encode_cons] at hsize
              omega

end Utf8
