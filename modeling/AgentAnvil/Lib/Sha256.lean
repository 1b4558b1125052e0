/-
SHA-256 (FIPS 180-4) on byte lists, and lowercase hexadecimal text.

`sum256` is the function Go's `crypto/sha256.Sum256` and Python's
`hashlib.sha256(..).digest()` compute, `hexdigest` is what Go prints with
`%x` and Python with `hexdigest()`. The functions are executable, down to
the kernel: nothing about the hash is assumed.

What proofs need of it is little: the digest has thirty-two bytes whatever
the input (`sum256_length`), and hexadecimal text determines the bytes
(`hexdigest_injective`) at two digits each (`hexdigest_length`).
Collision freedom is no theorem about a function from infinitely many
inputs to finitely many digests; `CollisionFree` states it for a given set
of inputs, as `Set.InjOn`.
-/
import Mathlib.Data.Set.Function
import Mathlib.Data.List.Basic

namespace Sha256

-- ========================================================= the words

/-- The first 32 bits of the fractional parts of the cube roots of the
first 64 primes. -/
def roundConstants : List UInt32 := [
  0x428a2f98, 0x71374491, 0xb5c0fbcf, 0xe9b5dba5, 0x3956c25b, 0x59f111f1,
  0x923f82a4, 0xab1c5ed5, 0xd807aa98, 0x12835b01, 0x243185be, 0x550c7dc3,
  0x72be5d74, 0x80deb1fe, 0x9bdc06a7, 0xc19bf174, 0xe49b69c1, 0xefbe4786,
  0x0fc19dc6, 0x240ca1cc, 0x2de92c6f, 0x4a7484aa, 0x5cb0a9dc, 0x76f988da,
  0x983e5152, 0xa831c66d, 0xb00327c8, 0xbf597fc7, 0xc6e00bf3, 0xd5a79147,
  0x06ca6351, 0x14292967, 0x27b70a85, 0x2e1b2138, 0x4d2c6dfc, 0x53380d13,
  0x650a7354, 0x766a0abb, 0x81c2c92e, 0x92722c85, 0xa2bfe8a1, 0xa81a664b,
  0xc24b8b70, 0xc76c51a3, 0xd192e819, 0xd6990624, 0xf40e3585, 0x106aa070,
  0x19a4c116, 0x1e376c08, 0x2748774c, 0x34b0bcb5, 0x391c0cb3, 0x4ed8aa4a,
  0x5b9cca4f, 0x682e6ff3, 0x748f82ee, 0x78a5636f, 0x84c87814, 0x8cc70208,
  0x90befffa, 0xa4506ceb, 0xbef9a3f7, 0xc67178f2]

/-- The eight chaining words. -/
structure Words where
  (a b c d e f g h : UInt32)

def initial : Words :=
  ⟨0x6a09e667, 0xbb67ae85, 0x3c6ef372, 0xa54ff53a,
    0x510e527f, 0x9b05688c, 0x1f83d9ab, 0x5be0cd19⟩

def rotr (x n : UInt32) : UInt32 := (x >>> n) ||| (x <<< (32 - n))

-- ==================================================== the compression

/-- One round; `kw` is the sum of the round constant and the schedule
word. -/
def round (s : Words) (kw : UInt32) : Words :=
  let s1 := rotr s.e 6 ^^^ rotr s.e 11 ^^^ rotr s.e 25
  let ch := (s.e &&& s.f) ^^^ ((~~~ s.e) &&& s.g)
  let t1 := s.h + s1 + ch + kw
  let s0 := rotr s.a 2 ^^^ rotr s.a 13 ^^^ rotr s.a 22
  let maj := (s.a &&& s.b) ^^^ (s.a &&& s.c) ^^^ (s.b &&& s.c)
  ⟨t1 + (s0 + maj), s.a, s.b, s.c, s.d + t1, s.e, s.f, s.g⟩

/-- The message schedule: a window of sixteen words that gives out its
first word and takes in the next one, `n` times, then the window itself. -/
def schedule : Nat → List UInt32 → List UInt32
  | 0, w => w
  | _ + 1, [] => []
  | n + 1, w0 :: rest =>
      let w1 := rest.getD 0 0
      let w9 := rest.getD 8 0
      let w14 := rest.getD 13 0
      let s0 := rotr w1 7 ^^^ rotr w1 18 ^^^ (w1 >>> 3)
      let s1 := rotr w14 17 ^^^ rotr w14 19 ^^^ (w14 >>> 10)
      w0 :: schedule n (rest ++ [w0 + s0 + w9 + s1])

def compress (s : Words) (block : List UInt32) : Words :=
  let t := (List.zipWith (· + ·) roundConstants (schedule 48 block)).foldl
    round s
  ⟨s.a + t.a, s.b + t.b, s.c + t.c, s.d + t.d,
    s.e + t.e, s.f + t.f, s.g + t.g, s.h + t.h⟩

-- ================================================ bytes to words and back

def beWord (a b c d : UInt8) : UInt32 :=
  (a.toUInt32 <<< 24) ||| (b.toUInt32 <<< 16) ||| (c.toUInt32 <<< 8)
    ||| d.toUInt32

def words : List UInt8 → List UInt32
  | a :: b :: c :: d :: rest => beWord a b c d :: words rest
  | _ => []

def blocks : Nat → List UInt32 → List (List UInt32)
  | 0, _ => []
  | n + 1, ws => ws.take 16 :: blocks n (ws.drop 16)

/-- The `n` low bytes of a number, most significant first. -/
def beBytes : Nat → Nat → List UInt8
  | 0, _ => []
  | n + 1, x => UInt8.ofNat (x >>> (8 * n)) :: beBytes n x

/-- The message, a one bit, zeros, and the length in bits, to a multiple
of 64 bytes. -/
def pad (m : List UInt8) : List UInt8 :=
  m ++ 0x80 :: List.replicate ((119 - m.length % 64) % 64) 0
    ++ beBytes 8 (8 * m.length)

def Words.bytes (s : Words) : List UInt8 :=
  [s.a, s.b, s.c, s.d, s.e, s.f, s.g, s.h].flatMap fun w =>
    beBytes 4 w.toNat

/-- The SHA-256 digest of a message. -/
def sum256 (m : List UInt8) : List UInt8 :=
  let ws := words (pad m)
  ((blocks (ws.length / 16) ws).foldl compress initial).bytes

theorem beBytes_length (n x : Nat) : (beBytes n x).length = n := by
  induction n with
  | zero => rfl
  | succ n ih => rw [beBytes, List.length_cons, ih]

/-- A digest has thirty-two bytes. -/
@[simp] theorem sum256_length (m : List UInt8) :
    (sum256 m).length = 32 := by
  simp only [sum256, Words.bytes, List.flatMap_cons, List.flatMap_nil,
    List.length_append, beBytes_length, List.length_nil]

/-- No two members of `S` have the same digest. -/
def CollisionFree (S : Set (List UInt8)) : Prop := Set.InjOn sum256 S

/-- Among messages with no collision the sum says which message it is. -/
theorem CollisionFree.eq {S : Set (List UInt8)} (h : CollisionFree S)
    {m n : List UInt8} (hm : m ∈ S) (hn : n ∈ S)
    (hmn : sum256 m = sum256 n) : m = n :=
  h hm hn hmn

-- ======================================================== hexadecimal

/-- The lowercase digit of a number below sixteen. -/
def hexDigit (n : Nat) : Char :=
  if n < 10 then Char.ofNat (48 + n) else Char.ofNat (87 + n)

def hexByte (b : UInt8) : List Char :=
  [hexDigit (b.toNat / 16), hexDigit (b.toNat % 16)]

/-- A digit's number back. -/
def digitValue (c : Char) : Nat :=
  if c.toNat < 58 then c.toNat - 48 else c.toNat - 87

theorem digitValue_hexDigit : ∀ n < 16, digitValue (hexDigit n) = n := by
  decide

/-- The bytes as lowercase hexadecimal text. -/
def hexdigest (bs : List UInt8) : String :=
  String.ofList (bs.flatMap hexByte)

/-- The two digits of a byte say which byte it is, so a digest and its hex
text say the same. -/
theorem hexByte_injective {b c : UInt8} (h : hexByte b = hexByte c) :
    b = c := by
  simp only [hexByte, List.cons.injEq, and_true] at h
  have hb := b.toNat_lt
  have hc := c.toNat_lt
  have hhi := congrArg digitValue h.1
  have hlo := congrArg digitValue h.2
  rw [digitValue_hexDigit _ (by omega), digitValue_hexDigit _ (by omega)]
    at hhi hlo
  exact UInt8.toNat_inj.mp (by omega)

theorem hexdigest_length (bs : List UInt8) :
    (hexdigest bs).toList.length = 2 * bs.length := by
  unfold hexdigest
  rw [String.toList_ofList]
  induction bs with
  | nil => rfl
  | cons b bs ih =>
      rw [List.flatMap_cons, List.length_append, ih, List.length_cons,
        hexByte, List.length_cons, List.length_singleton]
      omega

/-- Hexadecimal text determines the bytes. -/
theorem hexdigest_injective : Function.Injective hexdigest := by
  intro bs cs h
  have h' := congrArg String.toList h
  simp only [hexdigest, String.toList_ofList] at h'
  clear h
  induction bs generalizing cs with
  | nil =>
      cases cs with
      | nil => rfl
      | cons c cs => simp [hexByte] at h'
  | cons b bs ih =>
      cases cs with
      | nil => simp [hexByte] at h'
      | cons c cs =>
          rw [List.flatMap_cons, List.flatMap_cons] at h'
          obtain ⟨hhead, htail⟩ := List.append_inj h' rfl
          rw [hexByte_injective hhead, ih htail]

/-- The digest of "abc", the standard's first example. -/
example : hexdigest (sum256 [0x61, 0x62, 0x63])
    = "ba7816bf8f01cfea414140de5dae2223b00361a396177a9cb410ff61f20015ad" := by
  decide +kernel

end Sha256
