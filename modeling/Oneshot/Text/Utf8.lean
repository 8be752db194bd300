import Oneshot.Text.Basic

/-!
# UTF-8

Decoding is strict: overlong forms, surrogates and numbers beyond U+10FFFF are faults. A fault
names the bytes it is about, which are the longest start of a well-formed sequence that the input
offers at that place, and what is wrong after them.

- `decode_encode`: every text is read back from its bytes.
-/

namespace Oneshot

namespace Utf8

/-- What is wrong with a byte sequence. -/
inductive Defect where
  /-- The byte can start no sequence. -/
  | invalidStart
  /-- The sequence goes on with a byte that may not stand there. -/
  | invalidContinuation
  /-- The input ends inside the sequence. -/
  | unexpectedEnd
deriving DecidableEq, Repr

/-- The place of a malformed sequence: its first byte, where it begins and how long it is. -/
structure Fault where
  first : UInt8
  offset : Nat
  length : Nat
  defect : Defect
deriving DecidableEq, Repr

/-- The wording of a defect. -/
def Defect.message : Defect → Text
  | .invalidStart => "invalid start byte"
  | .invalidContinuation => "invalid continuation byte"
  | .unexpectedEnd => "unexpected end of data"

/-- The hexadecimal digit of a number below sixteen. -/
def hexDigit (n : Nat) : Char :=
  if n < 10 then Char.ofNat (48 + n) else Char.ofNat (87 + n)

/-- The wording of a fault. -/
def Fault.message (f : Fault) : Text :=
  let place : Text :=
    if f.length = 1 then
      "byte 0x".toList ++ [hexDigit (f.first.toNat / 16), hexDigit (f.first.toNat % 16)]
        ++ " in position ".toList ++ Text.ofNat f.offset
    else
      "bytes in position ".toList ++ Text.ofNat f.offset ++ ['-']
        ++ Text.ofNat (f.offset + f.length - 1)
  "'utf-8' codec can't decode ".toList ++ place ++ ": ".toList ++ f.defect.message

/-- Whether a byte may continue a sequence. -/
def isContinuation (b : UInt8) : Bool :=
  0x80 ≤ b.toNat && b.toNat < 0xC0

/-- Whether `b` may follow the first byte `a` of a sequence of three: the first continuation byte
rules out overlong forms and surrogates. -/
def isSecondOfThree (a b : UInt8) : Bool :=
  isContinuation b
    && (if a = 0xE0 then 0xA0 ≤ b.toNat else if a = 0xED then b.toNat < 0xA0 else true)

/-- Whether `b` may follow the first byte `a` of a sequence of four: the first continuation byte
rules out overlong forms and numbers beyond U+10FFFF. -/
def isSecondOfFour (a b : UInt8) : Bool :=
  isContinuation b
    && (if a = 0xF0 then 0x90 ≤ b.toNat else if a = 0xF4 then b.toNat < 0x90 else true)

/-- The six payload bits of a continuation byte. -/
def payload (b : UInt8) : Nat :=
  b.toNat - 0x80

/-- Decodes the bytes that begin at `offset` of the input. -/
def decodeFrom (offset : Nat) : Bytes → Except Fault Text
  | [] => .ok []
  | a :: rest =>
    if a.toNat < 0x80 then
      (decodeFrom (offset + 1) rest).map (Char.ofNat a.toNat :: ·)
    else if a.toNat < 0xC2 then .error ⟨a, offset, 1, .invalidStart⟩
    else if a.toNat < 0xE0 then
      match rest with
      | [] => .error ⟨a, offset, 1, .unexpectedEnd⟩
      | b :: rest =>
        if isContinuation b then
          (decodeFrom (offset + 2) rest).map
            (Char.ofNat ((a.toNat - 0xC0) * 0x40 + payload b) :: ·)
        else .error ⟨a, offset, 1, .invalidContinuation⟩
    else if a.toNat < 0xF0 then
      match rest with
      | [] => .error ⟨a, offset, 1, .unexpectedEnd⟩
      | b :: rest =>
        if isSecondOfThree a b then
          match rest with
          | [] => .error ⟨a, offset, 2, .unexpectedEnd⟩
          | c :: rest =>
            if isContinuation c then
              (decodeFrom (offset + 3) rest).map
                (Char.ofNat ((a.toNat - 0xE0) * 0x1000 + payload b * 0x40 + payload c) :: ·)
            else .error ⟨a, offset, 2, .invalidContinuation⟩
        else .error ⟨a, offset, 1, .invalidContinuation⟩
    else if a.toNat < 0xF5 then
      match rest with
      | [] => .error ⟨a, offset, 1, .unexpectedEnd⟩
      | b :: rest =>
        if isSecondOfFour a b then
          match rest with
          | [] => .error ⟨a, offset, 2, .unexpectedEnd⟩
          | c :: rest =>
            if isContinuation c then
              match rest with
              | [] => .error ⟨a, offset, 3, .unexpectedEnd⟩
              | d :: rest =>
                if isContinuation d then
                  (decodeFrom (offset + 4) rest).map
                    (Char.ofNat ((a.toNat - 0xF0) * 0x40000 + payload b * 0x1000 + payload c * 0x40
                      + payload d) :: ·)
                else .error ⟨a, offset, 3, .invalidContinuation⟩
            else .error ⟨a, offset, 2, .invalidContinuation⟩
        else .error ⟨a, offset, 1, .invalidContinuation⟩
    else .error ⟨a, offset, 1, .invalidStart⟩

/-- The text that the bytes spell, or the first fault among them. -/
def decode (bytes : Bytes) : Except Fault Text :=
  decodeFrom 0 bytes

/-- The bytes of one character. -/
def encodeChar (c : Char) : Bytes :=
  let n := c.toNat
  if n < 0x80 then [UInt8.ofNat n]
  else if n < 0x800 then [UInt8.ofNat (0xC0 + n / 0x40), UInt8.ofNat (0x80 + n % 0x40)]
  else if n < 0x10000 then
    [UInt8.ofNat (0xE0 + n / 0x1000), UInt8.ofNat (0x80 + n / 0x40 % 0x40),
      UInt8.ofNat (0x80 + n % 0x40)]
  else
    [UInt8.ofNat (0xF0 + n / 0x40000), UInt8.ofNat (0x80 + n / 0x1000 % 0x40),
      UInt8.ofNat (0x80 + n / 0x40 % 0x40), UInt8.ofNat (0x80 + n % 0x40)]

/-- The bytes of a text. -/
def encode (s : Text) : Bytes :=
  s.flatMap encodeChar

/-! ### Every text is read back -/

theorem toNat_ofNat_of_lt {n : Nat} (h : n < 0x100) : (UInt8.ofNat n).toNat = n := by
  simp [UInt8.toNat_ofNat']
  omega

theorem decodeFrom_one {a : UInt8} (h : a.toNat < 0x80) (offset : Nat) (rest : Bytes) :
    decodeFrom offset (a :: rest)
      = (decodeFrom (offset + 1) rest).map (Char.ofNat a.toNat :: ·) := by
  rw [decodeFrom.eq_def]
  simp only [h, if_true]

theorem decodeFrom_two {a b : UInt8} (lo : 0xC2 ≤ a.toNat) (hi : a.toNat < 0xE0)
    (hb : isContinuation b = true) (offset : Nat) (rest : Bytes) :
    decodeFrom offset (a :: b :: rest)
      = (decodeFrom (offset + 2) rest).map
          (Char.ofNat ((a.toNat - 0xC0) * 0x40 + payload b) :: ·) := by
  rw [decodeFrom.eq_def]
  simp only [Nat.not_lt.2 lo, Nat.not_lt.2 (Nat.le_trans (by decide : 0x80 ≤ 0xC2) lo), hi, hb,
    if_true, if_false]

theorem decodeFrom_three {a b c : UInt8} (lo : 0xE0 ≤ a.toNat) (hi : a.toNat < 0xF0)
    (hb : isSecondOfThree a b = true) (hc : isContinuation c = true) (offset : Nat)
    (rest : Bytes) :
    decodeFrom offset (a :: b :: c :: rest)
      = (decodeFrom (offset + 3) rest).map
          (Char.ofNat ((a.toNat - 0xE0) * 0x1000 + payload b * 0x40 + payload c) :: ·) := by
  rw [decodeFrom.eq_def]
  simp only [Nat.not_lt.2 lo, Nat.not_lt.2 (Nat.le_trans (by decide : 0x80 ≤ 0xE0) lo),
    Nat.not_lt.2 (Nat.le_trans (by decide : 0xC2 ≤ 0xE0) lo), hi, hb, hc, if_true, if_false]

theorem decodeFrom_four {a b c d : UInt8} (lo : 0xF0 ≤ a.toNat) (hi : a.toNat < 0xF5)
    (hb : isSecondOfFour a b = true) (hc : isContinuation c = true)
    (hd : isContinuation d = true) (offset : Nat) (rest : Bytes) :
    decodeFrom offset (a :: b :: c :: d :: rest)
      = (decodeFrom (offset + 4) rest).map
          (Char.ofNat ((a.toNat - 0xF0) * 0x40000 + payload b * 0x1000 + payload c * 0x40
            + payload d) :: ·) := by
  rw [decodeFrom.eq_def]
  simp only [Nat.not_lt.2 lo, Nat.not_lt.2 (Nat.le_trans (by decide : 0x80 ≤ 0xF0) lo),
    Nat.not_lt.2 (Nat.le_trans (by decide : 0xC2 ≤ 0xF0) lo),
    Nat.not_lt.2 (Nat.le_trans (by decide : 0xE0 ≤ 0xF0) lo), hi, hb, hc, hd, if_true, if_false]

theorem isContinuation_ofNat {n : Nat} (h : n < 0x40) :
    isContinuation (UInt8.ofNat (0x80 + n)) = true := by
  have e : (UInt8.ofNat (0x80 + n)).toNat = 0x80 + n := toNat_ofNat_of_lt (by omega)
  simp only [isContinuation, e, Bool.and_eq_true, decide_eq_true_eq]
  omega

theorem payload_ofNat {n : Nat} (h : n < 0x40) : payload (UInt8.ofNat (0x80 + n)) = n := by
  have e : (UInt8.ofNat (0x80 + n)).toNat = 0x80 + n := toNat_ofNat_of_lt (by omega)
  unfold payload
  omega

theorem isSecondOfThree_ofNat {n m : Nat} (hn : n < 0x10) (hm : m < 0x40)
    (overlong : n = 0 → 0x20 ≤ m) (surrogate : n = 0xD → m < 0x20) :
    isSecondOfThree (UInt8.ofNat (0xE0 + n)) (UInt8.ofNat (0x80 + m)) = true := by
  have e1 : (UInt8.ofNat (0xE0 + n)).toNat = 0xE0 + n := toNat_ofNat_of_lt (by omega)
  have e2 : (UInt8.ofNat (0x80 + m)).toNat = 0x80 + m := toNat_ofNat_of_lt (by omega)
  simp only [isSecondOfThree, isContinuation_ofNat hm, Bool.true_and, ← UInt8.toNat_inj, e1, e2]
  split
  · next h => simp at h; simp; omega
  · split
    · next h => simp at h; simp; omega
    · rfl

theorem isSecondOfFour_ofNat {n m : Nat} (hn : n < 5) (hm : m < 0x40)
    (overlong : n = 0 → 0x10 ≤ m) (beyond : n = 4 → m < 0x10) :
    isSecondOfFour (UInt8.ofNat (0xF0 + n)) (UInt8.ofNat (0x80 + m)) = true := by
  have e1 : (UInt8.ofNat (0xF0 + n)).toNat = 0xF0 + n := toNat_ofNat_of_lt (by omega)
  have e2 : (UInt8.ofNat (0x80 + m)).toNat = 0x80 + m := toNat_ofNat_of_lt (by omega)
  simp only [isSecondOfFour, isContinuation_ofNat hm, Bool.true_and, ← UInt8.toNat_inj, e1, e2]
  split
  · next h => simp at h; simp; omega
  · split
    · next h => simp at h; simp; omega
    · rfl

theorem decodeFrom_encodeChar (c : Char) (offset : Nat) (rest : Bytes) :
    decodeFrom offset (encodeChar c ++ rest)
      = (decodeFrom (offset + (encodeChar c).length) rest).map (c :: ·) := by
  have hv : c.toNat < 0xD800 ∨ (0xDFFF < c.toNat ∧ c.toNat < 0x110000) := c.valid
  have hof : ∀ n, n = c.toNat → Char.ofNat n = c := fun n h => h ▸ Char.ofNat_toNat c
  by_cases h1 : c.toNat < 0x80
  · have e : encodeChar c = [UInt8.ofNat c.toNat] := by simp [encodeChar, h1]
    have v : (UInt8.ofNat c.toNat).toNat = c.toNat := toNat_ofNat_of_lt (by omega)
    rw [e, List.singleton_append, decodeFrom_one (by omega), v, hof _ rfl]
    rfl
  · by_cases h2 : c.toNat < 0x800
    · have e : encodeChar c
          = [UInt8.ofNat (0xC0 + c.toNat / 0x40), UInt8.ofNat (0x80 + c.toNat % 0x40)] := by
        simp [encodeChar, h1, h2]
      have v : (UInt8.ofNat (0xC0 + c.toNat / 0x40)).toNat = 0xC0 + c.toNat / 0x40 :=
        toNat_ofNat_of_lt (by omega)
      rw [e, List.cons_append, List.singleton_append,
        decodeFrom_two (by omega) (by omega) (isContinuation_ofNat (by omega)), v,
        payload_ofNat (by omega), hof _ (by omega)]
      rfl
    · by_cases h3 : c.toNat < 0x10000
      · have e : encodeChar c
            = [UInt8.ofNat (0xE0 + c.toNat / 0x1000), UInt8.ofNat (0x80 + c.toNat / 0x40 % 0x40),
              UInt8.ofNat (0x80 + c.toNat % 0x40)] := by
          simp [encodeChar, h1, h2, h3]
        have v : (UInt8.ofNat (0xE0 + c.toNat / 0x1000)).toNat = 0xE0 + c.toNat / 0x1000 :=
          toNat_ofNat_of_lt (by omega)
        rw [e, List.cons_append, List.cons_append, List.singleton_append,
          decodeFrom_three (by omega) (by omega)
            (isSecondOfThree_ofNat (by omega) (by omega) (by omega) (by omega))
            (isContinuation_ofNat (by omega)),
          v, payload_ofNat (by omega), payload_ofNat (by omega), hof _ (by omega)]
        rfl
      · have e : encodeChar c
            = [UInt8.ofNat (0xF0 + c.toNat / 0x40000),
              UInt8.ofNat (0x80 + c.toNat / 0x1000 % 0x40),
              UInt8.ofNat (0x80 + c.toNat / 0x40 % 0x40), UInt8.ofNat (0x80 + c.toNat % 0x40)] := by
          simp [encodeChar, h1, h2, h3]
        have v : (UInt8.ofNat (0xF0 + c.toNat / 0x40000)).toNat = 0xF0 + c.toNat / 0x40000 :=
          toNat_ofNat_of_lt (by omega)
        rw [e, List.cons_append, List.cons_append, List.cons_append, List.singleton_append,
          decodeFrom_four (by omega) (by omega)
            (isSecondOfFour_ofNat (by omega) (by omega) (by omega) (by omega))
            (isContinuation_ofNat (by omega)) (isContinuation_ofNat (by omega)),
          v, payload_ofNat (by omega), payload_ofNat (by omega), payload_ofNat (by omega),
          hof _ (by omega)]
        rfl

theorem decodeFrom_encode (s : Text) (offset : Nat) : decodeFrom offset (encode s) = .ok s := by
  induction s generalizing offset with
  | nil => rfl
  | cons c cs ih =>
    have he : encode (c :: cs) = encodeChar c ++ encode cs := by simp [encode]
    rw [he, decodeFrom_encodeChar, ih]
    rfl

/-- Every text is read back from its bytes. -/
theorem decode_encode (s : Text) : decode (encode s) = .ok s :=
  decodeFrom_encode s 0

end Utf8

end Oneshot
