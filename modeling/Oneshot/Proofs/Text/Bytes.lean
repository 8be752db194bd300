import Oneshot.Text.Line
import Oneshot.Text.Utf8

/-!
# Bytes and the Texts They Spell

Bytes that spell a text are the bytes of that text: a text has one spelling only, since overlong
forms are faults. So what is read and written again comes back as it was, unless the text is changed
in between. Reading with unified newlines changes a text exactly if it holds a CR, and a CR is
spelled by the byte 13 alone.

* `Utf8.encode_decode`: the bytes of the text that has been read.
* `Utf8.encode_unifyNewlines_iff`: when unified newlines leave the bytes as they are.
-/

namespace Oneshot

namespace Utf8

variable {a b c d : UInt8}

theorem toNat_char {n : Nat} (h : n < 0xD800 ∨ 0xDFFF < n ∧ n < 0x110000) :
    (Char.ofNat n).toNat = n := by
  rw [Char.ofNat, dif_pos h]
  rfl

theorem ofNat_eq {n : Nat} (h : n = a.toNat) : UInt8.ofNat n = a := by
  rw [h, UInt8.ofNat_toNat]

theorem isContinuation_iff : isContinuation b = true ↔ 0x80 ≤ b.toNat ∧ b.toNat < 0xC0 := by
  simp [isContinuation]

/-- The second of three bytes, behind a first byte that leaves it free or does not. -/
theorem isSecondOfThree_iff : isSecondOfThree a b = true ↔
    (0x80 ≤ b.toNat ∧ b.toNat < 0xC0) ∧ (a.toNat = 0xE0 → 0xA0 ≤ b.toNat) ∧
      (a.toNat = 0xED → b.toNat < 0xA0) := by
  rw [isSecondOfThree, Bool.and_eq_true, isContinuation_iff]
  refine and_congr_right fun _ => ?_
  simp only [← UInt8.toNat_inj, UInt8.reduceToNat]
  split
  · next h => simp [h]
  · split
    · next h => simp [h]
    · next h h' => simp [h, h']

/-- The second of four bytes, behind a first byte that leaves it free or does not. -/
theorem isSecondOfFour_iff : isSecondOfFour a b = true ↔
    (0x80 ≤ b.toNat ∧ b.toNat < 0xC0) ∧ (a.toNat = 0xF0 → 0x90 ≤ b.toNat) ∧
      (a.toNat = 0xF4 → b.toNat < 0x90) := by
  rw [isSecondOfFour, Bool.and_eq_true, isContinuation_iff]
  refine and_congr_right fun _ => ?_
  simp only [← UInt8.toNat_inj, UInt8.reduceToNat]
  split
  · next h => simp [h]
  · split
    · next h => simp [h]
    · next h h' => simp [h, h']

/-! ### One character -/

theorem encodeChar_one (h : a.toNat < 0x80) : encodeChar (Char.ofNat a.toNat) = [a] := by
  have hchar := toNat_char (n := a.toNat) (by omega)
  simp [encodeChar, hchar, h]

theorem encodeChar_two (lo : 0xC2 ≤ a.toNat) (hi : a.toNat < 0xE0)
    (hb : isContinuation b = true) :
    encodeChar (Char.ofNat ((a.toNat - 0xC0) * 0x40 + payload b)) = [a, b] := by
  obtain ⟨hb₁, hb₂⟩ := isContinuation_iff.1 hb
  unfold payload
  have hchar := toNat_char (n := (a.toNat - 0xC0) * 0x40 + (b.toNat - 0x80)) (by omega)
  simp only [encodeChar, hchar]
  rw [if_neg (by omega), if_pos (by omega), ofNat_eq (a := a) (by omega),
    ofNat_eq (a := b) (by omega)]

theorem encodeChar_three (lo : 0xE0 ≤ a.toNat) (hi : a.toNat < 0xF0)
    (hb : isSecondOfThree a b = true) (hc : isContinuation c = true) :
    encodeChar (Char.ofNat ((a.toNat - 0xE0) * 0x1000 + payload b * 0x40 + payload c))
      = [a, b, c] := by
  obtain ⟨⟨hb₁, hb₂⟩, hoverlong, hsurrogate⟩ := isSecondOfThree_iff.1 hb
  obtain ⟨hc₁, hc₂⟩ := isContinuation_iff.1 hc
  unfold payload
  have hchar := toNat_char (n := (a.toNat - 0xE0) * 0x1000 + (b.toNat - 0x80) * 0x40
    + (c.toNat - 0x80)) (by omega)
  simp only [encodeChar, hchar]
  rw [if_neg (by omega), if_neg (by omega), if_pos (by omega), ofNat_eq (a := a) (by omega),
    ofNat_eq (a := b) (by omega), ofNat_eq (a := c) (by omega)]

theorem encodeChar_four (lo : 0xF0 ≤ a.toNat) (hi : a.toNat < 0xF5)
    (hb : isSecondOfFour a b = true) (hc : isContinuation c = true)
    (hd : isContinuation d = true) :
    encodeChar (Char.ofNat ((a.toNat - 0xF0) * 0x40000 + payload b * 0x1000 + payload c * 0x40
      + payload d)) = [a, b, c, d] := by
  obtain ⟨⟨hb₁, hb₂⟩, hoverlong, hbeyond⟩ := isSecondOfFour_iff.1 hb
  obtain ⟨hc₁, hc₂⟩ := isContinuation_iff.1 hc
  obtain ⟨hd₁, hd₂⟩ := isContinuation_iff.1 hd
  unfold payload
  have hchar := toNat_char (n := (a.toNat - 0xF0) * 0x40000 + (b.toNat - 0x80) * 0x1000
    + (c.toNat - 0x80) * 0x40 + (d.toNat - 0x80)) (by omega)
  simp only [encodeChar, hchar]
  rw [if_neg (by omega), if_neg (by omega), if_neg (by omega), ofNat_eq (a := a) (by omega),
    ofNat_eq (a := b) (by omega), ofNat_eq (a := c) (by omega), ofNat_eq (a := d) (by omega)]

/-! ### All characters -/

/-- The bytes of a character are followed by those of the rest. -/
theorem encode_of_map {c : Char} {spelled bytes : Bytes} {rest : Except Fault Text} {text : Text}
    (hc : encodeChar c = spelled) (hrest : ∀ {tail}, rest = .ok tail → encode tail = bytes)
    (h : rest.map (c :: ·) = .ok text) : encode text = spelled ++ bytes := by
  cases rest with
  | error fault => simp [Except.map] at h
  | ok tail =>
    obtain rfl : c :: tail = text := Except.ok.inj h
    rw [← hc, ← hrest rfl]
    rfl

theorem encode_of_decodeFrom {offset : Nat} {bytes : Bytes} {text : Text}
    (h : decodeFrom offset bytes = .ok text) : encode text = bytes := by
  fun_induction decodeFrom offset bytes generalizing text
  case case1 =>
    obtain rfl := Except.ok.inj h
    rfl
  case case2 h₁ ih => exact encode_of_map (encodeChar_one h₁) ih h
  case case5 lo hi b rest hb ih =>
    exact encode_of_map (encodeChar_two (Nat.not_lt.1 lo) hi hb) ih h
  case case9 lo hi b hb c rest hc ih =>
    exact encode_of_map (encodeChar_three (Nat.not_lt.1 lo) hi hb hc) ih h
  case case15 lo hi b hb c hc d rest hd ih =>
    exact encode_of_map (encodeChar_four (Nat.not_lt.1 lo) hi hb hc hd) ih h
  all_goals simp at h

/-- **Bytes that spell a text** are the bytes of that text. -/
theorem encode_decode {bytes : Bytes} {text : Text} (h : decode bytes = .ok text) :
    encode text = bytes :=
  encode_of_decodeFrom h

theorem encode_inj {s s' : Text} : encode s = encode s' ↔ s = s' := by
  refine ⟨fun h => ?_, congrArg _⟩
  have hread := decode_encode s
  rw [h, decode_encode] at hread
  exact (Except.ok.inj hread).symm

/-! ### Newlines -/

/-- CR is spelled by one byte, which no other character is spelled with. -/
theorem cr_mem_encodeChar {c : Char} : (13 : UInt8) ∈ encodeChar c ↔ c = '\r' := by
  have hbyte : ∀ {n : Nat}, n < 0x100 → ((13 : UInt8) = UInt8.ofNat n ↔ n = 13) := by
    intro n hn
    rw [← UInt8.toNat_inj, toNat_ofNat_of_lt hn]
    exact eq_comm
  have hcr : c = '\r' ↔ c.toNat = 13 := by
    rw [Char.ext_iff, ← UInt32.toNat_inj]
    rfl
  have hlimit : c.toNat < 0x110000 := by
    rcases c.valid with h | h <;> simp only [Char.toNat] <;> omega
  rw [hcr]
  simp only [encodeChar]
  split
  · rw [List.mem_singleton, hbyte (by omega)]
  · -- every byte of a longer spelling is at least 0x80
    refine iff_of_false ?_ (by omega)
    split
    · simp only [List.mem_cons, List.not_mem_nil, or_false]
      rw [hbyte (by omega), hbyte (by omega)]
      omega
    split
    · simp only [List.mem_cons, List.not_mem_nil, or_false]
      rw [hbyte (by omega), hbyte (by omega), hbyte (by omega)]
      omega
    · simp only [List.mem_cons, List.not_mem_nil, or_false]
      rw [hbyte (by omega), hbyte (by omega), hbyte (by omega), hbyte (by omega)]
      omega

theorem cr_mem_encode {s : Text} : (13 : UInt8) ∈ encode s ↔ '\r' ∈ s := by
  simp only [encode, List.mem_flatMap, cr_mem_encodeChar, exists_eq_right]

end Utf8

/-- Unified newlines change a text exactly if it holds a CR. -/
theorem Text.unifyNewlines_eq_self {s : Text} : unifyNewlines s = s ↔ '\r' ∉ s := by
  constructor
  · intro h
    rw [← h]
    exact cr_not_mem_unifyNewlines s
  · intro h
    fun_induction unifyNewlines s with
    | case1 => rfl
    | case2 cs ih => simp at h
    | case3 c cs _ ih =>
      simp only [List.mem_cons, not_or] at h
      rw [if_neg (Ne.symm h.1), ih h.2]

/-- **Unified newlines** leave the bytes of a text as they are exactly if no byte is that of CR. -/
theorem Utf8.encode_unifyNewlines_iff {bytes : Bytes} {text : Text} (h : decode bytes = .ok text) :
    encode (Text.unifyNewlines text) = bytes ↔ (13 : UInt8) ∉ bytes := by
  rw [← encode_decode h, encode_inj, Text.unifyNewlines_eq_self, cr_mem_encode]

end Oneshot
