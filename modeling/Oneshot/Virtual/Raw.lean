import Oneshot.Text.Utf8

/-!
# Bytes as characters

What processes read and write is bytes. Here each byte stands as the character of the same number,
so that the functions on texts serve for bytes too and nothing is lost of bytes that spell no text.

- `bytesOf_rawOfBytes`: bytes come back from the characters that stand for them.
- `flatten_rawLines`: the lines of a text make up the text.
-/

namespace Oneshot

namespace Virtual

/-- The bytes of a text, each as the character of the same number. -/
def rawOf (s : Text) : Text :=
  (Utf8.encode s).map fun b => Char.ofNat b.toNat

/-- The bytes for which characters stand. -/
def bytesOf (raw : Text) : Bytes :=
  raw.map fun c => UInt8.ofNat c.toNat

/-- The characters that stand for bytes. -/
def rawOfBytes (bytes : Bytes) : Text :=
  bytes.map fun b => Char.ofNat b.toNat

/-- The text that bytes spell; bytes that spell none stand for the characters of their numbers. -/
def textOfRaw (raw : Text) : Text :=
  match Utf8.decode (bytesOf raw) with
  | .ok s => s
  | .error _ => raw

/-- Whether a character is the mark between the segments of a command in the old style. -/
def isBackquote (c : Char) : Bool :=
  c.toNat == 0x60

/-- The number that decimal digits denote. -/
def natOf (digits : Text) : Nat :=
  digits.foldl (fun n c => n * 10 + (c.toNat - 48)) 0

/-- The number that a text of decimal digits denotes. -/
def natOf? (s : Text) : Option Nat :=
  if s.isEmpty || !s.all Char.isDigit then none else some (natOf s)

/-- An octal digit. -/
def isOctal (c : Char) : Bool :=
  '0' ≤ c && c ≤ '7'

/-- The number that octal digits denote. -/
def octalOf (digits : Text) : Nat :=
  digits.foldl (fun n c => n * 8 + (c.toNat - 48)) 0

/-- A blank or a control character that moves the print position. -/
def isSpace (c : Char) : Bool :=
  c == ' ' || ('\t' ≤ c && c ≤ '\r')

/-- Texts in the order of their bytes. -/
def inOrder (texts : List Text) : List Text :=
  texts.mergeSort fun a b => (compare (a.map Char.toNat) (b.map Char.toNat)).isLE

/-- The lines of a text, each with its line end if it has one. -/
def rawLines (s : Text) : List Text :=
  let start : List Text := []
  s.foldr (fun c lines =>
    match lines with
    | [] => [[c]]
    | line :: rest => if c = '\n' then [c] :: line :: rest else (c :: line) :: rest) start

/-- The lines of a text without their line ends. -/
def plainLines (s : Text) : List Text :=
  (rawLines s).map (Text.dropEnd ['\n'])

/-- Bytes come back from the characters that stand for them. -/
theorem bytesOf_rawOfBytes (bytes : Bytes) : bytesOf (rawOfBytes bytes) = bytes := by
  induction bytes with
  | nil => rfl
  | cons b bytes ih =>
    simp only [rawOfBytes, bytesOf, List.map_cons, List.map_map] at ih ⊢
    rw [ih]
    congr 1
    have h : b.toNat < 0x100 := b.toNat_lt
    have hv : b.toNat.isValidChar := Or.inl (by omega)
    rw [Char.ofNat, dif_pos hv]
    apply UInt8.toNat_inj.1
    rw [Utf8.toNat_ofNat_of_lt]
    · rfl
    · exact h

/-- The lines of a text make up the text. -/
theorem flatten_rawLines (s : Text) : (rawLines s).flatten = s := by
  induction s with
  | nil => rfl
  | cons c s ih =>
    simp only [rawLines, List.foldr_cons] at ih ⊢
    split
    · next h =>
      rw [h] at ih
      simpa using ih
    · next h =>
      rw [h] at ih
      split <;> simpa using ih

end Virtual

end Oneshot
