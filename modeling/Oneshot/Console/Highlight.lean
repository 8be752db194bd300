import Oneshot.Console.Layout
import Oneshot.Text.Blank
import Oneshot.Text.Word

/-!
# Highlighted debug lines

In a debug line every `key=value` stands out. A key is a run of word characters and hyphens; a value
is what stands between two double quotes on one line, or else a run of characters that are not
blank. The pairs are found from left to right in the message as it is, before control characters
are removed.

- `text_tokensFrom`: the tokens are the message, cut into pieces.
-/

namespace Oneshot

namespace Console

/-- A piece of a debug message. -/
inductive Token where
  /-- Text between two pairs. -/
  | gap (text : Text)
  | pair (key value : Text)
deriving DecidableEq, Repr

/-- The text of a token. -/
def Token.text : Token → Text
  | .gap text => text
  | .pair key value => key ++ '=' :: value

/-- A character of a key. -/
def isKeyChar (c : Char) : Bool :=
  isWordChar c || c == '-'

/-- The quoted value that stands here, with its quotes. -/
def quotedValue? : Text → Option Text
  | '"' :: s =>
    let inner := s.takeWhile fun c => c != '"' && c != '\n'
    if (s.drop inner.length).head? = some '"' then some ('"' :: inner ++ ['"']) else none
  | _ => none

/-- The value that stands here. -/
def value? (s : Text) : Option Text :=
  match quotedValue? s with
  | some value => some value
  | none =>
    let run := s.takeWhile (!isBlank ·)
    if run.isEmpty then none else some run

/-- The pair that begins here: its key and its value. -/
def pair? (s : Text) : Option (Text × Text) :=
  let key := s.takeWhile isKeyChar
  match s.drop key.length with
  | '=' :: rest => if key.isEmpty then none else (value? rest).map (key, ·)
  | _ => none

/-- The gap that has been read, if it is not empty; it is given in reverse. -/
def gapBefore (gap : Text) : List Token :=
  if gap.isEmpty then [] else [.gap gap.reverse]

/-- The tokens of a message. `gap` is the text in front, in reverse, that belongs to no pair, and
`skip` characters belong to the pair in front. -/
def tokensFrom (gap : Text) : (skip : Nat) → Text → List Token
  | _, [] => gapBefore gap
  | skip + 1, _ :: s => tokensFrom gap skip s
  | 0, c :: s =>
    match pair? (c :: s) with
    | some (key, value) =>
      gapBefore gap ++ .pair key value :: tokensFrom [] (key.length + value.length) s
    | none => tokensFrom (c :: gap) 0 s

/-- The tokens of a message. -/
def tokens (message : Text) : List Token :=
  tokensFrom [] 0 message

/-- What a debug line begins with. -/
def debugLabel : Text :=
  "[debug] "

/-- The style under all of a debug line. -/
def debugStyle : Style :=
  ⟨true, false, some .cyan⟩

/-- The style of gaps and of the sign between a key and its value. -/
def dimStyle : Style :=
  ⟨false, true, none⟩

/-- The style of keys. -/
def keyStyle : Style :=
  ⟨true, false, some .magenta⟩

/-- The style of the value under a key. -/
def valueStyle (key : Text) : Style :=
  ⟨true, false, some (if key = "command".toList ∨ key = "cmd".toList then .blue else .green)⟩

/-- The pieces of a token. -/
def Token.pieces : Token → List Piece
  | .gap text => [⟨text, dimStyle⟩]
  | .pair key value => [⟨key, keyStyle⟩, ⟨['='], dimStyle⟩, ⟨value, valueStyle key⟩]

/-- A stretch of the printed text and its style. -/
structure Span where
  start : Nat
  stop : Nat
  style : Style
deriving DecidableEq, Repr

/-- The stretches that pieces take up, one behind the other, from `start` on, in the cleaned text.
-/
def spansFrom (start : Nat) : List Piece → List Span
  | [] => []
  | piece :: rest =>
    let stop := start + (clean piece.text).length
    ⟨start, stop, piece.style⟩ :: spansFrom stop rest

/-- A debug line: its text and the styles of its stretches over the style of the whole line. -/
structure DebugLine where
  text : Text
  style : Style
  spans : List Span
deriving DecidableEq, Repr

/-- The pieces of a debug message behind the label. -/
def messagePieces (message : Text) : List Piece :=
  (tokens message).flatMap Token.pieces

/-- The debug line of a message. -/
def debugLine (message : Text) : DebugLine where
  text := debugLabel ++ (messagePieces message).flatMap fun piece => clean piece.text
  style := debugStyle
  spans := spansFrom debugLabel.length (messagePieces message)

/-- The pieces of a debug line, in the styles in which they are printed. -/
def debugPieces (message : Text) : List Piece :=
  ⟨debugLabel, debugStyle⟩
    :: (messagePieces message).map fun piece => { piece with style := debugStyle.under piece.style }

theorem text_gapBefore (gap : Text) : (gapBefore gap).flatMap Token.text = gap.reverse := by
  simp only [gapBefore]
  split
  · simp_all
  · simp [Token.text]

theorem quotedValue?_isPrefix {s value : Text} (h : quotedValue? s = some value) :
    value <+: s := by
  match s, h with
  | [], h => simp [quotedValue?] at h
  | d :: ds, h =>
    simp only [quotedValue?] at h
    split at h
    · next t heq =>
      obtain ⟨rfl, rfl⟩ := List.cons.inj heq
      split at h
      · next hq =>
        simp only [Option.some.injEq] at h
        subst h
        generalize hi : ds.takeWhile (fun c => c != '"' && c != '\n') = inner at hq
        have hp : inner <+: ds := hi ▸ List.takeWhile_prefix _
        obtain ⟨tail, rfl⟩ := hp
        rw [List.drop_left] at hq
        obtain ⟨tail', rfl⟩ : ∃ t, tail = '"' :: t := by
          cases tail with
          | nil => simp at hq
          | cons a t => exact ⟨t, by simpa using hq⟩
        exact ⟨tail', by simp⟩
      · simp at h
    · simp at h

/-- A value is what stands at its place. -/
theorem value?_isPrefix {s value : Text} (h : value? s = some value) : value <+: s := by
  simp only [value?] at h
  split at h
  · next v hq =>
    simp only [Option.some.injEq] at h
    exact h ▸ quotedValue?_isPrefix hq
  · split at h
    · simp at h
    · simp only [Option.some.injEq] at h
      exact h ▸ List.takeWhile_prefix _

/-- A pair is what stands at its place. -/
theorem pair?_isPrefix {s key value : Text} (h : pair? s = some (key, value)) :
    key ++ '=' :: value <+: s := by
  simp only [pair?] at h
  split at h
  · next rest hr =>
    split at h
    · simp at h
    · simp only [Option.map_eq_some_iff, Prod.mk.injEq] at h
      obtain ⟨v, hv, hk, rfl⟩ := h
      have hs := List.prefix_iff_eq_append.1 (List.takeWhile_prefix isKeyChar (l := s))
      rw [hr, hk] at hs
      obtain ⟨t, rfl⟩ := value?_isPrefix hv
      exact ⟨t, by simp [← hs]⟩
  · simp at h

/-- The tokens are the message, cut into pieces. -/
theorem text_tokensFrom (gap s : Text) (skip : Nat) :
    (tokensFrom gap skip s).flatMap Token.text = gap.reverse ++ s.drop skip := by
  fun_induction tokensFrom gap skip s with
  | case1 gap => simp [text_gapBefore]
  | case2 gap skip c s ih => simpa using ih
  | case3 gap c s key value h ih =>
    obtain ⟨t, ht⟩ := pair?_isPrefix h
    have hd : s.drop (key.length + value.length) = t := by
      have := congrArg (List.drop (key.length + value.length + 1)) ht
      rw [List.drop_succ_cons] at this
      rw [← this]
      simp [Nat.add_assoc, List.drop_append]
    simp only [List.flatMap_append, List.flatMap_cons, text_gapBefore, ih, hd, ← ht]
    simp [Token.text]
  | case4 gap c s h ih => simp [ih]

end Console

end Oneshot
