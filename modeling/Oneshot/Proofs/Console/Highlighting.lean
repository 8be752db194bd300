import Oneshot.Proofs.Console.Pairs
import Oneshot.Proofs.Console.Printing
import Oneshot.Proofs.Host.Trace

/-!
# Spans of a Debug Line

A debug line shows its message without some control characters, and its styles are recorded as
spans of what is shown. The pairs, however, are found in the message as it is. A place of the
message is brought to the line by counting the characters in front of it that are shown (`place`).

The pairs of a message are its leftmost matches that do not overlap, and there is one list of such
matches (`LeftmostMatches.unique`). It determines all spans: three for each match, and one for each
gap that is not empty (`spansOf`).

The console that prints the line replaces its tabs by blanks.

* `LeftmostMatches`, `LeftmostMatches.unique`: the matches of a message.
* `tokensFrom_cases`: how a message is cut at its first match.
* `Tiles`: spans without gaps, from one place to another.
* `stretches_debugLine`: what is printed are the stretches of the spans.
* `exists_highlighted`: the text and the spans of a debug line.
* `Logger.note_highlights`: what a logger prints of a message.
* `Logger.note_pads_tab`: a tab is not printed.
-/

namespace Oneshot

namespace Console

variable {message s : Text} {lo : ℕ}

/-! ### Matches -/

/-- A pair and its place in a message. -/
structure Match where
  start : ℕ
  key : Text
  value : Text
deriving DecidableEq, Repr

namespace Match

/-- The place of the sign between the key and the value. -/
def sign (m : Match) : ℕ :=
  m.start + m.key.length

/-- The place behind the value. -/
def stop (m : Match) : ℕ :=
  m.sign + 1 + m.value.length

theorem start_lt_stop (m : Match) : m.start < m.stop := by
  rw [stop, sign]
  omega

end Match

/-- From a place on, the matches are those that a search from left to right finds: they are pairs of
the message in increasing order, they do not overlap, and every other pair begins inside of one of
them. -/
structure LeftmostMatches (message : Text) (lo : ℕ) (ms : List Match) : Prop where
  pairAt : ∀ m ∈ ms, PairAt (message.drop m.start) m.key m.value
  ordered : ms.Pairwise fun m m' => m.stop ≤ m'.start
  lo_le : ∀ m ∈ ms, lo ≤ m.start
  leftmost : ∀ i key value, lo ≤ i → PairAt (message.drop i) key value →
    ∃ m ∈ ms, m.start ≤ i ∧ i < m.stop

theorem leftmostMatches_nil (h : ∀ i, lo ≤ i → pair? (message.drop i) = none) :
    LeftmostMatches message lo [] where
  pairAt := by simp
  ordered := .nil
  lo_le := by simp
  leftmost i key value hlo hpair := by
    rw [← pair?_eq_some_iff, h i hlo] at hpair
    cases hpair

namespace LeftmostMatches

variable {m m' : Match} {ms ms' : List Match}

theorem cons (hm : pair? (message.drop m.start) = some (m.key, m.value)) (hlo : lo ≤ m.start)
    (hnone : ∀ i, lo ≤ i → i < m.start → pair? (message.drop i) = none)
    (h : LeftmostMatches message m.stop ms) : LeftmostMatches message lo (m :: ms) where
  pairAt := List.forall_mem_cons.2 ⟨pair?_eq_some_iff.1 hm, h.pairAt⟩
  ordered := .cons h.lo_le h.ordered
  lo_le := by
    have hlt := m.start_lt_stop
    refine List.forall_mem_cons.2 ⟨hlo, fun m' hm' => ?_⟩
    have := h.lo_le m' hm'
    omega
  leftmost i key value hi hpair := by
    by_cases hstart : i < m.start
    · rw [← pair?_eq_some_iff, hnone i hi hstart] at hpair
      cases hpair
    by_cases hstop : i < m.stop
    · exact ⟨m, List.mem_cons_self, Nat.le_of_not_lt hstart, hstop⟩
    · obtain ⟨m', hm', hinside⟩ := h.leftmost i key value (Nat.le_of_not_lt hstop) hpair
      exact ⟨m', List.mem_cons_of_mem m hm', hinside⟩

theorem tail (h : LeftmostMatches message lo (m :: ms)) : LeftmostMatches message m.stop ms where
  pairAt m' hm' := h.pairAt m' (List.mem_cons_of_mem m hm')
  ordered := h.ordered.of_cons
  lo_le := (List.pairwise_cons.1 h.ordered).1
  leftmost i key value hi hpair := by
    have hlo := h.lo_le m List.mem_cons_self
    have hlt := m.start_lt_stop
    obtain ⟨m', hm', hinside⟩ := h.leftmost i key value (by omega) hpair
    rcases List.mem_cons.1 hm' with rfl | hm'
    · omega
    · exact ⟨m', hm', hinside⟩

/-- The first match begins in front of every pair. -/
theorem start_le (h : LeftmostMatches message lo (m :: ms)) {i : ℕ} {key value : Text}
    (hi : lo ≤ i) (hpair : PairAt (message.drop i) key value) : m.start ≤ i := by
  obtain ⟨m', hm', hstart, -⟩ := h.leftmost i key value hi hpair
  rcases List.mem_cons.1 hm' with rfl | hm'
  · exact hstart
  · have hordered := (List.pairwise_cons.1 h.ordered).1 m' hm'
    have hlt := m.start_lt_stop
    omega

/-- **The matches are no choice.** -/
theorem unique (h : LeftmostMatches message lo ms) (h' : LeftmostMatches message lo ms') :
    ms = ms' := by
  induction ms generalizing lo ms' with
  | nil =>
    cases ms' with
    | nil => rfl
    | cons m' ms' =>
      obtain ⟨m, hm, -⟩ := h.leftmost _ _ _ (h'.lo_le m' List.mem_cons_self)
        (h'.pairAt m' List.mem_cons_self)
      simp at hm
  | cons m ms ih =>
    cases ms' with
    | nil =>
      obtain ⟨m', hm', -⟩ := h'.leftmost _ _ _ (h.lo_le m List.mem_cons_self)
        (h.pairAt m List.mem_cons_self)
      simp at hm'
    | cons m' ms' =>
      have hm := h.pairAt m List.mem_cons_self
      have hm' := h'.pairAt m' List.mem_cons_self
      have hstart : m.start = m'.start :=
        Nat.le_antisymm (h.start_le (h'.lo_le m' List.mem_cons_self) hm')
          (h'.start_le (h.lo_le m List.mem_cons_self) hm)
      obtain rfl : m = m' := by
        obtain ⟨start, key, value⟩ := m
        obtain ⟨start', key', value'⟩ := m'
        obtain rfl : start = start' := hstart
        have hsame := (pair?_eq_some_iff.2 hm).symm.trans (pair?_eq_some_iff.2 hm')
        obtain ⟨rfl, rfl⟩ := Prod.mk.inj (Option.some.inj hsame)
        rfl
      rw [ih h.tail h'.tail]

end LeftmostMatches

/-! ### The first match -/

theorem tokensFrom_skip (gap s : Text) (skip : ℕ) :
    tokensFrom gap skip s = tokensFrom gap 0 (s.drop skip) := by
  induction skip generalizing s with
  | zero => rfl
  | succ skip ih =>
    cases s with
    | nil => rfl
    | cons c s =>
      rw [tokensFrom, ih]
      rfl

/-- **A message is cut at its first match**, or there is none and all of it is a gap. -/
theorem tokensFrom_cases (gap s : Text) :
    ((∀ i, pair? (s.drop i) = none) ∧ tokensFrom gap 0 s = gapBefore (s.reverse ++ gap)) ∨
      ∃ front key value rest, s = front ++ (key ++ '=' :: value ++ rest) ∧
        (∀ i < front.length, pair? (s.drop i) = none) ∧
        pair? (s.drop front.length) = some (key, value) ∧
        tokensFrom gap 0 s
          = gapBefore (front.reverse ++ gap) ++ .pair key value :: tokens rest := by
  induction s generalizing gap with
  | nil => exact .inl ⟨fun i => by rw [List.drop_nil]; rfl, rfl⟩
  | cons c s ih =>
    rw [tokensFrom]
    cases hpair : pair? (c :: s) with
    | some pair =>
      obtain ⟨key, value⟩ := pair
      obtain ⟨rest, hrest⟩ := pair?_isPrefix hpair
      have hdrop : s.drop (key.length + value.length) = rest := by
        have hlength : (key ++ '=' :: value).length = key.length + value.length + 1 := by
          simp only [List.length_append, List.length_cons]
          omega
        have hall : (c :: s).drop (key ++ '=' :: value).length = rest := by
          rw [← hrest, List.drop_left]
        rwa [hlength, List.drop_succ_cons] at hall
      refine .inr ⟨[], key, value, rest, hrest.symm, by simp, hpair, ?_⟩
      simp only
      rw [tokensFrom_skip, hdrop]
      rfl
    | none =>
      simp only
      have hnone : ∀ {n : ℕ}, (∀ i < n, pair? (s.drop i) = none) →
          ∀ i < n + 1, pair? ((c :: s).drop i) = none := by
        rintro n hn (_ | i) hi
        · exact hpair
        · exact hn i (by omega)
      obtain ⟨hall, htokens⟩ | ⟨front, key, value, rest, rfl, hfront, hfirst, htokens⟩ :=
        ih (c :: gap)
      · refine .inl ⟨fun i => hnone (fun i _ => hall i) i (Nat.lt_succ_self i), ?_⟩
        simp [htokens]
      · refine .inr ⟨c :: front, key, value, rest, rfl, hnone hfront, hfirst, ?_⟩
        rw [htokens, List.reverse_cons, List.append_assoc]
        rfl

/-! ### Spans by matches -/

/-- The place of the debug line to which a place of the message is brought. -/
def place (message : Text) (i : ℕ) : ℕ :=
  debugLabel.length + (clean (message.take i)).length

/-- The span of a gap between two places of the message, unless it is empty. -/
def gapSpans (message : Text) (lo hi : ℕ) : List Span :=
  if lo < hi then [⟨place message lo, place message hi, dimStyle⟩] else []

/-- The spans of a match: its key, the sign and its value. -/
def Match.spans (message : Text) (m : Match) : List Span :=
  [⟨place message m.start, place message m.sign, keyStyle⟩,
    ⟨place message m.sign, place message (m.sign + 1), dimStyle⟩,
    ⟨place message (m.sign + 1), place message m.stop, valueStyle m.key⟩]

/-- The spans of a message from a place on, where these are the matches. -/
def spansOf (message : Text) (lo : ℕ) : List Match → List Span
  | [] => gapSpans message lo message.length
  | m :: ms => gapSpans message lo m.start ++ m.spans message ++ spansOf message m.stop ms

/-- A stretch of the message is as long on the line as it is when it is cleaned. -/
theorem place_add (before t after : Text) :
    place (before ++ (t ++ after)) (before.length + t.length)
      = place (before ++ (t ++ after)) before.length + (clean t).length := by
  have htake : (before ++ (t ++ after)).take (before.length + t.length) = before ++ t := by
    rw [← List.append_assoc, ← List.length_append, List.take_left]
  rw [place, place, htake, List.take_left]
  simp only [clean, List.filter_append, List.length_append, Nat.add_assoc]

/-- The spans of what begins with a gap. -/
theorem spansFrom_gapBefore {before front after : Text}
    (h : message = before ++ (front ++ after)) (rest : List Piece) :
    spansFrom (place message before.length)
        ((gapBefore front.reverse).flatMap Token.pieces ++ rest)
      = gapSpans message before.length (before.length + front.length)
        ++ spansFrom (place message (before.length + front.length)) rest := by
  rcases front with _ | ⟨c, front⟩
  · simp [gapBefore, gapSpans]
  · have hgap : gapBefore (c :: front).reverse = [.gap (c :: front)] := by simp [gapBefore]
    rw [hgap, gapSpans, if_pos (by simp), h, place_add]
    simp [Token.pieces, spansFrom]

/-- The spans of what begins with a pair. -/
theorem spansFrom_pair {before key value after : Text}
    (h : message = before ++ (key ++ '=' :: value ++ after)) (rest : List Piece) :
    let m : Match := ⟨before.length, key, value⟩
    spansFrom (place message before.length) ((Token.pair key value).pieces ++ rest)
      = m.spans message ++ spansFrom (place message m.stop) rest := by
  intro m
  have hsign : place message m.sign = place message before.length + (clean key).length := by
    have hplace := place_add before key ('=' :: value ++ after)
    rwa [← List.append_assoc key, ← h] at hplace
  have hvalue : place message (m.sign + 1) = place message m.sign + (clean ['=']).length := by
    have hplace := place_add (before ++ key) ['='] (value ++ after)
    have hsplit : before ++ key ++ (['='] ++ (value ++ after)) = message := by simp [h]
    rwa [hsplit, List.length_append] at hplace
  have hstop : place message m.stop = place message (m.sign + 1) + (clean value).length := by
    have hplace := place_add (before ++ key ++ ['=']) value after
    have hsplit : before ++ key ++ ['='] ++ (value ++ after) = message := by simp [h]
    rwa [hsplit, List.length_append, List.length_append] at hplace
  simp only [Token.pieces, List.cons_append, List.nil_append, spansFrom, Match.spans, ← hsign,
    ← hvalue, ← hstop]
  rfl

/-- From each place of a message on, the spans of its tokens are those of its matches. -/
theorem exists_leftmostMatches {before s : Text} (h : message = before ++ s) :
    ∃ ms, LeftmostMatches message before.length ms ∧
      spansFrom (place message before.length) ((tokens s).flatMap Token.pieces)
        = spansOf message before.length ms := by
  induction hn : s.length using Nat.strong_induction_on generalizing before s with
  | _ n ih =>
    have hdrop : ∀ i, message.drop (before.length + i) = s.drop i := fun i => by
      rw [h, List.drop_append]
      simp
    obtain ⟨hnone, htokens⟩ | ⟨front, key, value, rest, hs, hfront, hfirst, htokens⟩ :=
      tokensFrom_cases [] s
    · refine ⟨[], leftmostMatches_nil fun i hi => ?_, ?_⟩
      · obtain ⟨j, rfl⟩ := Nat.exists_eq_add_of_le hi
        rw [hdrop, hnone]
      · have hall : message = before ++ (s ++ []) := by rw [h, List.append_nil]
        have hspans := spansFrom_gapBefore hall []
        rw [List.append_nil, spansFrom, List.append_nil] at hspans
        rw [tokens, htokens, List.append_nil, hspans, spansOf, h, List.length_append]
    · -- the rest begins behind the first match, and it is shorter
      let m : Match := ⟨(before ++ front).length, key, value⟩
      have hmatch : message = before ++ front ++ (key ++ '=' :: value ++ rest) := by
        simp only [h, hs, List.append_assoc]
      have hrest : message = before ++ front ++ (key ++ '=' :: value) ++ rest := by
        simp only [hmatch, List.append_assoc]
      have hstop : (before ++ front ++ (key ++ '=' :: value)).length = m.stop := by
        simp only [m, Match.stop, Match.sign, List.length_append, List.length_cons]
        omega
      have hshorter : rest.length < n := by
        rw [← hn, hs]
        simp only [List.length_append, List.length_cons]
        omega
      obtain ⟨ms, hms, hspans⟩ := ih rest.length hshorter hrest rfl
      rw [hstop] at hms hspans
      refine ⟨m :: ms, hms.cons ?_ ?_ fun i hi hlt => ?_, ?_⟩
      · rw [← hfirst, ← hdrop, ← List.length_append]
      · exact (List.prefix_append before front).length_le
      · obtain ⟨j, rfl⟩ := Nat.exists_eq_add_of_le hi
        rw [hdrop]
        refine hfront j ?_
        simp only [m, List.length_append] at hlt
        omega
      · have hgap : message = before ++ (front ++ (key ++ '=' :: value ++ rest)) := by rw [h, hs]
        rw [tokens, htokens, List.append_nil, List.flatMap_append, List.flatMap_cons,
          spansFrom_gapBefore hgap, ← List.length_append, spansFrom_pair hmatch, hspans, spansOf,
          List.append_assoc]

/-! ### Text and spans -/

/-- The spans lie one behind the other without a gap, from one place to another. -/
inductive Tiles : ℕ → ℕ → List Span → Prop
  | nil (n : ℕ) : Tiles n n []
  | cons {start stop hi : ℕ} {style : Style} {rest : List Span} (hle : start ≤ stop)
      (h : Tiles stop hi rest) : Tiles start hi (⟨start, stop, style⟩ :: rest)

theorem tiles_spansFrom (start : ℕ) (pieces : List Piece) :
    Tiles start (start + (pieces.flatMap fun piece => clean piece.text).length)
      (spansFrom start pieces) := by
  induction pieces generalizing start with
  | nil => exact .nil start
  | cons piece rest ih =>
    rw [List.flatMap_cons, List.length_append, ← Nat.add_assoc]
    exact .cons (Nat.le_add_right start _) (ih _)

/-- What stands on a line where a span lies. -/
def stretch (text : Text) (span : Span) : Text :=
  (text.drop span.start).take (span.stop - span.start)

/-- The stretches of the spans are the pieces. -/
theorem stretches_spansFrom (front : Text) (pieces : List Piece) :
    (spansFrom front.length pieces).map (fun span =>
        (stretch (front ++ pieces.flatMap fun piece => clean piece.text) span, span.style))
      = pieces.map fun piece => (clean piece.text, piece.style) := by
  induction pieces generalizing front with
  | nil => rfl
  | cons piece rest ih =>
    have hrest := ih (front ++ clean piece.text)
    rw [List.length_append, List.append_assoc] at hrest
    rw [spansFrom, List.map_cons, List.map_cons, List.flatMap_cons, hrest]
    simp [stretch]

theorem text_messagePieces (message : Text) :
    (messagePieces message).flatMap Piece.text = message := by
  have htoken : ∀ token : Token, token.pieces.flatMap Piece.text = token.text := by
    rintro (text | ⟨key, value⟩)
    · simp [Token.pieces, Token.text]
    · simp [Token.pieces, Token.text]
  rw [messagePieces, List.flatMap_assoc, List.flatMap_congr fun token _ => htoken token, tokens]
  simpa using text_tokensFrom [] message 0

theorem clean_flatMap (pieces : List Piece) :
    (pieces.flatMap fun piece => clean piece.text) = clean (pieces.flatMap Piece.text) := by
  simp only [clean, List.filter_flatMap]

theorem text_debugLine (message : Text) :
    (debugLine message).text = debugLabel ++ clean message := by
  rw [debugLine, clean_flatMap, text_messagePieces]

/-- **What is printed are the stretches of the spans**, in the style of the span over that of the
line, behind the label. -/
theorem stretches_debugLine (message : Text) :
    let line := debugLine message
    (debugPieces message).map (fun piece => (clean piece.text, piece.style))
      = (debugLabel, line.style) :: line.spans.map fun span =>
          (stretch line.text span, line.style.under span.style) := by
  intro line
  have hstretches := congrArg (List.map fun (text, style) => (text, debugStyle.under style))
    (stretches_spansFrom debugLabel (messagePieces message))
  simp only [List.map_map, Function.comp_def] at hstretches
  rw [debugPieces, List.map_cons, List.map_map]
  exact congrArg (List.cons _) hstretches.symm

/-- The characters that a debug line does not show: BEL, BS, VT, FF and CR. -/
def hidden : List Char :=
  ['\x07', '\x08', '\x0b', '\x0c', '\r']

theorem clean_eq (s : Text) : clean s = s.filter (· ∉ hidden) := by
  refine List.filter_congr fun c _ => ?_
  have hiff : isRemoved c = true ↔ c ∈ hidden := by
    simp only [isRemoved, hidden, List.elem_eq_mem, List.mem_cons, List.not_mem_nil, or_false,
      decide_eq_true_eq, ← Char.toNat_inj]
    rfl
  have hremoved : isRemoved c = decide (c ∈ hidden) := by
    rw [Bool.eq_iff_iff, hiff, decide_eq_true_iff]
  rw [hremoved, decide_not]

section

variable {a b c x : Span} {spans : List Span}

theorem dimStyle_ne_keyStyle : dimStyle ≠ keyStyle := by decide

theorem valueStyle_ne_keyStyle (key : Text) : valueStyle key ≠ keyStyle := by
  rw [valueStyle]
  split <;> decide

/-- The style of a value is that of a command under two keys. -/
theorem valueStyle_eq_iff (key : Text) : valueStyle key = ⟨true, false, some .blue⟩ ↔
    key = "command".toList ∨ key = "cmd".toList := by
  rw [valueStyle]
  split
  · next hkey => exact iff_of_true rfl hkey
  · next hkey => exact iff_of_false (by decide) hkey

/-- Three spans of which the first is that of a key do not begin with one that is not. -/
theorem key_infix_cons_iff (hx : x.style ≠ keyStyle) :
    [a, b, c] <:+: x :: spans ∧ a.style = keyStyle ↔ [a, b, c] <:+: spans ∧ a.style = keyStyle := by
  rw [List.infix_cons_iff, List.cons_prefix_cons]
  refine and_congr_left fun ha => or_iff_right fun ⟨hax, _⟩ => hx (hax ▸ ha)

theorem key_infix_gapSpans_iff {lo hi : ℕ} :
    [a, b, c] <:+: gapSpans message lo hi ++ spans ∧ a.style = keyStyle
      ↔ [a, b, c] <:+: spans ∧ a.style = keyStyle := by
  rw [gapSpans]
  split
  · exact key_infix_cons_iff dimStyle_ne_keyStyle
  · rfl

theorem key_infix_match_iff {m : Match} :
    [a, b, c] <:+: m.spans message ++ spans ∧ a.style = keyStyle
      ↔ [a, b, c] = m.spans message ∨ [a, b, c] <:+: spans ∧ a.style = keyStyle := by
  simp only [Match.spans, List.cons_append, List.nil_append]
  rw [List.infix_cons_iff, or_and_right, key_infix_cons_iff dimStyle_ne_keyStyle,
    key_infix_cons_iff (valueStyle_ne_keyStyle _)]
  refine or_congr_left ?_
  simp only [List.cons_prefix_cons, List.nil_prefix, List.cons.injEq, and_true]
  exact ⟨fun h => h.1, fun h => ⟨h, h.1 ▸ rfl⟩⟩

/-- In the spans of a message, three of which the first is that of a key are those of a match. -/
theorem key_infix_spansOf_iff {ms : List Match} :
    [a, b, c] <:+: spansOf message lo ms ∧ a.style = keyStyle
      ↔ ∃ m ∈ ms, [a, b, c] = m.spans message := by
  induction ms generalizing lo with
  | nil =>
    rw [spansOf, ← List.append_nil (gapSpans ..), key_infix_gapSpans_iff]
    simp
  | cons m ms ih =>
    rw [spansOf, List.append_assoc, key_infix_gapSpans_iff, key_infix_match_iff, ih]
    simp only [List.mem_cons, exists_eq_or_imp]

end

/-! ### What is printed -/

/-- The pieces of a debug line: its label and the stretches of its spans, each in the style of the
span over that of the line. -/
def DebugLine.pieces (line : DebugLine) : List Piece :=
  ⟨debugLabel, line.style⟩ :: line.spans.map fun span =>
    ⟨stretch line.text span, line.style.under span.style⟩

/-- Cleaning does not matter to what is printed. -/
theorem render_of_clean {pieces pieces' : List Piece}
    (h : pieces.map (fun piece => (clean piece.text, piece.style))
      = pieces'.map fun piece => (piece.text, piece.style)) (rendering : Rendering) :
    render rendering pieces = render rendering pieces' := by
  have hcleaned : (pieces.map fun piece => ({ piece with text := clean piece.text } : Piece))
      = pieces' := by
    simpa [Function.comp_def] using
      congrArg (List.map fun pair : Text × Style => (⟨pair.1, pair.2⟩ : Piece)) h
  rw [render, render, ← hcleaned, List.map_map]
  simp only [Function.comp_def, clean_clean]

/-- A debug line is printed as the stretches of its spans. -/
theorem render_debugPieces (rendering : Rendering) (message : Text) :
    render rendering (debugPieces message) = render rendering (debugLine message).pieces := by
  refine render_of_clean ?_ rendering
  rw [stretches_debugLine, DebugLine.pieces, List.map_cons, List.map_map]
  rfl

/-- The stretches of the spans, behind the label, are the text of the line. -/
theorem text_pieces_debugLine (message : Text) :
    clean ((debugLine message).pieces.flatMap Piece.text) = (debugLine message).text := by
  have hlabel : clean debugLabel = debugLabel := by decide +kernel
  have hstretches := congrArg (List.flatMap Prod.fst) (stretches_debugLine message)
  simp only [List.flatMap_map, List.flatMap_cons, debugPieces, hlabel] at hstretches
  have htext : (debugLine message).pieces.flatMap Piece.text = (debugLine message).text := by
    rw [DebugLine.pieces, List.flatMap_cons, List.flatMap_map]
    exact hstretches.symm
  rw [htext, text_debugLine, clean, List.filter_append]
  exact congrArg₂ _ hlabel (clean_clean message)

/-- A debug line loses nothing, and its spans are those of the matches. Its text is the label and
the message without the hidden characters, and the spans tile what stands behind the label. They are
the spans of the leftmost matches of the message and of the gaps between these. Wherever three spans
begin with that of a key, they are those of a match, the last one in the style of commands exactly
under the two keys of commands. -/
structure Highlighted (message : Text) (line : DebugLine) (ms : List Match) : Prop where
  text_eq : line.text = debugLabel ++ message.filter (· ∉ hidden)
  tiles : Tiles debugLabel.length line.text.length line.spans
  leftmost : LeftmostMatches message 0 ms
  unique : ∀ ms', LeftmostMatches message 0 ms' → ms' = ms
  spans_eq : line.spans = spansOf message 0 ms
  places : ∀ a b c, [a, b, c] <:+: line.spans ∧ a.style = keyStyle ↔ ∃ m ∈ ms,
    [a, b, c] = m.spans message ∧ (c.style = ⟨true, false, some .blue⟩ ↔
      m.key = "command".toList ∨ m.key = "cmd".toList)

theorem exists_highlighted (message : Text) :
    ∃ ms, Highlighted message (debugLine message) ms := by
  have htext : (debugLine message).text = debugLabel ++ clean message := text_debugLine message
  obtain ⟨ms, hms, hspans⟩ := exists_leftmostMatches (List.nil_append message).symm
  refine ⟨ms, by rw [htext, clean_eq], ?_, hms, fun ms' hms' => hms'.unique hms, hspans,
    fun a b c => ?_⟩
  · have htiles := tiles_spansFrom debugLabel.length (messagePieces message)
    rwa [clean_flatMap, text_messagePieces, ← List.length_append, ← htext] at htiles
  · have hline : (debugLine message).spans = spansOf message 0 ms := hspans
    rw [hline, key_infix_spansOf_iff]
    refine exists_congr fun m => and_congr_right fun _ => (and_iff_left_of_imp fun h => ?_).symm
    simp only [Match.spans, List.cons.injEq, and_true] at h
    rw [h.2.2, valueStyle_eq_iff]

/-- A quote that is not closed is the beginning of a run, and a bell makes a gap of no width. -/
example : (debugLine "cmd=\"a b\"\x07n=\"c".toList).spans =
    [⟨8, 11, keyStyle⟩, ⟨11, 12, dimStyle⟩, ⟨12, 17, valueStyle "cmd"⟩, ⟨17, 17, dimStyle⟩,
      ⟨17, 18, keyStyle⟩, ⟨18, 19, dimStyle⟩, ⟨19, 21, valueStyle "n"⟩] := by
  decide +kernel

/-- A device shows the line: it is given the lines of the text, with blanks in place of tabs, cut
into pieces that are painted in their styles. -/
def Shows (rendering : Rendering) (line : DebugLine) (printed : Text) : Prop :=
  ∃ shown : List (List Piece),
    printed = Text.ended (shown.map fun pieces =>
      pieces.flatMap fun piece => paint rendering piece.style piece.text) ∧
    shown.map (·.flatMap Piece.text) = (Text.splitAt '\n' line.text).map (padTabs 0 [])

theorem shows_debugLine (rendering : Rendering) (message : Text) :
    Shows rendering (debugLine message) (render rendering (debugLine message).pieces) := by
  refine ⟨printedLines (debugLine message).pieces, render_eq rendering _, ?_⟩
  rw [text_printedLines, text_pieces_debugLine]

end Console

namespace Logger

open Console

variable {logger : Logger} {message : Text} {t : Trace}

/-- A logger notes a line: it asks for its surroundings, and unless its window has no columns, it
prints what the device shows of the line. -/
inductive Notes (logger : Logger) (line : DebugLine) : Trace → Prop
  | printed {isTerminal : Bool} {vars : Variables} {text : Text}
      (hpieces : text = render (debugRendering logger.color isTerminal vars) line.pieces)
      (hshows : Shows (debugRendering logger.color isTerminal vars) line text) :
      Notes logger line [⟨.isTerminal .errors, isTerminal⟩, ⟨.environment, vars⟩,
        ⟨.print .errors text, ()⟩]
  | unseen {isTerminal : Bool} {vars : Variables} (hcolumns : logger.window.columns = some 0) :
      Notes logger line [⟨.isTerminal .errors, isTerminal⟩, ⟨.environment, vars⟩]

/-- **A debug line loses nothing, and its spans are those of its matches.** A logger that writes
debug lines notes a message as a line whose text is the message behind the label, without the hidden
characters, and whose spans tile that text by the leftmost matches and the gaps between them. What
is printed is this text, with blanks in place of its tabs. Any other logger does nothing. -/
theorem note_highlights (h : (logger.note message).Runs t ()) :
    (logger.debug = true →
      ∃ line ms, Highlighted message line ms ∧ logger.Notes line t) ∧
    (logger.debug = false → t = []) := by
  constructor
  · intro hdebug
    obtain ⟨ms, hms⟩ := exists_highlighted message
    refine ⟨debugLine message, ms, hms, ?_⟩
    rw [note, if_pos hdebug] at h
    obtain ⟨isTerminal, t₁, rfl, vars, t₂, rfl, hprint⟩ := h
    let rendering := debugRendering logger.color isTerminal vars
    change (if logger.window.shows (treatsAsTerminal vars isTerminal && isDumb vars) then
      Routine.request (.print .errors (render rendering (debugPieces message)))
      else pure ()).Runs t₂ () at hprint
    split at hprint
    · obtain ⟨-, t₃, rfl, rfl, -⟩ := hprint
      exact .printed (render_debugPieces rendering message)
        (render_debugPieces rendering message ▸ shows_debugLine rendering message)
    · next hshows =>
      obtain ⟨rfl, -⟩ := hprint
      refine .unseen (by_contra fun hcolumns => hshows ?_)
      exact Window.shows_of_columns hcolumns _
  · intro hdebug
    rw [note, hdebug, if_neg Bool.false_ne_true] at h
    exact h.1

/-- A logger that writes debug lines. -/
def talkative : Logger :=
  ⟨false, true, true, ⟨none, none⟩⟩

/-- A message with a tab and a bell. -/
def tabbed : Text :=
  "cmd=\"a b\"\t\x07n=\"c"

/-- What is printed of this message where standard error is no terminal. -/
def tabbedLine : Text :=
  "[debug] cmd=\"a b\"       n=\"c\n"

theorem runs_note_tabbed : (talkative.note tabbed).Runs
    [⟨.isTerminal .errors, false⟩, ⟨.environment, []⟩, ⟨.print .errors tabbedLine, ()⟩] () := by
  have hprinted : render .plain (debugPieces tabbed) = tabbedLine := by
    decide +kernel
  refine ⟨false, _, rfl, [], _, rfl, (), [], ?_, rfl, rfl⟩
  rw [← hprinted]
  rfl

/-- The message with a tab has a line, whose spans are those of its matches. -/
theorem note_highlights_tabbed : talkative.debug = true ∧
    ∃ t, (talkative.note tabbed).Runs t () ∧ ∃ line ms, Highlighted tabbed line ms ∧
      talkative.Notes line t :=
  ⟨rfl, _, runs_note_tabbed, (note_highlights runs_note_tabbed).1 rfl⟩

/-- **A tab is not printed**, but blanks up to the next multiple of eight columns. So more is lost
of a message than its hidden characters. -/
theorem note_pads_tab :
    (talkative.note tabbed).Runs [⟨.isTerminal .errors, false⟩, ⟨.environment, []⟩,
      ⟨.print .errors tabbedLine, ()⟩] () ∧ talkative.debug = true ∧
      tabbedLine ≠ debugLabel ++ tabbed.filter (· ∉ Console.hidden) ++ ['\n'] := by
  refine ⟨runs_note_tabbed, rfl, ?_⟩
  decide +kernel

end Logger

end Oneshot
