import Oneshot.Proofs.Snippet.Declaration

/-!
# The Places of Declarations

What the scan for declared crates finds can be said without a scan, by places in the text. The
keyword occurs at a place if it stands there and continues no word (`OccursAt`). Behind an
occurrence there is one way to read a name, and it is either a name in front of another character,
or no name, or a name that runs to the end of the text (`NameSpan`). The scan succeeds if all
occurrences lie in spans of the first kind that do not overlap, and it fails at the first place that
is not covered by such spans and is of another kind.

The spans are no choice: the first occurrence behind a span begins the next one (`Covers.unique`).
So the description and the scan are two ways to say the same.

* `OccursAt`, `Span.Declares`, `StuckAt`, `Covers`, `Describes`: the description.
* `describes_scanFrom`: what the scan ends in is described, at every place of a text.
* `Covers.unique`, `Describes.unique`: one result at most is described.
* `declaredCrates_eq_iff_describes`: the scan ends in what is described.
-/

namespace Oneshot

namespace Snippet

variable {keyword text : Text}

/-! ### Occurrences and names -/

/-- The keyword stands at the place, and the character in front of it belongs to no word. -/
structure OccursAt (keyword text : Text) (i : ℕ) : Prop where
  isPrefix : keyword <+: text.drop i
  boundary : i = 0 ∨ ∃ c, text[i - 1]? = some c ∧ isWordChar c = false

theorem OccursAt.le_length {i : ℕ} (h : OccursAt keyword text i) : i ≤ text.length := by
  obtain rfl | ⟨c, hc, -⟩ := h.boundary
  · exact Nat.zero_le _
  · have := (List.getElem?_eq_some_iff.1 hc).1
    omega

/-- From `start` on there are blanks up to `first`, and from there on word characters up to `stop`,
both of them as far as they go. -/
structure NameSpan (text : Text) (start first stop : ℕ) : Prop where
  start_le : start ≤ first
  isBlank : ∀ j, start ≤ j → j < first → ∃ c, text[j]? = some c ∧ isBlank c = true
  first_not_isBlank : ∀ c, text[first]? = some c → Oneshot.isBlank c = false
  first_le : first ≤ stop
  isWordChar : ∀ j, first ≤ j → j < stop → ∃ c, text[j]? = some c ∧ isWordChar c = true
  stop_not_isWordChar : ∀ c, text[stop]? = some c → Oneshot.isWordChar c = false

/-- A run of characters with a property ends in one place. -/
theorem le_of_runs {p : Char → Bool} {start stop stop' : ℕ} (hstop : start ≤ stop)
    (hrun : ∀ j, start ≤ j → j < stop' → ∃ c, text[j]? = some c ∧ p c = true)
    (hend : ∀ c, text[stop]? = some c → p c = false) : stop' ≤ stop := by
  by_contra hlt
  obtain ⟨c, hc, hp⟩ := hrun stop hstop (by omega)
  simp [hend c hc] at hp

/-- A name can be read in one way. -/
theorem NameSpan.unique {start first first' stop stop' : ℕ} (h : NameSpan text start first stop)
    (h' : NameSpan text start first' stop') : first = first' ∧ stop = stop' := by
  obtain rfl : first = first' :=
    Nat.le_antisymm (le_of_runs h'.start_le h.isBlank h'.first_not_isBlank)
      (le_of_runs h.start_le h'.isBlank h.first_not_isBlank)
  exact ⟨rfl, Nat.le_antisymm (le_of_runs h'.first_le h.isWordChar h'.stop_not_isWordChar)
    (le_of_runs h.first_le h'.isWordChar h.stop_not_isWordChar)⟩

/-- A declaration by its places: the keyword, the name and what ends it. -/
structure Span where
  start : ℕ
  first : ℕ
  stop : ℕ
deriving DecidableEq, Repr

/-- The name in a span. -/
def Span.name (text : Text) (d : Span) : Text :=
  (text.drop d.first).take (d.stop - d.first)

/-- The span is that of a declaration: an occurrence with a name in front of another character. -/
structure Span.Declares (keyword text : Text) (d : Span) : Prop where
  occurs : OccursAt keyword text d.start
  nameSpan : NameSpan text (d.start + keyword.length) d.first d.stop
  name_ne_nil : d.first < d.stop
  ended : d.stop < text.length

/-- The place is that of an occurrence without a name, or with one that runs to the end. -/
structure StuckAt (keyword text : Text) (i : ℕ) (defect : DeclarationDefect) : Prop where
  occurs : OccursAt keyword text i
  nameSpan : ∃ first stop, NameSpan text (i + keyword.length) first stop ∧
    match defect with
    | .noName => first = stop
    | .unterminated => first < stop ∧ stop = text.length

/-- The spans are declarations in increasing order, they do not overlap, they lie between two
places, and they cover all occurrences there. -/
structure Covers (keyword text : Text) (lo hi : ℕ) (spans : List Span) : Prop where
  le : lo ≤ hi
  declares : ∀ d ∈ spans, d.Declares keyword text
  ordered : spans.Pairwise fun d d' => d.stop ≤ d'.start
  between : ∀ d ∈ spans, lo ≤ d.start ∧ d.stop ≤ hi
  covered : ∀ i, lo ≤ i → i < hi → OccursAt keyword text i → ∃ d ∈ spans, d.start ≤ i ∧ i < d.stop

/-- What is to be found from a place on: the names of spans that cover all that follows, or an error
behind spans that cover what comes before it. -/
def Describes (keyword text : Text) (lo : ℕ) : Except DeclarationError (List Text) → Prop
  | .ok names =>
    ∃ spans, Covers keyword text lo (text.length + 1) spans ∧ names = spans.map (Span.name text)
  | .error e =>
    e.keyword = keyword ∧ StuckAt keyword text e.offset e.defect ∧
      ∃ spans, Covers keyword text lo e.offset spans

/-! ### Covering step by step -/

theorem Span.Declares.start_lt_stop {d : Span} (h : d.Declares keyword text) :
    d.start < d.stop := by
  have := h.nameSpan.start_le
  have := h.name_ne_nil
  omega

theorem covers_nil {lo hi : ℕ} (hle : lo ≤ hi)
    (h : ∀ i, lo ≤ i → i < hi → ¬ OccursAt keyword text i) : Covers keyword text lo hi [] where
  le := hle
  declares := by simp
  ordered := .nil
  between := by simp
  covered i hlo hhi hi := absurd hi (h i hlo hhi)

theorem Covers.pass {lo hi : ℕ} {spans : List Span} (hnot : ¬ OccursAt keyword text lo)
    (h : Covers keyword text (lo + 1) hi spans) : Covers keyword text lo hi spans where
  le := Nat.le_of_succ_le h.le
  declares := h.declares
  ordered := h.ordered
  between d hd := ⟨Nat.le_of_succ_le (h.between d hd).1, (h.between d hd).2⟩
  covered i hlo hhi hi := by
    obtain rfl | hlt := Nat.eq_or_lt_of_le hlo
    · exact absurd hi hnot
    · exact h.covered i hlt hhi hi

theorem Covers.cons {hi : ℕ} {d : Span} {spans : List Span} (hd : d.Declares keyword text)
    (h : Covers keyword text d.stop hi spans) : Covers keyword text d.start hi (d :: spans) where
  le := Nat.le_trans (Nat.le_of_lt hd.start_lt_stop) h.le
  declares := List.forall_mem_cons.2 ⟨hd, h.declares⟩
  ordered := .cons (fun d' hd' => (h.between d' hd').1) h.ordered
  between := List.forall_mem_cons.2 ⟨⟨Nat.le_refl _, h.le⟩, fun d' hd' =>
    ⟨Nat.le_trans (Nat.le_of_lt hd.start_lt_stop) (h.between d' hd').1, (h.between d' hd').2⟩⟩
  covered i hlo hhi hi := by
    by_cases hstop : i < d.stop
    · exact ⟨d, List.mem_cons_self, hlo, hstop⟩
    · obtain ⟨d', hd', hcover⟩ := h.covered i (Nat.le_of_not_lt hstop) hhi hi
      exact ⟨d', List.mem_cons_of_mem d hd', hcover⟩

theorem Covers.tail {lo hi : ℕ} {d : Span} {spans : List Span}
    (h : Covers keyword text lo hi (d :: spans)) : Covers keyword text d.stop hi spans where
  le := (h.between d List.mem_cons_self).2
  declares d' hd' := h.declares d' (List.mem_cons_of_mem d hd')
  ordered := h.ordered.of_cons
  between d' hd' :=
    ⟨(List.pairwise_cons.1 h.ordered).1 d' hd', (h.between d' (List.mem_cons_of_mem d hd')).2⟩
  covered i hlo hhi hi := by
    have hstart := (h.between d List.mem_cons_self).1
    have hlt := (h.declares d List.mem_cons_self).start_lt_stop
    obtain ⟨d', hd', hcover⟩ := h.covered i (by omega) hhi hi
    rcases List.mem_cons.1 hd' with rfl | hd'
    · omega
    · exact ⟨d', hd', hcover⟩

theorem Describes.pass {lo : ℕ} {result : Except DeclarationError (List Text)}
    (hnot : ¬ OccursAt keyword text lo) (h : Describes keyword text (lo + 1) result) :
    Describes keyword text lo result := by
  cases result with
  | ok names =>
    obtain ⟨spans, hcovers, rfl⟩ := h
    exact ⟨spans, hcovers.pass hnot, rfl⟩
  | error e =>
    obtain ⟨hkeyword, hstuck, spans, hcovers⟩ := h
    exact ⟨hkeyword, hstuck, spans, hcovers.pass hnot⟩

theorem Describes.declaration {d : Span} {result : Except DeclarationError (List Text)}
    (hd : d.Declares keyword text) (h : Describes keyword text d.stop result) :
    Describes keyword text d.start (result.map (d.name text :: ·)) := by
  cases result with
  | ok names =>
    obtain ⟨spans, hcovers, rfl⟩ := h
    exact ⟨d :: spans, hcovers.cons hd, rfl⟩
  | error e =>
    obtain ⟨hkeyword, hstuck, spans, hcovers⟩ := h
    exact ⟨hkeyword, hstuck, d :: spans, hcovers.cons hd⟩

/-! ### The places of the scan -/

/-- Whether a text ends inside of a word. -/
def endsInWord (s : Text) : Bool :=
  s.getLast?.elim false isWordChar

theorem endsInWord_concat (s : Text) (c : Char) : endsInWord (s ++ [c]) = isWordChar c := by
  simp [endsInWord]

theorem occursAt_append_iff (before s : Text) :
    OccursAt keyword (before ++ s) before.length ↔ endsInWord before = false ∧ keyword <+: s := by
  have hdrop : (before ++ s).drop before.length = s := List.drop_left
  have hboundary : endsInWord before = false ↔ before.length = 0 ∨
      ∃ c, (before ++ s)[before.length - 1]? = some c ∧ isWordChar c = false := by
    rcases List.eq_nil_or_concat' before with rfl | ⟨front, c, rfl⟩
    · simp [endsInWord]
    · simp [endsInWord]
  constructor
  · exact fun h => ⟨hboundary.2 h.boundary, hdrop ▸ h.isPrefix⟩
  · exact fun ⟨hword, hprefix⟩ => ⟨hdrop.symm ▸ hprefix, hboundary.1 hword⟩

/-- A name is read where it stands. -/
theorem nameSpan_append (front : Text) {blanks name rest : Text}
    (hblanks : ∀ c ∈ blanks, isBlank c = true) (hname : ∀ c ∈ name, isWordChar c = true)
    (hfirst : ∀ c ∈ (name ++ rest).head?, isBlank c = false)
    (hstop : ∀ c ∈ rest.head?, isWordChar c = false) :
    NameSpan (front ++ (blanks ++ (name ++ rest))) front.length (front ++ blanks).length
      (front ++ (blanks ++ name)).length where
  start_le := by simp
  isBlank j hlo hhi := by
    rw [List.length_append] at hhi
    have hj : j - front.length < blanks.length := by omega
    refine ⟨blanks[j - front.length], ?_, hblanks _ (List.getElem_mem hj)⟩
    rw [List.getElem?_append_right hlo, List.getElem?_append_left hj, List.getElem?_eq_getElem hj]
  first_not_isBlank c hc := by
    rw [← List.append_assoc, List.getElem?_append_right (Nat.le_refl _), Nat.sub_self,
      ← List.head?_eq_getElem?] at hc
    exact hfirst c hc
  first_le := by simp
  isWordChar j hlo hhi := by
    simp only [List.length_append] at hlo hhi
    have hj : j - (front ++ blanks).length < name.length := by
      rw [List.length_append]
      omega
    refine ⟨name[j - (front ++ blanks).length], ?_, hname _ (List.getElem_mem hj)⟩
    rw [← List.append_assoc, List.getElem?_append_right (by simpa using hlo),
      List.getElem?_append_left hj, List.getElem?_eq_getElem hj]
  stop_not_isWordChar c hc := by
    have htext : front ++ (blanks ++ (name ++ rest)) = front ++ (blanks ++ name) ++ rest := by
      simp only [List.append_assoc]
    rw [htext, List.getElem?_append_right (Nat.le_refl _), Nat.sub_self,
      ← List.head?_eq_getElem?] at hc
    exact hstop c hc

/-- The span of a declaration by what stands in front of its places. -/
def spanBehind (before keyword blanks name : Text) : Span where
  start := before.length
  first := (before ++ keyword ++ blanks).length
  stop := (before ++ keyword ++ (blanks ++ name)).length

/-- A declaration stands where it is read. -/
theorem declares_spanBehind {before blanks name s : Text} (hbefore : endsInWord before = false)
    (hblanks : ∀ c ∈ blanks, isBlank c = true) (hname : NameBefore s name) :
    (spanBehind before keyword blanks name).Declares keyword
      (before ++ (keyword ++ (blanks ++ (name ++ s)))) where
  occurs := (occursAt_append_iff before _).2 ⟨hbefore, List.prefix_append keyword _⟩
  nameSpan := by
    obtain ⟨c, cs, rfl, hc⟩ := hname.ended
    simp only [spanBehind]
    rw [← List.append_assoc, ← List.length_append]
    refine nameSpan_append _ hblanks hname.isWordChar (fun d hd => ?_) (by simpa using hc)
    obtain ⟨e, es, rfl⟩ := List.exists_cons_of_ne_nil hname.ne_nil
    obtain rfl : e = d := by simpa using hd
    exact isBlank_of_isWordChar (hname.isWordChar e (by simp))
  name_ne_nil := by
    have := List.length_pos_iff.2 hname.ne_nil
    simp only [spanBehind, List.length_append]
    omega
  ended := by
    obtain ⟨c, cs, rfl, -⟩ := hname.ended
    simp [spanBehind]

/-- The name in that span is the one that is read. -/
theorem name_spanBehind (before keyword blanks name s : Text) :
    (spanBehind before keyword blanks name).name
      (before ++ (keyword ++ (blanks ++ (name ++ s)))) = name := by
  have hlength : (before ++ keyword ++ (blanks ++ name)).length
      - (before ++ keyword ++ blanks).length = name.length := by
    simp only [List.length_append]
    omega
  have hsplit : before ++ (keyword ++ (blanks ++ (name ++ s)))
      = before ++ keyword ++ blanks ++ (name ++ s) := by
    simp only [List.append_assoc]
  rw [Span.name, spanBehind, hlength, hsplit, List.drop_left, List.take_left]

/-- Behind a name a text is inside of a word. -/
theorem endsInWord_append_name {front name s : Text} (hname : NameBefore s name) :
    endsInWord (front ++ name) = true := by
  obtain ⟨init, c, rfl⟩ := (List.eq_nil_or_concat' name).resolve_left hname.ne_nil
  rw [← List.append_assoc, endsInWord_concat]
  exact hname.isWordChar c (by simp)

/-- A name that cannot be read is missing, or it runs to the end. -/
theorem exists_of_readName_error {s : Text} {defect : DeclarationDefect}
    (h : readName s = .error defect) :
    ∃ blanks name rest, s = blanks ++ (name ++ rest) ∧ (∀ c ∈ blanks, isBlank c = true) ∧
      (∀ c ∈ name, isWordChar c = true) ∧ (∀ c ∈ (name ++ rest).head?, isBlank c = false) ∧
      (∀ c ∈ rest.head?, isWordChar c = false) ∧
      (defect = .noName ∧ name = [] ∨ defect = .unterminated ∧ name ≠ [] ∧ rest = []) := by
  have hend : ∀ (p : Char → Bool) (s : Text), ∀ c ∈ (s.dropWhile p).head?, p c = false := by
    intro p s c hc
    have := List.head?_dropWhile_not p s
    rw [Option.mem_def.1 hc] at this
    simpa using this
  refine ⟨s.takeWhile isBlank, (Text.trimStart s).takeWhile isWordChar,
    (Text.trimStart s).dropWhile isWordChar, ?_, List.all_eq_true.1 List.all_takeWhile,
    List.all_eq_true.1 List.all_takeWhile, ?_, hend isWordChar _, ?_⟩
  · rw [List.takeWhile_append_dropWhile, Text.trimStart, List.takeWhile_append_dropWhile]
  · rw [List.takeWhile_append_dropWhile]
    exact hend isBlank s
  · simp only [readName] at h
    split at h
    · next hname =>
      exact .inl ⟨(Except.error.inj h).symm, by simpa using hname⟩
    · next hname =>
      split at h
      · next hrest =>
        exact .inr ⟨(Except.error.inj h).symm, by simpa using hname, by simpa using hrest⟩
      · simp at h

/-- An occurrence is stuck where its name cannot be read. -/
theorem stuckAt_append {before s : Text} {defect : DeclarationDefect}
    (hbefore : endsInWord before = false) (h : readName s = .error defect) :
    StuckAt keyword (before ++ (keyword ++ s)) before.length defect where
  occurs := (occursAt_append_iff before _).2 ⟨hbefore, List.prefix_append keyword _⟩
  nameSpan := by
    obtain ⟨blanks, name, rest, rfl, hblanks, hname, hfirst, hstop, hdefect⟩ :=
      exists_of_readName_error h
    have hspan := nameSpan_append (before ++ keyword) hblanks hname hfirst hstop
    have hlength : (before ++ keyword).length = before.length + keyword.length :=
      List.length_append
    rw [List.append_assoc before keyword (blanks ++ (name ++ rest)), hlength] at hspan
    refine ⟨_, _, hspan, ?_⟩
    obtain ⟨rfl, rfl⟩ | ⟨rfl, hne, rfl⟩ := hdefect
    · simp
    · have := List.length_pos_iff.2 hne
      simp only [List.length_append, List.length_nil]
      omega

/-- **What the scan ends in is described**, at every place of a text. -/
theorem describes_scanFrom (before s : Text) :
    Describes keyword (before ++ s) before.length
      (scanFrom keyword 0 (endsInWord before) before.length s) := by
  generalize hword : endsInWord before = inWord
  induction inWord, s using scan_induction keyword generalizing before with
  | done inWord hstart =>
    rw [scanFrom_done hstart]
    refine ⟨[], covers_nil (by simp) fun i hlo hhi hi => ?_, rfl⟩
    obtain rfl : i = before.length := by
      have := hi.le_length
      simp only [List.append_nil] at this
      omega
    obtain ⟨hbefore, hprefix⟩ := (occursAt_append_iff before []).1 hi
    rw [hword] at hbefore
    obtain hin | hne := hstart
    · simp [hin] at hbefore
    · exact hne (List.prefix_nil.1 hprefix)
  | pass inWord c s hstart ih =>
    rw [scanFrom_pass hstart]
    refine Describes.pass (fun hoccurs => ?_) ?_
    · obtain ⟨hbefore, hprefix⟩ := (occursAt_append_iff before (c :: s)).1 hoccurs
      rw [hword] at hbefore
      exact hstart.elim (fun hin => by simp [hin] at hbefore) fun hnot => hnot hprefix
    · simpa using ih (before ++ [c]) (endsInWord_concat before c)
  | declaration blanks name s hblanks hname ih =>
    have hin : endsInWord (before ++ keyword ++ (blanks ++ name)) = true := by
      rw [← List.append_assoc]
      exact endsInWord_append_name hname
    have hrest := ih (before ++ keyword ++ (blanks ++ name)) hin
    have htext : before ++ keyword ++ (blanks ++ name) ++ s
        = before ++ (keyword ++ (blanks ++ (name ++ s))) := by
      simp only [List.append_assoc]
    have hlength : before.length + (keyword ++ (blanks ++ name)).length
        = (before ++ keyword ++ (blanks ++ name)).length := by
      simp only [List.length_append, Nat.add_assoc]
    have hdescribed := Describes.declaration (declares_spanBehind hword hblanks hname)
      (htext ▸ hrest)
    rw [name_spanBehind] at hdescribed
    rwa [scanFrom_declaration hblanks hname, hlength]
  | stuck s defect hread =>
    rw [scanFrom_stuck hread]
    exact ⟨rfl, stuckAt_append hword hread, [], covers_nil (Nat.le_refl _) fun i hlo hhi =>
      absurd hlo (Nat.not_le.2 hhi)⟩

/-! ### One description -/

/-- A declaration is given by its place. -/
theorem Span.Declares.unique {d d' : Span} (h : d.Declares keyword text)
    (h' : d'.Declares keyword text) (hstart : d.start = d'.start) : d = d' := by
  obtain ⟨start, first, stop⟩ := d
  obtain ⟨start', first', stop'⟩ := d'
  obtain rfl : start = start' := hstart
  obtain ⟨rfl, rfl⟩ := h.nameSpan.unique h'.nameSpan
  rfl

theorem StuckAt.unique {i : ℕ} {defect defect' : DeclarationDefect}
    (h : StuckAt keyword text i defect) (h' : StuckAt keyword text i defect') :
    defect = defect' := by
  obtain ⟨first, stop, hspan, hdefect⟩ := h.nameSpan
  obtain ⟨first', stop', hspan', hdefect'⟩ := h'.nameSpan
  obtain ⟨rfl, rfl⟩ := hspan.unique hspan'
  cases defect with
  | noName =>
    cases defect' with
    | noName => rfl
    | unterminated => exact absurd hdefect (Nat.ne_of_lt hdefect'.1)
  | unterminated =>
    cases defect' with
    | noName => exact absurd hdefect' (Nat.ne_of_lt hdefect.1)
    | unterminated => rfl

/-- No declaration stands where a name cannot be read. -/
theorem StuckAt.not_declares {d : Span} {defect : DeclarationDefect}
    (h : StuckAt keyword text d.start defect) : ¬ d.Declares keyword text := by
  intro hd
  obtain ⟨first, stop, hspan, hdefect⟩ := h.nameSpan
  obtain ⟨rfl, rfl⟩ := hspan.unique hd.nameSpan
  have hne := hd.name_ne_nil
  have hended := hd.ended
  cases defect with
  | noName => exact absurd hdefect (Nat.ne_of_lt hne)
  | unterminated => exact absurd hdefect.2 (Nat.ne_of_lt hended)

/-- A place where a scan can end: behind the text, or at an occurrence that is stuck. -/
def EndsAt (keyword text : Text) (hi : ℕ) : Prop :=
  hi = text.length + 1 ∨ ∃ defect, StuckAt keyword text hi defect

theorem EndsAt.le {hi : ℕ} (h : EndsAt keyword text hi) : hi ≤ text.length + 1 := by
  obtain rfl | ⟨defect, hstuck⟩ := h
  · exact Nat.le_refl _
  · exact Nat.le_succ_of_le hstuck.occurs.le_length

theorem EndsAt.not_declares {d : Span} (h : EndsAt keyword text d.start) :
    ¬ d.Declares keyword text := by
  obtain hlength | ⟨defect, hstuck⟩ := h
  · intro hd
    have := hd.occurs.le_length
    omega
  · exact hstuck.not_declares

/-- The place where the first span begins, or the end if there is no span. -/
def firstPlace (hi : ℕ) : List Span → ℕ
  | [] => hi
  | d :: _ => d.start

variable {lo hi : ℕ} {spans : List Span}

/-- Spans that cover all up to an end begin in front of what is to be covered. -/
theorem Covers.firstPlace_le (h : Covers keyword text lo hi spans) (hend : EndsAt keyword text hi)
    {i : ℕ} (hlo : lo ≤ i) (hi' : i = text.length + 1 ∨ OccursAt keyword text i) :
    firstPlace hi spans ≤ i := by
  have hle : firstPlace hi spans ≤ hi := by
    cases spans with
    | nil => exact Nat.le_refl _
    | cons d spans =>
      have := (h.declares d List.mem_cons_self).start_lt_stop
      exact Nat.le_trans (Nat.le_of_lt this) (h.between d List.mem_cons_self).2
  obtain rfl | hoccurs := hi'
  · exact Nat.le_trans hle hend.le
  by_cases hhi : hi ≤ i
  · exact Nat.le_trans hle hhi
  obtain ⟨d, hd, hstart, -⟩ := h.covered i hlo (Nat.lt_of_not_le hhi) hoccurs
  cases spans with
  | nil => simp at hd
  | cons d' spans =>
    rcases List.mem_cons.1 hd with rfl | hd
    · exact hstart
    · have hordered := (List.pairwise_cons.1 h.ordered).1 d hd
      have := (h.declares d' List.mem_cons_self).start_lt_stop
      show d'.start ≤ i
      omega

/-- All lists of spans up to an end begin in one place. -/
theorem Covers.firstPlace_eq {hi' : ℕ} {spans' : List Span} (h : Covers keyword text lo hi spans)
    (hend : EndsAt keyword text hi) (h' : Covers keyword text lo hi' spans')
    (hend' : EndsAt keyword text hi') : firstPlace hi spans = firstPlace hi' spans' := by
  -- the place where the one begins is to be covered by the other
  have hbegin : ∀ {hi : ℕ} {spans : List Span}, Covers keyword text lo hi spans →
      EndsAt keyword text hi → lo ≤ firstPlace hi spans ∧
        (firstPlace hi spans = text.length + 1 ∨ OccursAt keyword text (firstPlace hi spans)) := by
    intro hi spans h hend
    cases spans with
    | nil => exact ⟨h.le, hend.imp_right fun ⟨_, hstuck⟩ => hstuck.occurs⟩
    | cons d spans =>
      exact ⟨(h.between d List.mem_cons_self).1, .inr (h.declares d List.mem_cons_self).occurs⟩
  obtain ⟨hlo, hplace⟩ := hbegin h hend
  obtain ⟨hlo', hplace'⟩ := hbegin h' hend'
  exact Nat.le_antisymm (h.firstPlace_le hend hlo' hplace') (h'.firstPlace_le hend' hlo hplace)

/-- **The spans are no choice**: from one place on, there is one list of spans up to an end. -/
theorem Covers.unique {hi' : ℕ} {spans' : List Span} (h : Covers keyword text lo hi spans)
    (hend : EndsAt keyword text hi) (h' : Covers keyword text lo hi' spans')
    (hend' : EndsAt keyword text hi') : spans = spans' ∧ hi = hi' := by
  induction spans generalizing lo spans' with
  | nil =>
    have hfirst : hi = firstPlace hi' spans' := h.firstPlace_eq hend h' hend'
    cases spans' with
    | nil => exact ⟨rfl, hfirst⟩
    | cons d' spans' =>
      obtain rfl : hi = d'.start := hfirst
      exact absurd (h'.declares d' List.mem_cons_self) hend.not_declares
  | cons d spans ih =>
    have hfirst : d.start = firstPlace hi' spans' := h.firstPlace_eq hend h' hend'
    have hd := h.declares d List.mem_cons_self
    cases spans' with
    | nil =>
      obtain rfl : d.start = hi' := hfirst
      exact absurd hd hend'.not_declares
    | cons d' spans' =>
      obtain rfl : d = d' := hd.unique (h'.declares d' List.mem_cons_self) hfirst
      obtain ⟨rfl, rfl⟩ := ih h.tail h'.tail
      exact ⟨rfl, rfl⟩

/-- One result at most is described. -/
theorem Describes.unique {result result' : Except DeclarationError (List Text)}
    (h : Describes keyword text lo result) (h' : Describes keyword text lo result') :
    result = result' := by
  -- an error lies inside of the text, so that a list of names is no description of it
  have hbehind : ∀ {names : List Text} {e : DeclarationError},
      Describes keyword text lo (.ok names) → ¬ Describes keyword text lo (.error e) := by
    rintro _ e ⟨spans, hcovers, -⟩ ⟨-, hstuck, spans', hcovers'⟩
    have hlength := (hcovers.unique (.inl rfl) hcovers' (.inr ⟨_, hstuck⟩)).2
    have := hstuck.occurs.le_length
    omega
  cases result with
  | ok names =>
    cases result' with
    | ok names' =>
      obtain ⟨spans, hcovers, rfl⟩ := h
      obtain ⟨spans', hcovers', rfl⟩ := h'
      rw [(hcovers.unique (.inl rfl) hcovers' (.inl rfl)).1]
    | error e' => exact absurd h' (hbehind h)
  | error e =>
    cases result' with
    | ok names' => exact absurd h (hbehind h')
    | error e' =>
      obtain ⟨hkeyword, hstuck, spans, hcovers⟩ := h
      obtain ⟨hkeyword', hstuck', spans', hcovers'⟩ := h'
      have hoffset := (hcovers.unique (.inr ⟨_, hstuck⟩) hcovers' (.inr ⟨_, hstuck'⟩)).2
      have hdefect := hstuck.unique (hoffset ▸ hstuck')
      obtain ⟨k, o, defect⟩ := e
      obtain ⟨k', o', defect'⟩ := e'
      obtain rfl : k = keyword := hkeyword
      obtain rfl : k' = k := hkeyword'
      obtain rfl : o = o' := hoffset
      obtain rfl : defect = defect' := hdefect
      rfl

/-- **The scan ends in what is described**: in the names of the spans that cover all occurrences of
the keyword in the text, or in an error at the occurrence behind the spans that cover all before
it. -/
theorem declaredCrates_eq_iff_describes (policy : Policy) (text : Text)
    (result : Except DeclarationError (List Text)) :
    declaredCrates policy text = result ↔ Describes policy.declarationKeyword text 0 result := by
  have hscan : Describes policy.declarationKeyword text 0 (declaredCrates policy text) :=
    describes_scanFrom [] text
  constructor
  · rintro rfl
    exact hscan
  · exact hscan.unique

end Snippet

end Oneshot
