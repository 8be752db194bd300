import Oneshot.Proofs.Snippet.Declaration
import Oneshot.Proofs.Text.Lines
import Oneshot.Proofs.Text.Spacing

/-!
# Respacing

A program is not made of the characters of its snippet. Line ends become LF, lines of the body are
indented, and the items of a use line are written with single spaces. All of these replace runs of
blanks by other runs of blanks.

The scan for declared crates does not mind, with one exception: the keyword holds a space, and that
one space is part of what is looked for. A text is therefore respaced by a relation that lets every
run of blanks become another one, but keeps single spaces between the two words of the keyword, and
makes none there (`Respaced`).

* `Declares.respaced`: a respaced text declares the same crates.
* `respaced_lines`: every line end becomes LF.
* `respaced_indented`: lines are indented.
* `respaced_singleSpaced`: words are written with single spaces.
-/

namespace Oneshot

namespace Snippet

/-- A run of blanks. -/
structure IsGap (a : Text) : Prop where
  ne_nil : a ≠ []
  isBlank : ∀ c ∈ a, isBlank c = true

/-- The second text is the first one with other runs of blanks. A run between `first` and `second`
stays a single space if it is one, and becomes none if it is not. `before` is what the words in
front of the texts end with. -/
inductive Respaced (first second : Text) : (before : Text) → Text → Text → Prop
  | done (before : Text) : Respaced first second before [] []
  | char {before s t : Text} {c : Char} (hc : isBlank c = false)
      (rest : Respaced first second (before ++ [c]) s t) :
      Respaced first second before (c :: s) (c :: t)
  | gap {before a b s t : Text} (ha : IsGap a) (hb : IsGap b)
      (hkept : (a = [' '] ↔ b = [' ']) ∨ ¬ first <:+ before ∨ ¬ second <+: s)
      (rest : Respaced first second [] s t) : Respaced first second before (a ++ s) (b ++ t)

variable {first second before s t : Text}

theorem IsGap.cons {c : Char} {a : Text} (ha : IsGap (c :: a)) : Oneshot.isBlank c = true :=
  ha.isBlank c (by simp)

theorem isGap_singleton {c : Char} (hc : isBlank c = true) : IsGap [c] :=
  ⟨by simp, by simpa using hc⟩

/-- A run of blanks in front of a word ends where the blanks in front of it end. -/
theorem IsGap.exists_of_append_eq {a w s t : Text} (ha : IsGap a) (blanks : Text) (hw : w ≠ [])
    (hblank : ∀ c ∈ w, Oneshot.isBlank c = false) (h : a ++ s = blanks ++ (w ++ t)) :
    ∃ rest, blanks = a ++ rest ∧ s = rest ++ (w ++ t) := by
  rcases List.append_eq_append_iff.1 h with ⟨rest, hblanks, hs⟩ | ⟨rest, rfl, hw'⟩
  · exact ⟨rest, hblanks, hs⟩
  · cases rest with
    | nil => exact ⟨[], by simp, by simpa using hw'.symm⟩
    | cons c rest =>
      obtain ⟨d, w, rfl⟩ := List.exists_cons_of_ne_nil hw
      obtain ⟨rfl, -⟩ := List.cons.inj hw'
      have hc := ha.isBlank d (by simp)
      rw [hblank d (by simp)] at hc
      exact absurd hc (by simp)

/-! ### Words and runs of blanks -/

/-- A word stays as it is. -/
theorem Respaced.word {w : Text} (hw : ∀ c ∈ w, isBlank c = false)
    (h : Respaced first second before (w ++ s) t) :
    ∃ t', t = w ++ t' ∧ Respaced first second (before ++ w) s t' := by
  induction w generalizing before t with
  | nil => exact ⟨t, rfl, by simpa using h⟩
  | cons c w ih =>
    generalize hu : c :: w ++ s = u at h
    cases h with
    | done => simp at hu
    | char _ rest =>
      obtain ⟨rfl, rfl⟩ := List.cons.inj hu
      obtain ⟨t', rfl, ht'⟩ := ih (fun d hd => hw d (List.mem_cons_of_mem _ hd)) rest
      exact ⟨t', rfl, by simpa using ht'⟩
    | gap ha =>
      obtain ⟨rest, hrest, -⟩ := ha.exists_of_append_eq [] (by simp) hw hu.symm
      exact absurd (List.append_eq_nil_iff.1 hrest.symm).1 ha.ne_nil

theorem Respaced.word_append {w : Text} (hw : ∀ c ∈ w, isBlank c = false)
    (h : Respaced first second (before ++ w) s t) :
    Respaced first second before (w ++ s) (w ++ t) := by
  induction w generalizing before with
  | nil => simpa using h
  | cons c w ih =>
    have hrest : ∀ d ∈ w, isBlank d = false := fun d hd => hw d (List.mem_cons_of_mem c hd)
    exact .char (hw c (by simp)) (ih hrest (by simpa using h))

/-- The two texts begin with the same words. -/
theorem Respaced.prefix_iff {w : Text} (hw : ∀ c ∈ w, isBlank c = false)
    (h : Respaced first second before s t) : w <+: s ↔ w <+: t := by
  induction h generalizing w with
  | done => rfl
  | char hc rest ih =>
    cases w with
    | nil => simp
    | cons d w =>
      rw [List.cons_prefix_cons, List.cons_prefix_cons,
        ih fun e he => hw e (List.mem_cons_of_mem _ he)]
  | gap ha hb hkept rest ih =>
    cases w with
    | nil => simp
    | cons d w =>
      have hnot : ∀ {a u : Text}, IsGap a → ¬ d :: w <+: a ++ u := by
        rintro a u ha ⟨v, hv⟩
        obtain ⟨rest, hrest, -⟩ := ha.exists_of_append_eq [] (by simp) hw hv.symm
        exact ha.ne_nil (List.append_eq_nil_iff.1 hrest.symm).1
      exact iff_of_false (hnot ha) (hnot hb)

theorem Respaced.symm (hsecond : ∀ c ∈ second, isBlank c = false)
    (h : Respaced first second before s t) : Respaced first second before t s := by
  induction h with
  | done before => exact .done before
  | char hc rest ih => exact .char hc ih
  | gap ha hb hkept rest ih =>
    refine .gap hb ha ?_ ih
    rw [← rest.prefix_iff hsecond]
    exact hkept.imp_left Iff.symm

/-- Blanks in front of a word become other blanks in front of it. -/
theorem Respaced.blanks_word {blanks w : Text} (hw : w ≠ []) (hblank : ∀ c ∈ w, isBlank c = false)
    (h : Respaced first second before (blanks ++ (w ++ s)) t)
    (hblanks : ∀ c ∈ blanks, isBlank c = true) :
    ∃ blanks' before' t', t = blanks' ++ (w ++ t') ∧ (∀ c ∈ blanks', isBlank c = true) ∧
      Respaced first second before' s t' := by
  -- a run may be respaced piece by piece
  induction hn : blanks.length using Nat.strong_induction_on generalizing blanks before t with
  | _ n ih =>
    subst hn
    cases hb : blanks with
    | nil =>
      subst hb
      obtain ⟨t', rfl, ht'⟩ := h.word hblank
      exact ⟨[], _, t', rfl, by simp, ht'⟩
    | cons c rest =>
      generalize hu : blanks ++ (w ++ s) = u at h
      cases h with
      | done => simp [hb] at hu
      | char hc =>
        rw [hb] at hu
        obtain ⟨rfl, -⟩ := List.cons.inj hu
        rw [hblanks c (by simp [hb])] at hc
        simp at hc
      | @gap _ a b u t ha hgap _ hrest =>
        obtain ⟨rest, rfl, rfl⟩ := ha.exists_of_append_eq _ hw hblank hu.symm
        have hlt : rest.length < (a ++ rest).length := by
          have := List.length_pos_iff.2 ha.ne_nil
          simp only [List.length_append]
          omega
        obtain ⟨blanks', before', t', rfl, hblanks', ht'⟩ :=
          ih _ hlt hrest (fun d hd => hblanks d (List.mem_append_right _ hd)) rfl
        refine ⟨b ++ blanks', before', t', by rw [List.append_assoc], fun d hd => ?_, ht'⟩
        exact (List.mem_append.1 hd).elim (hgap.isBlank d) (hblanks' d)

/-! ### The keyword -/

/-- The keyword of a declaration: two words with a space between them. -/
abbrev pairKeyword (first second : Text) : Text :=
  first ++ ' ' :: second

/-- The keyword stays as it is. -/
theorem Respaced.keyword (hfirst : Text.IsWord first) (hsecond : Text.IsWord second)
    (h : Respaced first second before (pairKeyword first second ++ s) t) :
    ∃ t', t = pairKeyword first second ++ t' ∧ Respaced first second second s t' := by
  rw [pairKeyword, List.append_assoc, List.cons_append] at h
  obtain ⟨t, rfl, ht⟩ := h.word hfirst.not_isBlank
  generalize hu : ' ' :: (second ++ s) = u at ht
  cases ht with
  | done => simp at hu
  | char hc =>
    obtain ⟨rfl, -⟩ := List.cons.inj hu
    simp [isBlank] at hc
  | @gap _ a b u t ha hgap hkept hrest =>
    obtain ⟨rest, hspace, rfl⟩ := ha.exists_of_append_eq [' '] hsecond.ne_nil
      hsecond.not_isBlank hu.symm
    obtain ⟨rfl, rfl⟩ : a = [' '] ∧ rest = [] := by
      rcases List.append_eq_singleton_iff.1 hspace.symm with ⟨rfl, -⟩ | h
      · exact absurd rfl ha.ne_nil
      · exact h
    have hb : b = [' '] := by
      rcases hkept with hkept | hkept | hkept
      · exact hkept.1 rfl
      · exact absurd (List.suffix_append before first) hkept
      · exact absurd (by simp) hkept
    subst hb
    rw [List.nil_append] at hrest
    obtain ⟨t', rfl, ht'⟩ := hrest.word hsecond.not_isBlank
    exact ⟨t', by simp, by simpa using ht'⟩

/-- A text begins with the keyword if its respaced text does. -/
theorem Respaced.keyword_prefix (hfirst : Text.IsWord first) (hsecond : Text.IsWord second)
    (h : Respaced first second before s t) (hp : pairKeyword first second <+: t) :
    pairKeyword first second <+: s := by
  obtain ⟨u, rfl⟩ := hp
  obtain ⟨s', rfl, -⟩ := (h.symm hsecond.not_isBlank).keyword hfirst hsecond
  exact List.prefix_append _ s'

/-- What ends a name is respaced to something that ends it. -/
theorem NameBefore.respaced {name : Text} (hname : NameBefore s name)
    (h : Respaced first second before s t) : NameBefore t name where
  ne_nil := hname.ne_nil
  isWordChar := hname.isWordChar
  ended := by
    obtain ⟨c, cs, rfl, hc⟩ := hname.ended
    generalize hu : c :: cs = u at h
    cases h with
    | done => simp at hu
    | char hblank =>
      obtain ⟨rfl, -⟩ := List.cons.inj hu
      exact ⟨c, _, rfl, hc⟩
    | @gap _ a b u t ha hb =>
      obtain ⟨d, b, rfl⟩ := List.exists_cons_of_ne_nil hb.ne_nil
      exact ⟨d, b ++ t, rfl, isWordChar_of_isBlank hb.cons⟩

/-- Blanks are passed over. -/
theorem declares_gap_iff (hfirst : Text.IsWord first) {a : Text} (ha : IsGap a) {inWord : Bool}
    {crates : List Text} :
    Declares (pairKeyword first second) inWord (a ++ s) crates ↔
      Declares (pairKeyword first second) false s crates := by
  obtain ⟨c, a, rfl⟩ := List.exists_cons_of_ne_nil ha.ne_nil
  have hpass : ∀ {c : Char} {u : Text} {inWord : Bool}, isBlank c = true →
      (Declares (pairKeyword first second) inWord (c :: u) crates ↔
        Declares (pairKeyword first second) false u crates) := by
    intro c u inWord hc
    refine declares_cons_iff (isWordChar_of_isBlank hc) ?_
    obtain ⟨d, first, rfl⟩ := List.exists_cons_of_ne_nil hfirst.ne_nil
    rintro ⟨v, hv⟩
    obtain ⟨rfl, -⟩ := List.cons.inj hv
    rw [hfirst.not_isBlank d (by simp)] at hc
    exact Bool.false_ne_true hc
  have hrest : ∀ c ∈ a, isBlank c = true := fun d hd => ha.isBlank d (List.mem_cons_of_mem c hd)
  rw [List.cons_append, hpass ha.cons]
  clear ha
  induction a with
  | nil => rfl
  | cons d a ih =>
    rw [List.cons_append, hpass (hrest d (by simp))]
    exact ih fun e he => hrest e (List.mem_cons_of_mem d he)

/-- **A respaced text declares the same crates.** -/
theorem Declares.respaced (hfirst : Text.IsWord first) (hsecond : Text.IsWord second)
    {inWord : Bool} {crates : List Text}
    (h : Declares (pairKeyword first second) inWord s crates)
    (hr : Respaced first second before s t) :
    Declares (pairKeyword first second) inWord t crates := by
  -- a declaration and a run of blanks are taken as a whole, so the induction is on the length
  induction hn : s.length using Nat.strong_induction_on generalizing inWord before s t crates with
  | _ n ih =>
    subst hn
    cases h with
    | done =>
      generalize hu : ([] : Text) = u at hr
      cases hr with
      | done => exact .done _
      | char => simp at hu
      | gap ha => exact absurd (List.append_eq_nil_iff.1 hu.symm).1 ha.ne_nil
    | @pass _ c s _ hnot hrest =>
      have hkeyword := hr.keyword_prefix hfirst hsecond
      generalize hu : c :: s = u at hr
      cases hr with
      | done => simp at hu
      | char hc hr =>
        obtain ⟨rfl, rfl⟩ := List.cons.inj hu
        exact .pass (hnot.imp_right fun hnot hp => hnot (hkeyword hp)) (ih _ (by simp) hrest hr rfl)
      | @gap _ a b u t ha hb hkept hr =>
        have hlt : u.length < (c :: s).length := by
          have := List.length_pos_iff.2 ha.ne_nil
          rw [hu, List.length_append]
          omega
        have hs : Declares (pairKeyword first second) inWord (a ++ u) crates :=
          hu ▸ .pass hnot hrest
        exact (declares_gap_iff hfirst hb).2
          (ih _ hlt ((declares_gap_iff hfirst ha).1 hs) hr rfl)
    | @crate blanks name s crates hblanks hname hrest =>
      have hword : ∀ c ∈ name, isBlank c = false := fun c hc =>
        isBlank_of_isWordChar (hname.isWordChar c hc)
      obtain ⟨t, rfl, hname_t⟩ := hr.keyword hfirst hsecond
      obtain ⟨blanks', before', t, rfl, hblanks', hrest_t⟩ :=
        hname_t.blanks_word hname.ne_nil hword hblanks
      have hlt : s.length < (pairKeyword first second ++ (blanks ++ (name ++ s))).length := by
        simp only [pairKeyword, List.length_append, List.length_cons]
        omega
      exact .crate hblanks' (hname.respaced hrest_t) (ih _ hlt hrest hrest_t rfl)

/-! ### Texts that are respaced -/

theorem Respaced.append_left {s t : Text} (u : Text)
    (h : ∀ before, Respaced first second before s t) (before : Text) :
    Respaced first second before (u ++ s) (u ++ t) := by
  induction u generalizing before with
  | nil => exact h before
  | cons c u ih =>
    by_cases hc : isBlank c = true
    · have hgap : IsGap [c] := isGap_singleton hc
      exact .gap (a := [c]) (b := [c]) hgap hgap (.inl Iff.rfl) (ih [])
    · exact .char (by simpa using hc) (ih _)

/-- Runs of blanks with a line end in them can be exchanged. -/
theorem Respaced.gap_of_ne {a b : Text} (ha : IsGap a) (hb : IsGap b) (ha' : a ≠ [' '])
    (hb' : b ≠ [' ']) (h : ∀ before, Respaced first second before s t) (before : Text) :
    Respaced first second before (a ++ s) (b ++ t) :=
  .gap ha hb (.inl (iff_of_false ha' hb')) (h [])

theorem isBlank_of_isBoundary {c : Char} (h : isBoundary c = true) : isBlank c = true := by
  simp only [isBoundary, isBlank, Bool.or_eq_true, Bool.and_eq_true, decide_eq_true_eq,
    beq_iff_eq] at h ⊢
  omega

/-- Behind a line end, the text is at its end or goes on with another line. -/
theorem Respaced.line_end {a cs : Text} (ha : IsGap a) (hne : a ≠ [' '])
    (hlines : cs ≠ [] → ∀ before,
      Respaced first second before (cs ++ ['\n']) (Text.ended (Text.linesFrom [] cs)))
    (before : Text) :
    Respaced first second before (a ++ (cs ++ ['\n']))
      ('\n' :: Text.ended (Text.linesFrom [] cs)) := by
  have hlf : IsGap ['\n'] := isGap_singleton rfl
  by_cases hcs : cs = []
  · subst hcs
    have hgap : IsGap (a ++ ['\n']) := ⟨by simp, fun c hc =>
      (List.mem_append.1 hc).elim (ha.isBlank c) (hlf.isBlank c)⟩
    have hne' : a ++ ['\n'] ≠ [' '] := fun h => by
      simpa using congrArg List.getLast? h
    simpa [Text.linesFrom] using
      Respaced.gap_of_ne hgap hlf hne' (by simp) (fun before => .done before) before
  · exact Respaced.gap_of_ne ha hlf hne (by simp) (hlines hcs) before

/-- Every line end becomes LF, also the one that is added at the end. -/
theorem respaced_linesFrom (line s : Text) (h : line ≠ [] ∨ s ≠ []) :
    ∃ t, Text.ended (Text.linesFrom line s) = line.reverse ++ t ∧
      ∀ before, Respaced first second before (s ++ ['\n']) t := by
  have hlf : IsGap ['\n'] := isGap_singleton rfl
  fun_induction Text.linesFrom line s with
  | case1 line he => simp [List.isEmpty_iff.1 he] at h
  | case2 line he =>
    exact ⟨['\n'], by simp,
      Respaced.gap_of_ne hlf hlf (by simp) (by simp) fun before => .done before⟩
  | case3 line cs ih =>
    refine ⟨_, by rw [Text.ended_cons], fun before => ?_⟩
    have hcrlf : IsGap ['\r', '\n'] := ⟨by simp, List.all_eq_true.1 (by decide)⟩
    exact .line_end hcrlf (by simp) (fun hcs => by simpa using ih (.inr hcs)) before
  | case4 line c cs _ hc ih =>
    refine ⟨_, by rw [Text.ended_cons], fun before => ?_⟩
    have hne : [c] ≠ [' '] := by
      rintro h
      obtain rfl := List.singleton_inj.1 h
      simp [isBoundary] at hc
    exact .line_end (isGap_singleton (isBlank_of_isBoundary hc)) hne
      (fun hcs => by simpa using ih (.inr hcs)) before
  | case5 line c cs _ hc ih =>
    obtain ⟨t, ht, hr⟩ := ih (.inl (by simp))
    refine ⟨c :: t, by simpa using ht, ?_⟩
    exact Respaced.append_left [c] hr

/-- **Every line end becomes LF**, and the last line is ended. -/
theorem respaced_lines {s : Text} (hs : s ≠ []) (before : Text) :
    Respaced first second before (s ++ ['\n']) (Text.ended (Text.lines s)) := by
  obtain ⟨t, ht, hr⟩ := respaced_linesFrom [] s (.inr hs)
  rw [Text.lines, ht]
  exact hr before

/-- **Lines are indented**, except that nothing stands in front of the first one. -/
theorem respaced_indented {indent : Text} (hindent : ∀ c ∈ indent, isBlank c = true)
    (ls : List Text) (before : Text) :
    ∃ t, Text.ended (ls.map (indent ++ ·)) = (if ls = [] then [] else indent) ++ t ∧
      Respaced first second before (Text.ended ls) t := by
  induction ls generalizing before with
  | nil => exact ⟨[], rfl, .done before⟩
  | cons l ls ih =>
    refine ⟨l ++ '\n' :: Text.ended (ls.map (indent ++ ·)), by simp, ?_⟩
    rw [Text.ended_cons]
    refine Respaced.append_left l (fun before => ?_) before
    obtain ⟨t, ht, hr⟩ := ih []
    have hgap : IsGap ('\n' :: if ls = [] then [] else indent) := by
      refine ⟨by simp, fun c hc => ?_⟩
      rcases List.mem_cons.1 hc with rfl | hc
      · rfl
      · split at hc
        · simp at hc
        · exact hindent c hc
    rw [ht, ← List.cons_append]
    exact .gap (isGap_singleton rfl) hgap (.inl (iff_of_false (by simp) (by simp))) hr

/-! ### Single spaces -/

/-- Only a single space stands between the two words of the keyword, wherever blanks alone do. -/
def KeywordSpaced (first second s : Text) : Prop :=
  ∀ gap, IsGap gap → first ++ (gap ++ second) <:+: s → gap = [' ']

theorem KeywordSpaced.of_part {u : Text} (h : KeywordSpaced first second s) (hu : u <:+: s) :
    KeywordSpaced first second u :=
  fun gap hgap hi => h gap hgap (hi.trans hu)

/-- A text without other blanks than single spaces spaces the keyword. -/
theorem keywordSpaced_of_single (hblank : ∀ c ∈ s, isBlank c = true → c = ' ')
    (hsingle : ¬ [' ', ' '] <:+: s) : KeywordSpaced first second s := by
  intro gap hgap hpart
  have hsub : gap <:+: s := .trans ⟨first, second, by rw [List.append_assoc]⟩ hpart
  have hspace : ∀ c ∈ gap, c = ' ' := fun c hc => hblank c (hsub.subset hc) (hgap.isBlank c hc)
  rw [List.eq_replicate_of_mem hspace] at hsub ⊢
  match hn : gap.length with
  | 0 => exact absurd (List.length_eq_zero_iff.1 hn) hgap.ne_nil
  | 1 => rfl
  | n + 2 =>
    rw [hn] at hsub
    refine absurd (.trans ?_ hsub) hsingle
    exact (List.prefix_append [' ', ' '] (List.replicate n ' ')).isInfix

/-- A text that begins with a word, as its words with runs of blanks between neighbours. Blanks may
stand at its end. -/
inductive IsSpaced : Text → List Text → Prop
  | last {w blanks : Text} (hw : Text.IsWord w) (hblanks : ∀ c ∈ blanks, isBlank c = true) :
      IsSpaced (w ++ blanks) [w]
  | next {w gap s : Text} {ws : List Text} (hw : Text.IsWord w) (hgap : IsGap gap)
      (rest : IsSpaced s ws) : IsSpaced (w ++ (gap ++ s)) (w :: ws)

theorem words_append_of_isBlank {blanks : Text} (h : ∀ c ∈ blanks, isBlank c = true) (s : Text) :
    Text.words (blanks ++ s) = Text.words s := by
  induction blanks with
  | nil => rfl
  | cons c blanks ih =>
    rw [List.cons_append, Text.words_cons_of_isBlank (h c (by simp)),
      ih fun d hd => h d (List.mem_cons_of_mem c hd)]

theorem IsSpaced.words_eq {ws : List Text} (h : IsSpaced s ws) : Text.words s = ws := by
  induction h with
  | @last w blanks hw hblanks =>
    cases blanks with
    | nil => rw [List.append_nil, hw.words_eq]
    | cons c blanks =>
      have hempty := words_append_of_isBlank (fun d hd => hblanks d (List.mem_cons_of_mem c hd)) []
      rw [hw.words_append (hblanks c (by simp)), ← List.append_nil blanks, hempty]
      rfl
  | @next w gap s ws hw hgap rest ih =>
    obtain ⟨c, gap, rfl⟩ := List.exists_cons_of_ne_nil hgap.ne_nil
    rw [List.cons_append, hw.words_append hgap.cons,
      words_append_of_isBlank (fun d hd => hgap.isBlank d (List.mem_cons_of_mem c hd)), ih]

theorem exists_isSpaced {w : Text} (hw : Text.IsWord w) (s : Text) :
    ∃ ws, IsSpaced (w ++ s) ws := by
  -- a run of blanks is taken as a whole, so the induction is on the length
  induction hn : s.length using Nat.strong_induction_on generalizing w s with
  | _ n ih =>
    subst hn
    cases s with
    | nil => exact ⟨[w], .last hw (by simp)⟩
    | cons c s =>
      by_cases hc : isBlank c = true
      · have hblanks : ∀ d ∈ (c :: s).takeWhile isBlank, isBlank d = true := fun d hd =>
          List.mem_takeWhile_imp hd
        have hgap : IsGap ((c :: s).takeWhile isBlank) := ⟨by simp [hc], hblanks⟩
        rw [← List.takeWhile_append_dropWhile (p := isBlank) (l := c :: s)]
        cases hrest : (c :: s).dropWhile isBlank with
        | nil => exact ⟨[w], by simpa using IsSpaced.last hw hblanks⟩
        | cons d rest =>
          have hd : isBlank d = false := by
            simpa [hrest] using List.head?_dropWhile_not isBlank (c :: s)
          have hlt : rest.length < (c :: s).length := by
            have hle := (List.dropWhile_suffix (l := c :: s) isBlank).length_le
            rw [hrest, List.length_cons] at hle
            omega
          obtain ⟨ws, hws⟩ := ih _ hlt (w := [d]) ⟨by simp, by simpa using hd⟩ rest rfl
          exact ⟨w :: ws, .next hw hgap hws⟩
      · have hword : Text.IsWord (w ++ [c]) := ⟨by simp, fun d hd => by
          rcases List.mem_append.1 hd with hd | hd
          · exact hw.not_isBlank d hd
          · obtain rfl := List.mem_singleton.1 hd
            simpa using hc⟩
        obtain ⟨ws, hws⟩ := ih _ (by simp) hword s rfl
        exact ⟨ws, by simpa using hws⟩

theorem IsSpaced.exists_cons {ws : List Text} (h : IsSpaced s ws) :
    ∃ w rest, ws = w :: rest ∧ ∃ t, s = w ++ t := by
  cases h with
  | last => exact ⟨_, _, rfl, _, rfl⟩
  | next => exact ⟨_, _, rfl, _, rfl⟩

theorem IsSpaced.respaced {ws : List Text} (h : IsSpaced s ws)
    (hspaced : KeywordSpaced first second s) (hsecond : Text.IsWord second) :
    Respaced first second [] (s ++ ['\n']) (Text.join [' '] ws ++ ['\n']) := by
  induction h with
  | @last w blanks hw hblanks =>
    rw [List.append_assoc]
    refine Respaced.word_append hw.not_isBlank ?_
    have hgap : IsGap (blanks ++ ['\n']) := ⟨by simp, fun c hc =>
      (List.mem_append.1 hc).elim (hblanks c) fun h => by
        obtain rfl := List.mem_singleton.1 h
        rfl⟩
    have hne : blanks ++ ['\n'] ≠ [' '] := fun h => by simpa using congrArg List.getLast? h
    have hend : Respaced first second w (blanks ++ ['\n'] ++ []) (['\n'] ++ []) :=
      .gap hgap (isGap_singleton rfl) (.inl (iff_of_false hne (by simp))) (.done [])
    simpa using hend
  | @next w gap s ws hw hgap rest ih =>
    obtain ⟨v, vs, rfl, t, rfl⟩ := rest.exists_cons
    have hjoin : Text.join [' '] (w :: v :: vs) ++ ['\n']
        = w ++ ([' '] ++ (Text.join [' '] (v :: vs) ++ ['\n'])) := by
      simp [Text.join]
    rw [hjoin, List.append_assoc, List.append_assoc]
    refine Respaced.word_append hw.not_isBlank (.gap hgap (isGap_singleton rfl) ?_ (ih ?_))
    · by_cases hkeyword : first <:+ w ∧ second <+: v ++ t ++ ['\n']
      · obtain ⟨⟨x, rfl⟩, hp⟩ := hkeyword
        have hp' : second <+: v ++ t := by
          refine (List.prefix_concat_iff.1 hp).resolve_left fun h => ?_
          have := hsecond.not_isBlank '\n' (by simp [h])
          exact absurd this (by decide)
        obtain ⟨y, hy⟩ := hp'
        have hgap' : gap = [' '] := hspaced gap hgap ⟨x, y, by rw [← hy]; simp⟩
        exact .inl (iff_of_true hgap' rfl)
      · exact .inr (not_and_or.1 hkeyword)
    · exact hspaced.of_part ((List.suffix_append _ _).trans (List.suffix_append _ _)).isInfix

/-- **Words are written with single spaces**, unless that would make a keyword: behind the blanks at
the start of the text. -/
theorem respaced_singleSpaced {c : Char} (hc : isBlank c = false) {s : Text}
    (hspaced : KeywordSpaced first second (c :: s)) (hsecond : Text.IsWord second) :
    Respaced first second [] (c :: s ++ ['\n']) (Text.singleSpaced (c :: s) ++ ['\n']) := by
  have hword : Text.IsWord [c] := ⟨by simp, by simpa using hc⟩
  obtain ⟨ws, hws⟩ := exists_isSpaced hword s
  rw [Text.singleSpaced, show c :: s = [c] ++ s from rfl, hws.words_eq]
  exact hws.respaced hspaced hsecond

end Snippet

end Oneshot
