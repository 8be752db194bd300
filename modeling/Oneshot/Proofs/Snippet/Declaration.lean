import Mathlib.Data.List.Infix
import Oneshot.Snippet.Analysis

/-!
# Declarations in a Text

The scan for declared crates goes through a text character by character and counts offsets on its
way. This module says what it finds without offsets, as a relation that reads a text from left to
right (`Declares`): a character is passed over, or a keyword is read together with the name behind
it. The scan succeeds exactly on the texts that can be read that way.

A text can be read in parts. A separator, which is a character that belongs neither to a word nor to
the keyword, keeps every declaration on one of its sides, so that two parts that can be read on
their own can be read together. The converse needs a separator that is no blank: a blank between a
keyword and its name belongs to the declaration.

## Main results

* `scanFrom_done`, `scanFrom_pass`, `scanFrom_declaration`, `scanFrom_stuck`: the steps of the scan.
* `scan_induction`: the text as these steps take it.
* `scanFrom_eq_ok_iff`, `declaredCrates_eq_ok_iff`: the scan and the relation agree.
* `Declares.append`: two parts that can be read on their own can be read together.
* `Declares.split`: what can be read can be read in parts, at a separator that is no blank.
* `Declares.append_iff`: behind a part that can be read on its own, the rest is read on its own.
-/

namespace Oneshot

/-- The code points of all blanks. -/
def blankCodes : List ℕ :=
  List.range' 0x09 5 ++ List.range' 0x1C 5 ++ List.range' 0x2000 11 ++
    [0x85, 0xA0, 0x1680, 0x2028, 0x2029, 0x202F, 0x205F, 0x3000]

theorem mem_blankCodes {c : Char} (h : isBlank c = true) : c.toNat ∈ blankCodes := by
  simp only [isBlank, Bool.or_eq_true, Bool.and_eq_true, decide_eq_true_eq, beq_iff_eq] at h
  simp only [blankCodes, List.mem_append, List.mem_range'_1, List.mem_cons, List.not_mem_nil,
    or_false]
  omega

/-- No blank belongs to a word. -/
theorem isWordChar_of_isBlank {c : Char} (h : isBlank c = true) : isWordChar c = false := by
  have hblanks : ∀ n ∈ blankCodes, isWordChar (Char.ofNat n) = false := by
    decide +kernel
  simpa [Char.ofNat_toNat] using hblanks c.toNat (mem_blankCodes h)

theorem isBlank_of_isWordChar {c : Char} (h : isWordChar c = true) : isBlank c = false := by
  by_contra hb
  rw [isWordChar_of_isBlank (by simpa using hb)] at h
  exact Bool.false_ne_true h

namespace Snippet

/-! ### Names -/

/-- A run of word characters that another character ends. -/
structure NameBefore (rest name : Text) : Prop where
  ne_nil : name ≠ []
  isWordChar : ∀ c ∈ name, isWordChar c = true
  ended : ∃ c cs, rest = c :: cs ∧ Oneshot.isWordChar c = false

/-- Reading a name skips the blanks in front of it and takes all of its characters. -/
theorem readName_append {blanks name rest : Text} (hblanks : ∀ c ∈ blanks, isBlank c = true)
    (h : NameBefore rest name) : readName (blanks ++ (name ++ rest)) = .ok ⟨name, rest⟩ := by
  obtain ⟨c, cs, rfl, hc⟩ := h.ended
  obtain ⟨d, ds, rfl⟩ := List.exists_cons_of_ne_nil h.ne_nil
  have hd : isBlank d = false := isBlank_of_isWordChar (h.isWordChar d (by simp))
  have hstart : Text.trimStart (blanks ++ (d :: ds ++ c :: cs)) = d :: ds ++ c :: cs := by
    rw [Text.trimStart, List.dropWhile_append_of_pos hblanks, List.cons_append,
      List.dropWhile_cons_of_neg (by simp [hd])]
  have htake : (d :: ds ++ c :: cs).takeWhile isWordChar = d :: ds := by
    rw [List.takeWhile_append_of_pos h.isWordChar, List.takeWhile_cons_of_neg (by simp [hc]),
      List.append_nil]
  have hdrop : (d :: ds ++ c :: cs).dropWhile isWordChar = c :: cs := by
    rw [List.dropWhile_append_of_pos h.isWordChar, List.dropWhile_cons_of_neg (by simp [hc])]
  simp only [readName, hstart, htake, hdrop]
  simp

theorem nameBefore_of_readName {s : Text} {r : NameRead} (h : readName s = .ok r) :
    ∃ blanks, s = blanks ++ (r.name ++ r.rest) ∧ (∀ c ∈ blanks, isBlank c = true) ∧
      NameBefore r.rest r.name := by
  obtain ⟨blanks, hs, hblanks, hne, hword, hended⟩ := readName_eq h
  exact ⟨blanks, by rw [hs, List.append_assoc], hblanks, hne, hword, hended⟩

/-! ### The steps of the scan -/

variable {keyword : Text}

/-- At the end of a text the scan stops, unless the empty keyword begins there. -/
theorem scanFrom_done {inWord : Bool} (h : inWord = true ∨ keyword ≠ []) (offset : ℕ) :
    scanFrom keyword 0 inWord offset [] = .ok [] := by
  have hnot : (keyword.isEmpty && !inWord) = false := by
    rcases h with rfl | h
    · simp
    · simp [h]
  rw [scanFrom, hnot]
  rfl

/-- Where no keyword begins, a character is passed over. -/
theorem scanFrom_pass {inWord : Bool} {c : Char} {s : Text}
    (h : inWord = true ∨ ¬ keyword <+: c :: s) (offset : ℕ) :
    scanFrom keyword 0 inWord offset (c :: s)
      = scanFrom keyword 0 (isWordChar c) (offset + 1) s := by
  have hnot : (keyword.isPrefixOf (c :: s) && !inWord) = false := by
    rcases h with rfl | h
    · simp
    · simp [h]
  rw [scanFrom, hnot]
  rfl

/-- Behind a keyword with its name the scan goes on, inside of a word. -/
theorem scanFrom_declaration {blanks name rest : Text} (hblanks : ∀ c ∈ blanks, isBlank c = true)
    (hname : NameBefore rest name) (offset : ℕ) :
    scanFrom keyword 0 false offset (keyword ++ (blanks ++ (name ++ rest)))
      = (scanFrom keyword 0 true (offset + (keyword ++ (blanks ++ name)).length) rest).map
          (name :: ·) := by
  obtain ⟨front, d, rfl⟩ := List.eq_nil_or_concat' name |>.resolve_left hname.ne_nil
  have hd : isWordChar d = true := hname.isWordChar d (by simp)
  obtain ⟨c, cs, hcs⟩ : ∃ c cs, keyword ++ (blanks ++ (front ++ [d])) = c :: cs :=
    List.exists_cons_of_ne_nil (by simp)
  have htext : keyword ++ (blanks ++ (front ++ [d] ++ rest)) = c :: (cs ++ rest) := by
    rw [← List.cons_append, ← hcs]
    simp only [List.append_assoc]
  have hdrop : (c :: (cs ++ rest)).drop keyword.length = blanks ++ (front ++ [d] ++ rest) := by
    rw [← htext, List.drop_left]
  have hlast : cs.getLast?.elim (isWordChar c) isWordChar = true := by
    have hd' : (c :: cs).getLast? = some d := by simp [← hcs, ← List.append_assoc]
    rw [List.getLast?_cons, Option.some.injEq] at hd'
    cases hcs' : cs.getLast? <;> simp_all
  have hlength : cs.length + 1 = (keyword ++ (blanks ++ (front ++ [d]))).length := by
    rw [hcs, List.length_cons]
  rw [htext, scanFrom, if_pos (by simp [← htext]), hdrop, readName_append hblanks hname, ← hlength]
  simp only [List.length_append, Nat.add_sub_cancel, scanFrom_skip, hlast]
  rw [Nat.add_assoc, Nat.add_comm 1]

/-- What a scan finds that begins with a declaration: its name, and what the rest is found to
declare. -/
theorem exists_of_scanFrom_declaration {blanks name rest : Text} {offset : ℕ} {crates : List Text}
    (hblanks : ∀ c ∈ blanks, isBlank c = true) (hname : NameBefore rest name)
    (h : scanFrom keyword 0 false offset (keyword ++ (blanks ++ (name ++ rest))) = .ok crates) :
    ∃ others, crates = name :: others ∧
      scanFrom keyword 0 true (offset + (keyword ++ (blanks ++ name)).length) rest
        = .ok others := by
  rw [scanFrom_declaration hblanks hname] at h
  cases hrest : scanFrom keyword 0 true (offset + (keyword ++ (blanks ++ name)).length) rest with
  | error e =>
    rw [hrest] at h
    exact absurd h (by simp [Except.map])
  | ok others =>
    rw [hrest] at h
    exact ⟨others, (Except.ok.inj h).symm, rfl⟩

/-- A keyword whose name cannot be read ends the scan. -/
theorem scanFrom_stuck {s : Text} {defect : DeclarationDefect} (h : readName s = .error defect)
    (offset : ℕ) :
    scanFrom keyword 0 false offset (keyword ++ s) = .error ⟨keyword, offset, defect⟩ := by
  cases hs : keyword ++ s with
  | nil =>
    obtain ⟨rfl, rfl⟩ := List.append_eq_nil_iff.1 hs
    obtain rfl : DeclarationDefect.noName = defect := Except.error.inj h
    rfl
  | cons c cs =>
    have hdrop : (c :: cs).drop keyword.length = s := by rw [← hs, List.drop_left]
    rw [scanFrom, if_pos (by simp [← hs]), hdrop, h]

/-- **The text as the scan takes it**: a character is passed over, a keyword is read with its name,
or the scan ends. -/
@[elab_as_elim]
theorem scan_induction (keyword : Text) {motive : Bool → Text → Prop}
    (done : ∀ inWord, inWord = true ∨ keyword ≠ [] → motive inWord [])
    (pass : ∀ inWord c s, inWord = true ∨ ¬ keyword <+: c :: s → motive (isWordChar c) s →
      motive inWord (c :: s))
    (declaration : ∀ blanks name s, (∀ c ∈ blanks, isBlank c = true) → NameBefore s name →
      motive true s → motive false (keyword ++ (blanks ++ (name ++ s))))
    (stuck : ∀ s defect, readName s = .error defect → motive false (keyword ++ s))
    (inWord : Bool) (s : Text) : motive inWord s := by
  -- a name is passed over as a whole, so the induction is on the length of the text
  induction hn : s.length using Nat.strong_induction_on generalizing inWord s with
  | _ n ih =>
    subst hn
    by_cases hstart : inWord = true ∨ ¬ keyword <+: s
    · cases s with
      | nil => exact done inWord (hstart.imp_right fun h hk => h (hk ▸ List.prefix_rfl))
      | cons c s => exact pass inWord c s hstart (ih _ (by simp) _ s rfl)
    · obtain ⟨hword, t, rfl⟩ : inWord = false ∧ keyword <+: s := by simpa using hstart
      subst hword
      cases hread : readName t with
      | error defect => exact stuck t defect hread
      | ok read =>
        obtain ⟨blanks, rfl, hblanks, hname⟩ := nameBefore_of_readName hread
        refine declaration _ _ _ hblanks hname (ih _ ?_ _ _ rfl)
        have hpos := List.length_pos_iff.2 hname.ne_nil
        simp only [List.length_append]
        omega

/-! ### The declarations of a text -/

/-- The text declares the crates. `inWord` says whether the character in front of the text belongs
to a word, in which case no keyword begins with the text. -/
inductive Declares (keyword : Text) : (inWord : Bool) → Text → List Text → Prop
  | done (inWord : Bool) : Declares keyword inWord [] []
  | pass {inWord : Bool} {c : Char} {s : Text} {crates : List Text}
      (h : inWord = true ∨ ¬ keyword <+: c :: s)
      (rest : Declares keyword (isWordChar c) s crates) : Declares keyword inWord (c :: s) crates
  | crate {blanks name s : Text} {crates : List Text} (hblanks : ∀ c ∈ blanks, isBlank c = true)
      (hname : NameBefore s name) (rest : Declares keyword true s crates) :
      Declares keyword false (keyword ++ (blanks ++ (name ++ s))) (name :: crates)

/-- What can be read is found by the scan, at every offset. -/
theorem Declares.scanFrom_eq (hk : keyword ≠ []) {inWord : Bool} {s : Text} {crates : List Text}
    (h : Declares keyword inWord s crates) (offset : Nat) :
    scanFrom keyword 0 inWord offset s = .ok crates := by
  induction h generalizing offset with
  | done inWord => exact scanFrom_done (.inr hk) offset
  | pass h rest ih => rw [scanFrom_pass h, ih]
  | crate hblanks hname rest ih =>
    rw [scanFrom_declaration hblanks hname, ih]
    rfl

/-- What the scan finds can be read. -/
theorem declares_of_scanFrom {inWord : Bool} {offset : Nat} {s : Text} {crates : List Text}
    (h : scanFrom keyword 0 inWord offset s = .ok crates) : Declares keyword inWord s crates := by
  induction inWord, s using scan_induction keyword generalizing offset crates with
  | done inWord hstart =>
    rw [scanFrom_done hstart] at h
    obtain rfl := Except.ok.inj h
    exact .done inWord
  | pass inWord c s hstart ih =>
    rw [scanFrom_pass hstart] at h
    exact .pass hstart (ih h)
  | declaration blanks name s hblanks hname ih =>
    obtain ⟨others, rfl, hrest⟩ := exists_of_scanFrom_declaration hblanks hname h
    exact .crate hblanks hname (ih hrest)
  | stuck s defect hread => simp [scanFrom_stuck hread] at h

/-- **The scan and the relation agree**, at every offset. -/
theorem scanFrom_eq_ok_iff (hk : keyword ≠ []) {inWord : Bool} {offset : Nat} {s : Text}
    {crates : List Text} :
    scanFrom keyword 0 inWord offset s = .ok crates ↔ Declares keyword inWord s crates :=
  ⟨declares_of_scanFrom, fun h => h.scanFrom_eq hk offset⟩

theorem declaredCrates_eq_ok_iff {policy : Policy} (hk : policy.declarationKeyword ≠ [])
    {text : Text} {crates : List Text} :
    declaredCrates policy text = .ok crates ↔
      Declares policy.declarationKeyword false text crates :=
  scanFrom_eq_ok_iff hk

/-- A text declares one list of crates at most. -/
theorem Declares.unique (hk : keyword ≠ []) {inWord : Bool} {s : Text} {crates crates' : List Text}
    (h : Declares keyword inWord s crates) (h' : Declares keyword inWord s crates') :
    crates = crates' := by
  have := (h.scanFrom_eq hk 0).symm.trans (h'.scanFrom_eq hk 0)
  simpa using this

/-- A keyword with its name at the start of a text is read. -/
theorem declares_crate_iff (hk : keyword ≠ []) {blanks name s : Text} {crates : List Text}
    (hblanks : ∀ c ∈ blanks, isBlank c = true) (hname : NameBefore s name) :
    Declares keyword false (keyword ++ (blanks ++ (name ++ s))) crates ↔
      ∃ rest, crates = name :: rest ∧ Declares keyword true s rest := by
  constructor
  · intro h
    generalize hu : keyword ++ (blanks ++ (name ++ s)) = u at h
    cases h with
    | done => simp [hk] at hu
    | pass hnot _ =>
      rcases hnot with hnot | hnot
      · simp at hnot
      · exact absurd ⟨_, hu⟩ hnot
    | @crate blanks' name' s' rest hblanks' hname' hrest =>
      have hread := readName_append hblanks hname
      rw [List.append_cancel_left hu, readName_append hblanks' hname', Except.ok.injEq,
        NameRead.mk.injEq] at hread
      obtain ⟨rfl, rfl⟩ := hread
      exact ⟨rest, rfl, hrest⟩
  · rintro ⟨rest, rfl, hrest⟩
    exact .crate hblanks hname hrest

/-! ### Separators -/

/-- A character that belongs neither to a word nor to the keyword. -/
structure Separates (keyword : Text) (sep : Char) : Prop where
  not_isWordChar : isWordChar sep = false
  not_mem : sep ∉ keyword

/-- A part without the separator in front of a text ends in front of the separator. -/
theorem exists_of_append_eq {sep : Char} {p r s t : Text} (hsep : sep ∉ p)
    (h : p ++ r = s ++ sep :: t) : ∃ r', s = p ++ r' ∧ r = r' ++ sep :: t := by
  rcases List.append_eq_append_iff.1 h with ⟨r', hs, hr⟩ | ⟨u, hp, hu⟩
  · exact ⟨r', hs, hr⟩
  · cases u with
    | nil => exact ⟨[], by simpa using hp.symm, by simpa using hu.symm⟩
    | cons d u =>
      obtain ⟨rfl, -⟩ := List.cons.inj hu
      simp [hp] at hsep

variable {sep : Char}

theorem Separates.prefix_append_iff (hsep : Separates keyword sep) (s t : Text) :
    keyword <+: s ++ sep :: t ↔ keyword <+: s := by
  constructor
  · rintro ⟨r, hr⟩
    obtain ⟨r', hs, -⟩ := exists_of_append_eq hsep.not_mem hr
    exact ⟨r', hs.symm⟩
  · exact fun h => h.trans (List.prefix_append s _)

theorem Separates.not_mem_name (hsep : Separates keyword sep) {rest name : Text}
    (h : NameBefore rest name) : sep ∉ name := by
  intro hmem
  have hword := h.isWordChar sep hmem
  rw [hsep.not_isWordChar] at hword
  exact Bool.false_ne_true hword

/-- A character outside of words that begins no keyword is passed over, and what follows is read as
if nothing stood in front of it. -/
theorem declares_cons_iff {inWord : Bool} {c : Char} {t : Text} {crates : List Text}
    (hc : isWordChar c = false) (hnot : ¬ keyword <+: c :: t) :
    Declares keyword inWord (c :: t) crates ↔ Declares keyword false t crates := by
  constructor
  · intro h
    generalize hu : c :: t = u at h
    cases h with
    | done => simp at hu
    | pass _ hrest =>
      obtain ⟨rfl, rfl⟩ := List.cons.inj hu
      rwa [hc] at hrest
    | crate => exact absurd ⟨_, hu.symm⟩ hnot
  · exact fun h => .pass (.inr hnot) (by rwa [hc])

theorem declares_separator_iff (hk : keyword ≠ []) (hsep : Separates keyword sep) {inWord : Bool}
    {t : Text} {crates : List Text} :
    Declares keyword inWord (sep :: t) crates ↔ Declares keyword false t crates :=
  declares_cons_iff hsep.not_isWordChar fun h => by
    simpa [hk] using (hsep.prefix_append_iff [] t).1 h

/-- A name that a separator ends at the latest is ended in the same way by another text that begins
with a separator. -/
theorem NameBefore.congr {name r t u : Text} {sep' : Char} (h : NameBefore (r ++ sep :: u) name)
    (hsep' : Oneshot.isWordChar sep' = false) : NameBefore (r ++ sep' :: t) name where
  ne_nil := h.ne_nil
  isWordChar := h.isWordChar
  ended := by
    cases r with
    | nil => exact ⟨sep', t, rfl, hsep'⟩
    | cons d ds =>
      obtain ⟨c, cs, hcs, hc⟩ := h.ended
      obtain ⟨rfl, -⟩ := List.cons.inj hcs
      exact ⟨d, ds ++ sep' :: t, rfl, hc⟩

/-- A text with a name in front of its end has the separator at the end behind the name. -/
theorem exists_of_eq_name {front name u s : Text} (hname : NameBefore u name)
    (h : s ++ [sep] = front ++ (name ++ u)) : ∃ r, s = front ++ (name ++ r) ∧ u = r ++ [sep] := by
  obtain ⟨r, c, rfl⟩ : ∃ r c, u = r ++ [c] := by
    obtain ⟨d, ds, hu, -⟩ := hname.ended
    exact (List.eq_nil_or_concat' u).resolve_left (by simp [hu])
  rw [← List.append_assoc, ← List.append_assoc] at h
  obtain ⟨rfl, hc⟩ := List.append_inj' h rfl
  obtain rfl : sep = c := by simpa using hc
  exact ⟨r, by rw [List.append_assoc], rfl⟩

/-- **Two parts that can be read on their own can be read together**, with any separator between
them. The first part may need one at its end. -/
theorem Declares.append (hk : keyword ≠ []) (hsep : Separates keyword sep) {sep' : Char}
    (hsep' : Separates keyword sep') {inWord : Bool} {s t : Text} {crates crates' : List Text}
    (h : Declares keyword inWord (s ++ [sep]) crates) (h' : Declares keyword false t crates') :
    Declares keyword inWord (s ++ sep' :: t) (crates ++ crates') := by
  generalize hu : s ++ [sep] = u at h
  induction h generalizing s with
  | done => simp at hu
  | @pass inWord c u crates hnot hrest ih =>
    cases s with
    | nil =>
      obtain ⟨rfl, rfl⟩ := List.cons.inj hu
      rw [Declares.unique hk hrest (.done _)]
      exact (declares_separator_iff hk hsep').2 h'
    | cons d s =>
      obtain ⟨rfl, rfl⟩ := List.cons.inj hu
      refine .pass (hnot.imp_right fun hnot hp => hnot ?_) (ih rfl)
      exact (hsep.prefix_append_iff (d :: s) []).2 ((hsep'.prefix_append_iff (d :: s) t).1 hp)
  | @crate blanks name u crates hblanks hname hrest ih =>
    rw [← List.append_assoc] at hu
    obtain ⟨r, rfl, rfl⟩ := exists_of_eq_name hname hu
    have hcrate : Declares keyword false (keyword ++ (blanks ++ (name ++ (r ++ sep' :: t))))
        (name :: (crates ++ crates')) :=
      .crate hblanks (hname.congr hsep'.not_isWordChar) (ih rfl)
    simpa only [List.append_assoc, List.cons_append] using hcrate

/-- What can be read can be read with a separator at its end. -/
theorem Declares.concat (hk : keyword ≠ []) (hsep : Separates keyword sep) {inWord : Bool}
    {s : Text} {crates : List Text} (h : Declares keyword inWord s crates) :
    Declares keyword inWord (s ++ [sep]) crates := by
  induction h with
  | done inWord => exact (declares_separator_iff hk hsep).2 (.done false)
  | @pass inWord c s crates hnot hrest ih =>
    exact .pass (hnot.imp_right fun hnot hp => hnot ((hsep.prefix_append_iff (c :: s) []).1 hp)) ih
  | @crate blanks name s crates hblanks hname hrest ih =>
    have hname' : NameBefore (s ++ [sep]) name := by
      obtain ⟨c, cs, rfl, hc⟩ := hname.ended
      exact ⟨hname.ne_nil, hname.isWordChar, c, cs ++ [sep], rfl, hc⟩
    simpa only [List.append_assoc] using Declares.crate hblanks hname' ih

/-- **What can be read can be read in parts**, at a separator that is no blank. -/
theorem Declares.split (hk : keyword ≠ []) (hsep : Separates keyword sep)
    (hblank : isBlank sep = false) {inWord : Bool} {s t : Text} {crates : List Text}
    (h : Declares keyword inWord (s ++ sep :: t) crates) :
    ∃ first second, crates = first ++ second ∧ Declares keyword inWord (s ++ [sep]) first ∧
      Declares keyword false t second := by
  generalize hu : s ++ sep :: t = u at h
  induction h generalizing s with
  | done => simp at hu
  | @pass inWord c u crates hnot hrest ih =>
    cases s with
    | nil =>
      obtain ⟨rfl, rfl⟩ := List.cons.inj hu
      refine ⟨[], crates, rfl, (declares_separator_iff hk hsep).2 (.done _), ?_⟩
      rwa [hsep.not_isWordChar] at hrest
    | cons d s =>
      obtain ⟨rfl, rfl⟩ := List.cons.inj hu
      obtain ⟨first, second, hcrates, hfirst, hsecond⟩ := ih rfl
      refine ⟨first, second, hcrates, .pass (hnot.imp_right fun hnot hp => hnot ?_) hfirst, hsecond⟩
      exact (hsep.prefix_append_iff (d :: s) t).2 ((hsep.prefix_append_iff (d :: s) []).1 hp)
  | @crate blanks name u crates hblanks hname hrest ih =>
    have hmem : sep ∉ blanks := fun hmem => by
      rw [hblanks sep hmem] at hblank
      exact absurd hblank (by simp)
    obtain ⟨s, rfl, hs⟩ := exists_of_append_eq hsep.not_mem hu.symm
    obtain ⟨s, rfl, hu'⟩ := exists_of_append_eq hmem hs
    obtain ⟨r, rfl, rfl⟩ := exists_of_append_eq (hsep.not_mem_name hname) hu'
    obtain ⟨first, second, rfl, hfirst, hsecond⟩ := ih rfl
    have hcrate : Declares keyword false (keyword ++ (blanks ++ (name ++ (r ++ [sep]))))
        (name :: first) :=
      .crate hblanks (hname.congr hsep.not_isWordChar) hfirst
    exact ⟨name :: first, second, rfl, by simpa only [List.append_assoc] using hcrate, hsecond⟩

/-- **Behind a part that can be read on its own, the rest is read on its own.** -/
theorem Declares.append_iff (hk : keyword ≠ []) (hsep : Separates keyword sep) {inWord : Bool}
    {s t : Text} {first crates : List Text} (h : Declares keyword inWord (s ++ [sep]) first) :
    Declares keyword inWord (s ++ sep :: t) crates ↔
      ∃ second, crates = first ++ second ∧ Declares keyword false t second := by
  constructor
  · generalize hu : s ++ [sep] = u at h
    intro h'
    induction h generalizing s crates with
    | done => simp at hu
    | @pass inWord c u first hnot hrest ih =>
      cases s with
      | nil =>
        obtain ⟨rfl, rfl⟩ := List.cons.inj hu
        rw [Declares.unique hk hrest (.done _)]
        exact ⟨crates, rfl, (declares_separator_iff hk hsep).1 h'⟩
      | cons d s =>
        obtain ⟨rfl, rfl⟩ := List.cons.inj hu
        generalize hv : d :: s ++ sep :: t = v at h'
        cases h' with
        | done => simp at hv
        | pass _ hrest' =>
          obtain ⟨rfl, rfl⟩ := List.cons.inj hv
          exact ih rfl hrest'
        | crate hblanks hname hrest' =>
          have hp := (hsep.prefix_append_iff (d :: s) t).1 ⟨_, hv.symm⟩
          exact absurd ((hsep.prefix_append_iff (d :: s) []).2 hp) (by simpa using hnot)
    | @crate blanks name u first hblanks hname hrest ih =>
      rw [← List.append_assoc] at hu
      obtain ⟨r, rfl, rfl⟩ := exists_of_eq_name hname hu
      have hname' : NameBefore (r ++ sep :: t) name := hname.congr hsep.not_isWordChar
      have hv : keyword ++ blanks ++ (name ++ r) ++ sep :: t
          = keyword ++ (blanks ++ (name ++ (r ++ sep :: t))) := by
        simp only [List.append_assoc]
      rw [hv, declares_crate_iff hk hblanks hname'] at h'
      obtain ⟨rest, rfl, hrest'⟩ := h'
      obtain ⟨second, rfl, hsecond⟩ := ih rfl hrest'
      exact ⟨second, rfl, hsecond⟩
  · rintro ⟨second, rfl, hsecond⟩
    exact h.append hk hsep hsep hsecond

end Snippet

end Oneshot
