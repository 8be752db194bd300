import Oneshot.Proofs.Snippet.Declaration

/-!
# Declarations of Joined Texts

A text that can be read to its end leaves nothing behind: no name is open there, and no part of a
keyword. So the scan of a longer text that begins with it comes to its end in the same way, with the
same crates. If a separator follows, then what stands behind the separator is read as a text of its
own, and an error there is the error of that text at a place further on.

A keyword without LF makes LF a separator, so that a snippet can be read line by line as long as no
declaration is torn.

* `scanFrom_behind`: the place where a scan begins shows in its error only.
* `scanFrom_nil_ne_ok`: a scan for the empty keyword never succeeds.
* `Declares.scanFrom_append`: the scan of a joined text.
* `declaredCrates_append_line`: the crates of two texts that are joined by LF.
-/

namespace Oneshot

/-- The same error in a text with `n` more characters in front. -/
def DeclarationError.behind (n : ℕ) (e : DeclarationError) : DeclarationError :=
  { e with offset := n + e.offset }

namespace Snippet

variable {keyword : Text}

/-- **The place where a scan begins** shows in its error only. -/
theorem scanFrom_behind (n skip : ℕ) (inWord : Bool) (offset : ℕ) (s : Text) :
    scanFrom keyword skip inWord (n + offset) s
      = (scanFrom keyword skip inWord offset s).mapError (·.behind n) := by
  fun_induction scanFrom keyword skip inWord offset s with
  | case1 skip inWord offset h => simp [scanFrom, h, Except.mapError, DeclarationError.behind]
  | case2 skip inWord offset h => simp [scanFrom, h, Except.mapError]
  | case3 skip inWord offset c cs ih => rw [scanFrom, ← ih, Nat.add_assoc]
  | case4 inWord offset c cs h defect hread =>
    rw [scanFrom, if_pos h, hread]
    rfl
  | case5 inWord offset c cs h read hread ih =>
    rw [scanFrom, if_pos h, hread]
    simp only [Nat.add_assoc, ih]
    generalize scanFrom keyword _ _ _ _ = result
    cases result <;> rfl
  | case6 inWord offset c cs h ih => rw [scanFrom, if_neg h, ← ih, Nat.add_assoc]

/-- **A scan for the empty keyword never succeeds**: the keyword begins at every place outside of
words, and the last of them has no name behind it. -/
theorem scanFrom_nil_ne_ok (offset : ℕ) (s : Text) (crates : List Text) :
    scanFrom [] 0 false offset s ≠ .ok crates := by
  -- behind a name the scan is inside of a word, but the next character ends it
  suffices h : ∀ inWord, (inWord = false ∨ ∃ c cs, s = c :: cs ∧ isWordChar c = false) →
      ∀ offset crates, scanFrom [] 0 inWord offset s ≠ .ok crates from
    h false (.inl rfl) offset crates
  intro inWord
  induction inWord, s using scan_induction [] with
  | done inWord hstart =>
    obtain rfl : inWord = true := by simpa using hstart
    simp
  | pass inWord c s hstart ih =>
    obtain rfl : inWord = true := by simpa using hstart
    intro hends offset crates
    obtain ⟨d, ds, hd, hword⟩ := hends.resolve_left (by simp)
    obtain ⟨rfl, -⟩ := List.cons.inj hd
    rw [scanFrom_pass hstart]
    exact ih (.inl hword) _ _
  | declaration blanks name s hblanks hname ih =>
    intro _ offset crates h
    obtain ⟨others, -, hrest⟩ := exists_of_scanFrom_declaration hblanks hname h
    exact ih (.inr hname.ended) _ _ hrest
  | stuck s defect hread =>
    intro _ offset crates h
    rw [scanFrom_stuck hread] at h
    simp at h

/-- A text that declares crates has a keyword to declare them with, and none of its declarations is
broken. -/
theorem declares_of_declaredCrates {policy : Policy} {text : Text} {crates : List Text}
    (h : declaredCrates policy text = .ok crates) :
    policy.declarationKeyword ≠ [] ∧ Declares policy.declarationKeyword false text crates := by
  refine ⟨fun hk => ?_, declares_of_scanFrom h⟩
  rw [declaredCrates, hk] at h
  exact scanFrom_nil_ne_ok 0 text crates h

/-- **The scan of a joined text.** Behind a first part that can be read to its end, and a separator,
the scan goes on as if it began there. -/
theorem Declares.scanFrom_append {sep : Char} (hk : keyword ≠ []) (hsep : Separates keyword sep)
    {inWord : Bool} {s : Text} {crates : List Text} (h : Declares keyword inWord s crates)
    (offset : ℕ) (t : Text) :
    scanFrom keyword 0 inWord offset (s ++ sep :: t)
      = (scanFrom keyword 0 false (offset + s.length + 1) t).map (crates ++ ·) := by
  induction h generalizing offset with
  | done inWord =>
    have hnot : ¬ keyword <+: sep :: t := fun h => by
      simpa [hk] using (hsep.prefix_append_iff [] t).1 h
    rw [List.nil_append, scanFrom_pass (.inr hnot), hsep.not_isWordChar, List.length_nil,
      Nat.add_zero]
    generalize scanFrom keyword _ _ _ t = result
    cases result <;> rfl
  | @pass inWord c s crates hstart rest ih =>
    have hstart' : inWord = true ∨ ¬ keyword <+: c :: (s ++ sep :: t) :=
      hstart.imp_right fun hnot hp => hnot ((hsep.prefix_append_iff (c :: s) t).1 hp)
    rw [List.cons_append, scanFrom_pass hstart', ih, List.length_cons]
    congr 2
    omega
  | @crate blanks name s crates hblanks hname rest ih =>
    have hname' : NameBefore (s ++ sep :: t) name := by
      obtain ⟨c, cs, rfl, hc⟩ := hname.ended
      exact ⟨hname.ne_nil, hname.isWordChar, c, cs ++ sep :: t, rfl, hc⟩
    have htext : keyword ++ (blanks ++ (name ++ s)) ++ sep :: t
        = keyword ++ (blanks ++ (name ++ (s ++ sep :: t))) := by
      simp only [List.append_assoc]
    rw [htext, scanFrom_declaration hblanks hname', ih]
    simp only [List.length_append, ← Nat.add_assoc]
    generalize scanFrom keyword _ _ _ t = result
    cases result <;> rfl

/-- **The crates of joined texts.** Let the keyword hold no LF, and let the first text declare its
crates. Then the text that is joined of it, an LF and a second text declares these crates and behind
them those of the second text. If a declaration of the second text cannot be read, then this is the
error of the joined text as well, further on by the length of the first text and the LF. -/
theorem declaredCrates_append_line {policy : Policy} {first second : Text} {crates : List Text}
    (hk : '\n' ∉ policy.declarationKeyword) (h : declaredCrates policy first = .ok crates) :
    declaredCrates policy (first ++ '\n' :: second)
      = match declaredCrates policy second with
        | .ok others => .ok (crates ++ others)
        | .error e => .error (e.behind (first.length + 1)) := by
  obtain ⟨hne, hdeclares⟩ := declares_of_declaredCrates h
  have hsep : Separates policy.declarationKeyword '\n' := ⟨by decide, hk⟩
  have hplace : 0 + first.length + 1 = first.length + 1 + 0 := by omega
  rw [declaredCrates, hdeclares.scanFrom_append hne hsep, hplace, scanFrom_behind, ← declaredCrates]
  cases declaredCrates policy second <;> rfl

/-- A declaration without a name in the second line is told with its place in both. -/
theorem declaredCrates_append_line_unnamed :
    let policy := Policy.default
    '\n' ∉ policy.declarationKeyword ∧
      declaredCrates policy "extern crate a; extern\tcrate b;" = .ok ["a"] ∧
      declaredCrates policy "extern crate c;extern crate ;"
        = .error ⟨"extern crate", 15, .noName⟩ ∧
      declaredCrates policy ("extern crate a; extern\tcrate b;".toList
          ++ '\n' :: "extern crate c;extern crate ;".toList)
        = .error ⟨"extern crate", 47, .noName⟩ := by
  intro policy
  have hk : '\n' ∉ policy.declarationKeyword := by decide
  have hfirst : declaredCrates policy "extern crate a; extern\tcrate b;" = .ok ["a"] := by
    decide +kernel
  have hsecond : declaredCrates policy "extern crate c;extern crate ;"
      = .error ⟨"extern crate", 15, .noName⟩ := by
    decide +kernel
  refine ⟨hk, hfirst, hsecond, ?_⟩
  rw [declaredCrates_append_line hk hfirst, hsecond]
  rfl

end Snippet

end Oneshot
