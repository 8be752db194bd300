import Mathlib.Data.List.Forall2
import Oneshot.Proofs.Host.Paths
import Oneshot.Proofs.Snippet.Spans
import Oneshot.Toolchain.Compile

/-!
# Linking the Declared Crates

The names of the crates that a script declares come from its text, and they end up in arguments of
the compiler and in the names of files. Neither can be abused. Whatever the text and the keyword
are, what the scan takes for a name is a run of word characters (`Snippet.isCrateName_of_scan`), and
neither `=`, which ends a name in an argument, nor `/`, which would lead to another directory, nor a
dot is a word character.

A platform that names shared libraries puts something in front of the name and something behind it.
As long as neither of the two holds a `/`, which is so for every platform that is known
(`Platform.namesFiles_ofName`), the library of a crate lies right below the directory of the cached
libraries.

* `Snippet.IsCrateName`: what the name of a crate consists of.
* `Toolchain.LinkArgument`: the argument that links a crate, as it can be read without the model.
* `Toolchain.declared_linked`: each declared crate is linked by one such argument, in order, between
  arguments to which the crates make no difference.
-/

namespace Oneshot

/-! ### Names of crates -/

namespace Snippet

variable {keyword text name : Text} {crates : List Text}

/-- A name that can stand behind the keyword: it consists of word characters. -/
structure IsCrateName (name : Text) : Prop where
  ne_nil : name ≠ []
  chars : ∀ c ∈ name, isAlphanumeric c = true ∨ c = '_'

theorem Span.Declares.isCrateName {d : Span} (h : d.Declares keyword text) :
    IsCrateName (d.name text) where
  ne_nil := by
    have hne := h.name_ne_nil
    have hended := h.ended
    rw [Span.name, ← List.length_pos_iff, List.length_take, List.length_drop]
    omega
  chars c hc := by
    obtain ⟨i, hi⟩ := List.mem_iff_getElem?.1 hc
    have hlt : i < d.stop - d.first := by
      have := (List.getElem?_eq_some_iff.1 hi).1
      rw [Span.name, List.length_take] at this
      omega
    rw [Span.name, List.getElem?_take_of_lt hlt, List.getElem?_drop] at hi
    obtain ⟨c', hget, hword⟩ := h.nameSpan.isWordChar (d.first + i) (by omega) (by omega)
    obtain rfl : c = c' := Option.some.inj (hi.symm.trans hget)
    simpa [isWordChar] using hword

/-- **What the scan finds are names of crates**, for every keyword, also for the empty one. -/
theorem isCrateName_of_scan {policy : Policy} (h : declaredCrates policy text = .ok crates) :
    ∀ crate ∈ crates, IsCrateName crate := by
  have hdescribed : Describes policy.declarationKeyword text 0 (.ok crates) :=
    h ▸ describes_scanFrom [] text
  obtain ⟨spans, hcovers, rfl⟩ := hdescribed
  intro crate hcrate
  obtain ⟨d, hd, rfl⟩ := List.mem_map.1 hcrate
  exact (hcovers.declares d hd).isCrateName

/-- A character that is neither alphanumeric nor the low line is in no name. -/
theorem IsCrateName.not_mem (h : IsCrateName name) {c : Char} (hc : isWordChar c = false) :
    c ∉ name := fun hmem => by
  have hword : isWordChar c = true := by simpa [isWordChar] using h.chars c hmem
  rw [hc] at hword
  cases hword

end Snippet

/-! ### Names of libraries -/

namespace Platform

open Snippet (IsCrateName)

variable {p : Platform} {name : Text}

/-- What the platform puts around the name of a crate leads to no other directory. -/
structure NamesFiles (p : Platform) : Prop where
  start : '/' ∉ p.libraryStart
  extension : '/' ∉ p.libraryExtension

/-- Every platform that is known names files. -/
theorem namesFiles_ofName (system : Text) : (ofName system).NamesFiles := by
  rw [ofName]
  split_ifs
  all_goals exact ⟨by decide, by decide⟩

theorem NamesFiles.slash_not_mem (hp : p.NamesFiles) (h : IsCrateName name) :
    '/' ∉ p.libraryName name := by
  simp only [libraryName, List.mem_append, not_or]
  exact ⟨⟨hp.start, h.not_mem (by decide)⟩, hp.extension⟩

/-- The name of a library holds a character that is no dot. -/
theorem libraryName_ne_dots (p : Platform) (h : IsCrateName name) {n : ℕ} :
    p.libraryName name ≠ List.replicate n '.' := fun hdots => by
  obtain ⟨c, hc⟩ := List.exists_mem_of_ne_nil name h.ne_nil
  have hmem : c ∈ p.libraryName name := by simp [libraryName, hc]
  rw [hdots] at hmem
  obtain rfl := List.eq_of_mem_replicate hmem
  exact h.not_mem (by decide) hc

theorem NamesFiles.isName (hp : p.NamesFiles) (h : IsCrateName name) :
    Path.IsName (p.libraryName name) := by
  refine ⟨?_, hp.slash_not_mem h⟩
  have hempty : p.libraryName name ≠ [] := p.libraryName_ne_dots (n := 0) h
  have hdot : p.libraryName name ≠ ['.'] := p.libraryName_ne_dots (n := 1) h
  simp [Path.isKept, hempty, hdot]

end Platform

/-! ### Arguments -/

namespace Toolchain

open Snippet (IsCrateName)

variable {platform : Platform} {crate : Text}

/-- The argument that links a crate, beside the option that announces it. The name of the crate is
what stands in front of the first `=`, and behind it stands the path of a file right in the
directory of the cached libraries, which bears the name that the platform makes of the crate's. -/
structure LinkArgument (cache : Cache) (platform : Platform) (crate argument : Text) : Prop where
  isCrateName : IsCrateName crate
  name_eq : argument.takeWhile (· != '=') = crate
  library : ∃ library : Path, argument = crate ++ '=' :: library.text ∧
    library = cache.artifactsDir.below
      (platform.libraryStart ++ crate ++ platform.libraryExtension) ∧
    (cache.artifactsDir.Proper → Path.ofText library.text = library)
  file : '/' ∉ platform.libraryStart ++ crate ++ platform.libraryExtension ∧
    platform.libraryStart ++ crate ++ platform.libraryExtension ∉
      ["".toList, ".".toList, "..".toList]

theorem linkArgument (cache : Cache) (hplatform : platform.NamesFiles) (h : IsCrateName crate) :
    LinkArgument cache platform crate
      (crate ++ ['='] ++ (libraryOf cache platform crate).text) where
  isCrateName := h
  name_eq := by
    have hname : ∀ c ∈ crate, (c != '=') = true := fun c hc => by
      rw [bne_iff_ne]
      rintro rfl
      exact h.not_mem (by decide) hc
    rw [List.append_assoc, List.takeWhile_append_of_pos hname, List.singleton_append,
      List.takeWhile_cons_of_neg (by decide), List.append_nil]
  library := by
    have hisName := hplatform.isName h
    have hbelow : libraryOf cache platform crate
        = cache.artifactsDir.below (platform.libraryName crate) :=
      Path.child_eq_below _ hisName
    refine ⟨libraryOf cache platform crate, by simp, hbelow, fun hproper => ?_⟩
    rw [hbelow]
    exact (hproper.below hisName).ofText_text
  file := by
    refine ⟨hplatform.slash_not_mem h, ?_⟩
    have hdots := fun n => platform.libraryName_ne_dots (n := n) h
    simpa [Platform.libraryName] using And.intro (hdots 0) (And.intro (hdots 1) (hdots 2))

/-- **A script cannot inject arguments or leave the cache.** In the command of the compiler, the
crates that a text declares are linked behind the directory of the cached libraries, each by one
argument, in order and as often as they are declared. What follows is the same whatever is declared,
and it links nothing. -/
theorem declared_linked (cache : Cache) (settings : Settings) (platform : Platform)
    (artifact : Artifact) (hplatform : platform.NamesFiles) :
    ∃ back : Bool → List Text, (∀ inColor, (back inColor).head? ≠ some "--extern".toList) ∧
      ∀ policy text crates, Snippet.declaredCrates policy text = .ok crates →
        ∃ links, List.Forall₂ (LinkArgument cache platform) crates links ∧
          plannedCommand cache settings platform crates artifact = do
            let inColor ← wantsColor settings.output.compilerColor
            return [settings.toolchain.compiler]
              ++ settings.toolchain.codegenFlags.flatMap (fun flag => ["-C".toList, flag])
              ++ ["-L".toList, cache.artifactsDir.text]
              ++ links.flatMap (fun link => ["--extern".toList, link])
              ++ back inColor := by
  refine ⟨fun inColor => (if inColor then ["--color".toList, "always".toList] else [])
    ++ ["-o".toList, artifact.executable.text, artifact.source.text], ?_, ?_⟩
  · rintro (_ | _)
    all_goals simp +decide
  intro policy text crates hcrates
  have hnames := Snippet.isCrateName_of_scan hcrates
  refine ⟨crates.map fun crate => crate ++ ['='] ++ (libraryOf cache platform crate).text, ?_, ?_⟩
  · rw [List.forall₂_map_right_iff, List.forall₂_same]
    exact fun crate hcrate => linkArgument cache hplatform (hnames crate hcrate)
  · simp only [plannedCommand, compileCommand, linkArguments, List.flatMap_map, List.append_assoc]

/-- What looks like a path behind a name is no part of it, and a crate that is declared twice is
linked twice. -/
theorem declared_linked_twice :
    let cache := Cache.ofRoot (Path.ofText "/c") []
    let text : Text := "extern crate é=../x; extern crate é/y;"
    Platform.windows.NamesFiles ∧ ∃ crates, Snippet.declaredCrates .default text = .ok crates ∧
      ∃ links, List.Forall₂ (LinkArgument cache .windows) crates links ∧
        links = ["é=/c/dy-cache/é.dll".toList, "é=/c/dy-cache/é.dll".toList] := by
  intro cache text
  have hplatform : Platform.windows.NamesFiles := Platform.namesFiles_ofName "win32"
  have hcrates : Snippet.declaredCrates .default text = .ok ["é".toList, "é".toList] := by
    decide +kernel
  obtain ⟨_, -, hlinked⟩ := declared_linked cache .default .windows ⟨⟨[], []⟩, ⟨[], []⟩⟩ hplatform
  obtain ⟨links, hlinks, -⟩ := hlinked .default text _ hcrates
  refine ⟨hplatform, _, hcrates, links, hlinks, ?_⟩
  obtain _ | ⟨hfirst, _ | ⟨hsecond, _ | _⟩⟩ := hlinks
  obtain ⟨_, rfl, rfl, -⟩ := hfirst.library
  obtain ⟨_, rfl, rfl, -⟩ := hsecond.library
  decide +kernel

end Toolchain

end Oneshot
