import Oneshot.Text.Basic

/-!
# Platforms

How a platform names shared libraries and executables, and where its loader looks for libraries.
The separator of search paths is that of the system on which the runner itself runs.
-/

namespace Oneshot

/-- The conventions of a platform. -/
structure Platform where
  /-- The variable that holds the search path of the loader. -/
  libraryVariable : Text
  /-- The directory of the toolchain that holds its runtime libraries, where the compiler cannot
  name that directory itself. -/
  runtimeSubdirectory : Option Text
  /-- What the name of a shared library begins with. -/
  libraryStart : Text
  /-- What the name of a shared library ends with. -/
  libraryExtension : Text
  /-- What the name of an executable ends with. -/
  executableExtension : Text
  /-- What stands between two entries of a search path. -/
  pathSeparator : Char
deriving DecidableEq, Repr

namespace Platform

/-- Linux, where a library is a shared object. -/
def linux : Platform where
  libraryVariable := "LD_LIBRARY_PATH"
  runtimeSubdirectory := none
  libraryStart := "lib"
  libraryExtension := ".so"
  executableExtension := []
  pathSeparator := ':'

/-- The system whose libraries are dynamic libraries with a search path of their own. -/
def macos : Platform where
  libraryVariable := "DYLD_LIBRARY_PATH"
  runtimeSubdirectory := none
  libraryStart := "lib"
  libraryExtension := ".dylib"
  executableExtension := []
  pathSeparator := ':'

/-- Windows, where libraries are found along the search path of programs. -/
def windows : Platform where
  libraryVariable := "PATH"
  runtimeSubdirectory := some "bin"
  libraryStart := []
  libraryExtension := ".dll"
  executableExtension := ".exe"
  pathSeparator := ';'

/-- The platform with a name; any name that no other platform bears is Linux. -/
def ofName (name : Text) : Platform :=
  if "win".toList.isPrefixOf name then windows
  else if name = "darwin".toList then macos
  else linux

/-- The name of the shared library of a crate. -/
def libraryName (p : Platform) (crate : Text) : Text :=
  p.libraryStart ++ crate ++ p.libraryExtension

end Platform

end Oneshot
