import Mathlib.Logic.Function.Basic
import VCIssuer.Library.Text

/-!
# Replacing a file

The files of a directory, and the replacement of one of them through a sibling
that is written first and then takes its name.
-/

namespace VCIssuer.Library

abbrev Directory := String → Option Bytes

/-- How far a replacement gets before an operation fails or the process dies. -/
inductive Replacing where
  | refused
  | stopped (octets : Nat)
  | renamed
  deriving DecidableEq

namespace Directory

/-- `Path::file_stem`: the part before the last dot, or the whole name when nothing is there. -/
def fileStem (name : String) : String :=
  match (name.toList.reverse.dropWhile (· ≠ '.')).tail with
  | [] => name
  | stem => String.ofList stem.reverse

/-- `Path::with_extension`, on the name of a file. -/
def withExtension (name extension : String) : String :=
  fileStem name ++ "." ++ extension

variable (directory : Directory) (temporary target : String) (content : Bytes)

def write (name : String) : Directory :=
  Function.update directory name (some content)

def rename (source : String) : Directory :=
  Function.update (Function.update directory source none) target (directory source)

/-- Write the content to a sibling, which then takes the name of the target. -/
def replace : Replacing → Directory
  | .refused => directory
  | .stopped octets => directory.write (content.take octets) temporary
  | .renamed => (directory.write content temporary).rename target temporary

variable {directory temporary target content}

@[simp]
theorem write_same : directory.write content target target = some content :=
  Function.update_self ..

theorem write_other {name : String} (other : name ≠ target) :
    directory.write content target name = directory name :=
  Function.update_of_ne other ..

/-- A replacement that goes through puts the content in place, whatever the sibling is called. -/
theorem replace_renamed :
    directory.replace temporary target content .renamed target = some content := by
  rw [replace, rename, Function.update_self, write_same]

/-- A replacement that does not go through leaves the target alone, unless it is its own
sibling. -/
theorem replace_interrupted (apart : temporary ≠ target) {progress : Replacing}
    (interrupted : progress ≠ .renamed) :
    directory.replace temporary target content progress target = directory target := by
  cases progress with
  | refused => rfl
  | stopped octets => exact write_other apart.symm
  | renamed => exact absurd rfl interrupted

end Directory

end VCIssuer.Library
