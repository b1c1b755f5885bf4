/-
Finished files stored on a disk without directories.

* `Files.Disk`: the bytes under each place, a map from places to texts;
* `Files.destination`: where a path leads;
* `Files.keep`: a disk after a finished file has been stored;
* `Files.store_eq`: storing a file on a disk does not fail, and changes the place of the file only;
* `Files.foldl_keep_of_append`: after several files, a place holds the last one that was stored
  there;
* `Files.foldl_keep_of_mem`: if no two files share a place, the place of each holds it.
-/
import OpenApiTypes.Files.Store
import OpenApiTypes.Files.Tree
import Mathlib.Tactic.Common
import Mathlib.Logic.Function.Basic

namespace OpenApiTypes.Files

open OpenApiTypes.Output (Artifact)

/-! ### Places -/

/-- The bytes under each place. Directories are there when they are needed. -/
abbrev Disk := Place → Option (List UInt8)

/-- Where a path leads. Different paths may lead to one place. -/
def destination (path : String) : Place := (moves path).foldl Step.target (Tree.start path)

instance : FileSystem (StateM Disk) where
  holds path := fun disk => ((disk (destination path)).isSome, disk)
  read path := ExceptT.mk fun disk => match disk (destination path) with
    | some bytes => (.ok bytes, disk)
    | none => (.error .missing, disk)
  makeDirectories _ := pure ()
  write path bytes := modify fun disk => Function.update disk (destination path) (some bytes)
  remove path := ExceptT.mk fun disk => match disk (destination path) with
    | some _ => (.ok (), Function.update disk (destination path) none)
    | none => (.error .missing, disk)

/-- A file that is to be removed is gone afterwards, whether it was there or not. -/
lemma removeIfPresent_eq (path : String) (disk : Disk) :
    ((removeIfPresent path : ExceptT FileError (StateM Disk) Unit).run.run disk).run
      = (.ok (), Function.update disk (destination path) none) := by
  show ((if (disk (destination path)).isSome then FileSystem.remove path else pure () :
    ExceptT FileError (StateM Disk) Unit).run.run disk).run = _
  have hremove : ((FileSystem.remove path : ExceptT FileError (StateM Disk) Unit).run.run disk).run
      = match disk (destination path) with
        | some _ => (.ok (), Function.update disk (destination path) none)
        | none => (.error .missing, disk) := rfl
  cases h : disk (destination path) with
  | none =>
    have hkept : Function.update disk (destination path) none = disk := by
      rw [← h, Function.update_eq_self]
    rw [hkept]
    rfl
  | some bytes =>
    rw [h] at hremove
    exact hremove

/-! ### One file -/

/-- The bytes of a finished file, unless it is to be removed. -/
def bytes? (artifact : Artifact) : Option (List UInt8) :=
  artifact.content.map fun text => Utf8.encode text.toList

/-- The place of a finished file below a directory. -/
def placeOf (directory : String) (artifact : Artifact) : Place :=
  destination (join directory artifact.path)

/-- A disk after a finished file has been stored. -/
def keep (directory : String) (disk : Disk) (artifact : Artifact) : Disk :=
  Function.update disk (placeOf directory artifact) (bytes? artifact)

/-- Storing a file on a disk does not fail, and changes the place of the file only. -/
lemma store_eq (directory : String) (artifact : Artifact) (disk : Disk) :
    ((store directory artifact : ExceptT StoreError (StateM Disk) Unit).run.run disk).run
      = (.ok (), keep directory disk artifact) := by
  obtain ⟨path, exported, content⟩ := artifact
  cases content with
  | some text => rfl
  | none =>
    show ((ExceptT.adapt _ (removeIfPresent (join directory path)) :
      ExceptT StoreError (StateM Disk) Unit).run.run disk).run = _
    rw [ExceptT.run_adapt, StateT.run_map, Id.run_map, removeIfPresent_eq]
    rfl

/-! ### Several files -/

variable {directory : String} {artifacts : List Artifact} {disk : Disk} {place : Place}

/-- A place where no file is stored stays as it is. -/
lemma foldl_keep_of_forall_ne (h : ∀ a ∈ artifacts, placeOf directory a ≠ place) :
    artifacts.foldl (keep directory) disk place = disk place := by
  induction artifacts generalizing disk with
  | nil => rfl
  | cons a rest ih =>
    obtain ⟨ha, hrest⟩ := List.forall_mem_cons.mp h
    rw [List.foldl_cons, ih hrest, keep, Function.update_of_ne (Ne.symm ha)]

/-- A place holds the last file that was stored there. -/
lemma foldl_keep_of_append {before after : List Artifact} {a : Artifact}
    (ha : placeOf directory a = place) (h : ∀ b ∈ after, placeOf directory b ≠ place) :
    (before ++ a :: after).foldl (keep directory) disk place = bytes? a := by
  rw [List.foldl_append, List.foldl_cons, foldl_keep_of_forall_ne h, keep, ha,
    Function.update_self]

/-- If no two files share a place, the place of each holds it. -/
lemma foldl_keep_of_mem (hdistinct : (artifacts.map (placeOf directory)).Nodup) {a : Artifact}
    (ha : a ∈ artifacts) :
    artifacts.foldl (keep directory) disk (placeOf directory a) = bytes? a := by
  obtain ⟨before, after, rfl⟩ := List.append_of_mem ha
  refine foldl_keep_of_append rfl fun b hb heq => ?_
  rw [List.map_append, List.map_cons, List.nodup_append] at hdistinct
  obtain ⟨-, hrest, -⟩ := hdistinct
  exact (List.nodup_cons.mp hrest).1 (heq ▸ List.mem_map_of_mem hb)

end OpenApiTypes.Files
