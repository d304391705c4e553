import Patchbay.Cli.FileSystem
import Patchbay.Proofs.Results

/-!
# Files that are written

A file system is known by what stands at its paths.  Putting a file at a path changes what stands
there and nothing else.  Creating a file puts an empty one, at a path that is no directory and so
not on the way to the working directory (`create_cases`), and what is appended afterwards is all
that the file holds.
-/

namespace Patchbay.FileSystem

variable {fs : FileSystem} {path target : EntryPath}

/-! ## Entries -/

/-- The entries with the one at a path replaced. -/
def replaceEntry (target : EntryPath) (node : FileNode) (entries : List (EntryPath × FileNode)) :
    List (EntryPath × FileNode) :=
  entries.map fun e => if e.1 == target then (target, node) else e

theorem lookup_replaceEntry_self {node : FileNode} {entries : List (EntryPath × FileNode)}
    (h : entries.any (fun entry => entry.1 == target) = true) :
    (replaceEntry target node entries).lookup target = some node := by
  induction entries with
  | nil => cases h
  | cons entry entries ih =>
      rw [replaceEntry, List.map_cons, ← replaceEntry]
      by_cases hentry : entry.1 = target
      · rw [if_pos (beq_iff_eq.2 hentry), List.lookup_cons_self]
      · have hmore : entries.any (fun entry => entry.1 == target) = true := by
          simpa [hentry] using h
        rw [if_neg (by simpa using hentry), List.lookup_cons, beq_false_of_ne (Ne.symm hentry)]
        exact ih hmore

theorem lookup_replaceEntry_of_ne (hpath : path ≠ target) (node : FileNode)
    (entries : List (EntryPath × FileNode)) :
    (replaceEntry target node entries).lookup path = entries.lookup path := by
  induction entries with
  | nil => rfl
  | cons entry entries ih =>
      rw [replaceEntry, List.map_cons, ← replaceEntry, List.lookup_cons, List.lookup_cons, ih]
      by_cases hentry : entry.1 = target
      · rw [if_pos (beq_iff_eq.2 hentry), hentry]
        simp only [beq_false_of_ne hpath]
      · rw [if_neg (by simpa using hentry)]

/-! ## Putting a file -/

theorem put_eq (fs : FileSystem) (target : EntryPath) (contents : Bytes) :
    fs.put target contents =
      { fs with entries :=
          if fs.entries.any (fun entry => entry.1 == target) then
            replaceEntry target (.file contents) fs.entries
          else fs.entries ++ [(target, .file contents)] } := by
  rw [put]
  split <;> rfl

@[simp] theorem workingDirectory_put (fs : FileSystem) (target : EntryPath) (contents : Bytes) :
    (fs.put target contents).workingDirectory = fs.workingDirectory := by
  rw [put_eq]

theorem node?_put_of_ne (hpath : path ≠ target) (contents : Bytes) :
    (fs.put target contents).node? path = fs.node? path := by
  rw [node?, node?, workingDirectory_put]
  congr 1
  rw [put_eq]
  split
  · exact lookup_replaceEntry_of_ne hpath _ _
  · simp [List.lookup_append, List.lookup_cons, beq_false_of_ne hpath]

/-- There is always a directory on the way to the working directory. -/
theorem node?_put_self (htarget : target.isPrefixOf fs.workingDirectory = false)
    (contents : Bytes) : (fs.put target contents).node? target = some (.file contents) := by
  rw [node?, workingDirectory_put, htarget, put_eq]
  simp only [Bool.false_eq_true, if_false]
  split
  · next hentry => exact lookup_replaceEntry_self hentry
  · next hentry =>
      have hnone : fs.entries.lookup target = none := by
        rw [List.lookup_eq_none_iff]
        intro entry hmem
        simp only [List.any_eq_true, not_exists, not_and, beq_iff_eq] at hentry
        simpa using Ne.symm (hentry entry hmem)
      rw [List.lookup_append, hnone, Option.none_or, List.lookup_cons_self]

theorem not_isPrefixOf_of_node? (h : fs.node? target ≠ some .directory) :
    target.isPrefixOf fs.workingDirectory = false := by
  rw [node?] at h
  cases hway : target.isPrefixOf fs.workingDirectory with
  | false => rfl
  | true => simp [hway] at h

/-! ## Writing a file -/

/-- Two file systems that differ at one path only. -/
structure SameBut (target : EntryPath) (fs fs' : FileSystem) : Prop where
  workingDirectory : fs'.workingDirectory = fs.workingDirectory
  elsewhere : ∀ path, path ≠ target → fs'.node? path = fs.node? path

theorem sameBut_put (fs : FileSystem) (target : EntryPath) (contents : Bytes) :
    SameBut target fs (fs.put target contents) :=
  ⟨workingDirectory_put fs target contents, fun _ hpath => node?_put_of_ne hpath contents⟩

theorem SameBut.trans {fs' fs'' : FileSystem} (h : SameBut target fs fs')
    (h' : SameBut target fs' fs'') : SameBut target fs fs'' :=
  ⟨h'.workingDirectory.trans h.workingDirectory,
    fun path hpath => (h'.elsewhere path hpath).trans (h.elsewhere path hpath)⟩

theorem append_file {contents : Bytes} (h : fs.node? target = some (.file contents))
    (bytes : Bytes) :
    (fs.append target bytes).node? target = some (.file (contents ++ bytes)) ∧
      SameBut target fs (fs.append target bytes) := by
  have happend : fs.append target bytes = fs.put target (contents ++ bytes) := by
    rw [append, h]
  have htarget : target.isPrefixOf fs.workingDirectory = false :=
    not_isPrefixOf_of_node? (by simp [h])
  rw [happend]
  exact ⟨node?_put_self htarget _, sameBut_put fs target _⟩

/-- A path at which a file is created names a stream, or else there is an empty file afterwards. -/
theorem create_cases {output : String} {created : FileSystem}
    (h : fs.create output = .ok (target, created)) :
    (∃ kind, fs.node? target = some (.stream kind)) ∨
      created.node? target = some (.file []) ∧ SameBut target fs created := by
  rw [create] at h
  obtain ⟨here, -, h⟩ := of_bind_eq_ok h
  dsimp only at h
  split at h
  · cases h
  · obtain ⟨entry, -, h⟩ := of_bind_eq_ok h
    split at h
    · cases h
    · next kind hnode =>
        cases h
        exact .inl ⟨kind, hnode⟩
    · next hdirectory _ =>
        cases h
        have htarget : target.isPrefixOf fs.workingDirectory = false :=
          not_isPrefixOf_of_node? hdirectory
        exact .inr ⟨node?_put_self htarget [], sameBut_put fs target []⟩

end Patchbay.FileSystem
