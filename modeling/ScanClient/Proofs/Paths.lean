import ScanClient.Files.Selection

/-!
# Names of files

Any bytes can be the name of a file, as long as they are not too many and there is neither a slash
nor a zero among them. Only the names of one dot and of two are taken.
-/

namespace ScanClient.Files

/-- What a file can be called. -/
structure IsName (name : Name) : Prop where
  ne_nil : name ≠ []
  noSlash : slash ∉ name
  noZero : 0 ∉ name
  ne_dot : name ≠ dot
  ne_dotDot : name ≠ dotDot
  short : name.length ≤ maxNameLength

instance (name : Name) : Decidable (IsName name) :=
  decidable_of_iff
    (name ≠ [] ∧ slash ∉ name ∧ 0 ∉ name ∧ name ≠ dot ∧ name ≠ dotDot ∧
      name.length ≤ maxNameLength)
    ⟨fun ⟨h₁, h₂, h₃, h₄, h₅, h₆⟩ => ⟨h₁, h₂, h₃, h₄, h₅, h₆⟩,
      fun ⟨h₁, h₂, h₃, h₄, h₅, h₆⟩ => ⟨h₁, h₂, h₃, h₄, h₅, h₆⟩⟩

namespace IsName

variable {name : Name} (isName : IsName name)

include isName

theorem splitPath_eq : splitPath name = [name] := List.splitOn_eq_singleton isName.noSlash

/-- A path of one name ends with that name. -/
theorem lastName_eq : ScanFile.lastName name = some name := by
  simp [ScanFile.lastName, isName.splitPath_eq, isName.ne_nil, isName.ne_dot]

/-- A folder with one file in it, to which its name leads. -/
theorem find_alone {contents : Blob} (hsize : contents.size ≤ maxLength) :
    (Tree.mk [([name], .file contents)] []).find name = .ok (.file contents) := by
  let tree : Tree := ⟨[([name], .file contents)], []⟩
  have hnode : tree.node [name] = some (.file contents) := by
    show List.lookup [name] [([name], Node.file contents)] = _
    exact List.lookup_cons_self
  -- the walk recurses on a measure, so its steps are taken apart one by one
  have hlast : tree.walk maxLinks [name] [] = .ok ([name], some (.file contents)) := by
    rw [Tree.walk, hnode]
  have hwalk : tree.walk maxLinks [] [name] = .ok ([name], some (.file contents)) := by
    rw [Tree.walk, show tree.node [] = some .folder from rfl]
    have hdots : ¬(name.isEmpty = true ∨ name = dot) := by
      simp [isName.ne_nil, isName.ne_dot]
    simp only [hdots, isName.ne_dotDot, Nat.not_lt.mpr isName.short, if_false, List.nil_append,
      hnode]
    exact hlast
  have hstart : Tree.start name tree.workingFolder = [] := by
    rw [Tree.start]
    split <;> rfl
  have hfollow : tree.follow name = .ok ([name], some (.file contents)) := by
    have hzero : name.contains 0 = false := by simp [isName.noZero]
    have hlength : ¬maxPathLength < name.length :=
      Nat.not_lt.mpr (Nat.le_trans isName.short (by decide))
    rw [Tree.follow, hzero, if_neg Bool.false_ne_true, if_neg (by simp [isName.ne_nil]),
      if_neg hlength, hstart, isName.splitPath_eq]
    exact hwalk
  show tree.find name = _
  rw [Tree.find, hfollow]
  exact if_neg (Nat.not_lt.mpr hsize)

/-- A file that is alone in a folder can be selected. -/
theorem select_alone {contents : Blob} (hsize : contents.size ≤ maxLength) :
    ScanFile.select (Tree.mk [([name], .file contents)] []) name =
      .ok ⟨Text.Utf8.decodeLossy name, contents.size, .onDisk name⟩ := by
  rw [ScanFile.select, isName.find_alone hsize, isName.lastName_eq]

end IsName

end ScanClient.Files
