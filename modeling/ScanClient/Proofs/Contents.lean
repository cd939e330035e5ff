import ScanClient.Proofs.Paths

/-!
# Reading a selected file

A file on disk is read one byte further than is allowed, and no further. That is enough to tell
whether it was read to its end, so it is read as if its contents had been in memory all along: whole,
or not at all.
-/

namespace ScanClient

namespace Files

/-- What a path leads to is no longer than a file can be. -/
theorem Tree.size_of_find {tree : Tree} {path : List UInt8} {node : Node}
    (h : tree.find path = .ok node) : node.size ≤ maxLength := by
  unfold find at h
  split at h
  · cases h
  · split at h
    · cases h
    · next hle =>
      cases h
      exact Nat.le_of_not_lt hle
  · cases h

/-- Nor is a file that was selected. -/
theorem size_of_select {tree : Tree} {path : List UInt8} {file : ScanFile}
    (h : ScanFile.select tree path = .ok file) : file.size ≤ maxLength := by
  unfold ScanFile.select at h
  split at h
  · cases h
  · next contents hfind =>
    split at h
    · cases h
      exact Tree.size_of_find hfind
    · cases h
  · cases h

theorem Tree.sizeOr_of_find {tree : Tree} {path : List UInt8} {node : Node}
    (h : tree.find path = .ok node) (other : Nat) : tree.sizeOr path other = node.size := by
  rw [sizeOr, h]

end Files

namespace ScanFile

open Files

/-! ## How far a file is read -/

theorem readLimit_of_lt {max : Nat} (h : max < maxUInt64) : readLimit max = max + 1 :=
  Nat.min_eq_left h

/-- Numbers go further than lengths. -/
theorem maxLength_lt : maxLength < maxUInt64 := by decide

/-- The limit is beyond what is allowed wherever there is a file of such a length. -/
theorem lt_readLimit {max : Nat} (h : max < maxLength) : max < readLimit max := by
  rw [readLimit_of_lt (Nat.lt_trans h maxLength_lt)]
  exact Nat.lt_succ_self max

/-- A file that is not too large is read to its end. -/
theorem take_readLimit {max : Nat} {stored : Blob} (hsize : stored.size ≤ maxLength)
    (hle : stored.size ≤ max) : stored.take (readLimit max) = stored := by
  apply Blob.take_of_size_le
  have hsucc : stored.size ≤ max + 1 := Nat.le_succ_of_le hle
  have hnumber : stored.size ≤ maxUInt64 := Nat.le_of_lt (Nat.lt_of_le_of_lt hsize maxLength_lt)
  exact Nat.le_min.mpr ⟨hsucc, hnumber⟩

/-- Of one that is too large more is read than is allowed. -/
theorem lt_size_take {max : Nat} {stored : Blob} (hsize : stored.size ≤ maxLength)
    (hlt : max < stored.size) : max < (stored.take (readLimit max)).size := by
  rw [Blob.size_take]
  exact Nat.lt_min.mpr ⟨lt_readLimit (Nat.lt_of_lt_of_le hlt hsize), hlt⟩

/-! ## What reading gives -/

variable {file : ScanFile} {tree : Tree} {path : List UInt8}

theorem read_onDisk_error (hpath : file.contents = .onDisk path) {fault : FileFault}
    (hfind : tree.find path = .error fault) (max : Nat) :
    file.read tree max = .error (.file fault) := by
  simp only [read, hpath, hfind]
  rfl

theorem read_of_find (hpath : file.contents = .onDisk path) {node : Node}
    (hfind : tree.find path = .ok node) (max : Nat) :
    file.read tree max =
      match node.readUpTo (readLimit max) with
      | .error fault => .error (.file fault)
      | .ok start =>
        if max < start.size then .error (.rejected (.tooLarge node.size max)) else .ok start := by
  simp only [read, hpath, hfind, Tree.sizeOr_of_find hfind]
  rfl

/-- What comes of the node at the end of a path. -/
theorem read_onDisk (hpath : file.contents = .onDisk path) {node : Node}
    (hfind : tree.find path = .ok node) (max : Nat) :
    file.read tree max =
      match node with
      | .folder => .error (.file .isADirectory)
      | .file stored => checkSize max stored
      | .device true =>
        if readLimit max ≤ maxLength then .error (.rejected (.tooLarge 0 max))
        else .error (.file (.other "out of memory"))
      | _ => .ok (.bytes []) := by
  rw [read_of_find hpath hfind]
  cases node with
  | folder => rfl
  | link target => rfl
  | file stored =>
    have hsize : stored.size ≤ maxLength := Tree.size_of_find hfind
    show (if max < (stored.take (readLimit max)).size then _ else _) = checkSize max stored
    rw [checkSize]
    by_cases hlt : max < stored.size
    · rw [if_pos (lt_size_take hsize hlt), if_pos hlt]
      rfl
    · rw [take_readLimit hsize (Nat.le_of_not_lt hlt), if_neg hlt, if_neg hlt]
  | device endless =>
    cases endless with
    | false => rfl
    | true =>
      by_cases hroom : readLimit max ≤ maxLength
      · -- there is room for more than is allowed, so more has been read
        have hlt : max < readLimit max := by
          unfold readLimit at hroom ⊢
          have := maxLength_lt
          omega
        simp only [Node.readUpTo, if_pos hroom, Blob.size]
        exact if_pos hlt
      · simp only [Node.readUpTo, if_neg hroom]

/-! ## The main result -/

/-- Whatever the size of a file was when it was selected: it is read as it is now, to the last byte if
it is not larger than allowed, and not at all if it is, and then its present size is told. The bytes
are those that a file in memory would have given. A path that leads nowhere gives none. -/
theorem read_all_or_nothing (hpath : file.contents = .onDisk path) (tree : Tree) (max : Nat) :
    (∀ stored, tree.find path = .ok (.file stored) →
      file.read tree max =
        (if stored.size ≤ max then .ok stored
          else .error (.rejected (.tooLarge stored.size max))) ∧
      ∀ (name : String) (given : Blob) (elsewhere : Tree), given.toList = stored.toList →
        (file.read tree max).map Blob.toList =
          ((ofBlob name given).read elsewhere max).map Blob.toList) ∧
    ∀ fault, tree.find path = .error fault →
      file.read tree max = .error (.file fault) ∧ (ScanError.file fault).kind = .io := by
  refine ⟨fun stored hfind => ?_, fun fault hfind => ⟨read_onDisk_error hpath hfind max, rfl⟩⟩
  have hread : file.read tree max = checkSize max stored := read_onDisk hpath hfind max
  rw [hread, checkSize]
  refine ⟨?_, fun name given elsewhere hsame => ?_⟩
  · by_cases hlt : max < stored.size
    · rw [if_pos hlt, if_neg (Nat.not_le.mpr hlt)]
    · rw [if_neg hlt, if_pos (Nat.le_of_not_lt hlt)]
  · have hsize : given.size = stored.size := by
      rw [← Blob.length_toList, hsame, Blob.length_toList]
    show _ = (checkSize max given).map Blob.toList
    rw [checkSize, hsize]
    by_cases hlt : max < stored.size
    · rw [if_pos hlt, if_pos hlt]
    · rw [if_neg hlt, if_neg hlt]
      exact congrArg Except.ok hsame.symm

/-- A file that was selected when it had two bytes, and one more than allowed when it is read. -/
theorem grownFile_read :
    let file : ScanFile := ⟨"a.jar", 2, .onDisk (Text.Utf8.encodeText "a.jar")⟩
    let tree : Tree := ⟨[([Text.Utf8.encodeText "a.jar"], .file (.zeros 5))], []⟩
    file.read tree 4 = .error (.rejected (.tooLarge 5 4)) ∧
      file.read tree 5 = .ok (.zeros 5) ∧
      (file.read tree maxUInt64).map Blob.toList = .ok [0, 0, 0, 0, 0] := by
  intro file tree
  have isName : IsName (Text.Utf8.encodeText "a.jar") := by decide +kernel
  have hfind : tree.find (Text.Utf8.encodeText "a.jar") = .ok (.file (.zeros 5)) :=
    isName.find_alone (by decide)
  have hread := fun max => (@read_all_or_nothing file _ rfl tree max).1 _ hfind
  refine ⟨(hread 4).1, (hread 5).1, ?_⟩
  exact (hread maxUInt64).2 "a.jar" (.bytes [0, 0, 0, 0, 0]) tree rfl

end ScanFile

end ScanClient
